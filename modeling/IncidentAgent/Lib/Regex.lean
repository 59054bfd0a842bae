import Mathlib.Data.List.Infix

/-!
# Regular expressions and substitution

A backtracking matcher. `Regex.ways` lists the ways in which an expression matches at a
place, the preferred one first, as a matcher that tries alternatives from left to right and
repeats greedily finds them; `Regex.sub` replaces the matches of an expression by a template,
from left to right and without overlap.

What a redaction needs of it is that a substitution leaves no doubt about itself
(`Regex.sub_eq_or_infix`): either nothing was replaced and the text is as it was, or the
result has every literal text of the template.
-/

namespace IncidentAgent

/-- White space, as `\s` and `str.isspace` have it. -/
def isSpace (c : Char) : Bool :=
  [9, 10, 11, 12, 13, 28, 29, 30, 31, 32, 0x85, 0xA0, 0x1680, 0x2028, 0x2029, 0x202F, 0x205F,
    0x3000].contains c.toNat || (0x2000 ≤ c.toNat && c.toNat ≤ 0x200A)

/-- A regular expression. The group of a number records the text that it matched. -/
inductive Regex
  | char (p : Char → Bool)
  /-- `\b`, where the characters of words are those that satisfy a predicate. -/
  | boundary (word : Char → Bool)
  | empty
  | seq (a b : Regex)
  | alt (a b : Regex)
  | star (a : Regex)
  | group (n : Nat) (a : Regex)

namespace Regex

/-- A place in a text: the character before it, the text after it, and the groups that have
matched, the last one first. -/
structure Cursor where
  previous : Option Char
  rest : List Char
  groups : List (Nat × List Char)

/-- The places that greedy repetition leads to: as many turns as possible first. A turn that
consumes nothing ends it. -/
def repeated (turn : Cursor → List Cursor) : Nat → Cursor → List Cursor
  | 0, c => [c]
  | n + 1, c =>
    ((turn c).filter fun d => d.rest.length < c.rest.length).flatMap (repeated turn n) ++ [c]

/-- Whether a place is between a character of a word and another one. -/
def atBoundary (word : Char → Bool) (c : Cursor) : Bool :=
  c.previous.any word != c.rest.head?.any word

/-- The places that a match of an expression leads to, the preferred one first. -/
def ways : Regex → Cursor → List Cursor
  | .char p, c => match c.rest with
    | [] => []
    | x :: xs => if p x then [{ c with previous := some x, rest := xs }] else []
  | .boundary word, c => if atBoundary word c then [c] else []
  | .empty, c => [c]
  | .seq a b, c => (a.ways c).flatMap b.ways
  | .alt a b, c => a.ways c ++ b.ways c
  | .star a, c => repeated a.ways c.rest.length c
  | .group n a, c => (a.ways c).map fun d =>
      { d with groups := (n, c.rest.take (c.rest.length - d.rest.length)) :: d.groups }

/-- One or more times. -/
def plus (a : Regex) : Regex := .seq a (.star a)

/-- At most once. -/
def optional (a : Regex) : Regex := .alt a .empty

/-- The characters of a text, each under a predicate. -/
def textBy (same : Char → Char → Bool) (text : String) : Regex :=
  text.toList.foldr (fun c r => .seq (.char (same c)) r) .empty

/-- One of several expressions, the first ones preferred. -/
def oneOf : List Regex → Regex
  | [] => .char fun _ => false
  | [a] => a
  | a :: rest => .alt a (oneOf rest)

/-- A piece of a template. -/
inductive Piece
  | text (s : String)
  | group (n : Nat)

/-- What a template stands for after a match. -/
def expand (template : List Piece) (groups : List (Nat × List Char)) : List Char :=
  template.flatMap fun
    | .text s => s.toList
    | .group n => (groups.lookup n).getD []

/-- A text with the matches of an expression replaced, from a place on. The number bounds the
steps; a match that consumes nothing is none. -/
def subFrom (r : Regex) (template : List Piece) : Nat → Option Char → List Char → List Char
  | 0, _, rest => rest
  | n + 1, previous, rest =>
    match (r.ways ⟨previous, rest, []⟩).head? with
    | some d =>
      if d.rest.length < rest.length then
        expand template d.groups ++ subFrom r template n d.previous d.rest
      else match rest with
        | [] => []
        | x :: xs => x :: subFrom r template n (some x) xs
    | none => match rest with
      | [] => []
      | x :: xs => x :: subFrom r template n (some x) xs

/-- The text of the first match of an expression, from a place on. -/
def searchFrom (r : Regex) : Option Char → List Char → Option (List Char)
  | previous, [] => if (r.ways ⟨previous, [], []⟩).isEmpty then none else some []
  | previous, x :: xs =>
    match (r.ways ⟨previous, x :: xs, []⟩).head? with
    | some d => some ((x :: xs).take (xs.length + 1 - d.rest.length))
    | none => searchFrom r (some x) xs

/-- `re.search(expression, text)`, the text of the match. -/
def search (r : Regex) (text : String) : Option String :=
  (searchFrom r none text.toList).map String.ofList

/-- `re.sub(expression, template, text)`. -/
def sub (r : Regex) (template : List Piece) (text : String) : String :=
  String.ofList (subFrom r template (text.toList.length + 1) none text.toList)

theorem infix_expand {template : List Piece} {s : String} (h : Piece.text s ∈ template)
    (groups : List (Nat × List Char)) : s.toList <:+: expand template groups := by
  obtain ⟨before, after, rfl⟩ := List.append_of_mem h
  rw [expand, List.flatMap_append, List.flatMap_cons]
  exact (List.infix_append [] _ _).trans (List.suffix_append _ _).isInfix

/-- From any place on, either nothing is replaced or a template has been put in. -/
theorem subFrom_eq_or_infix {r : Regex} {template : List Piece} {s : String}
    (h : Piece.text s ∈ template) (n : Nat) (previous : Option Char) (rest : List Char) :
    subFrom r template n previous rest = rest ∨
      s.toList <:+: subFrom r template n previous rest := by
  induction n generalizing previous rest with
  | zero => exact .inl rfl
  | succ n ih =>
    have hskip : ∀ x xs, x :: subFrom r template n (some x) xs = x :: xs ∨
        s.toList <:+: x :: subFrom r template n (some x) xs := by
      intro x xs
      rcases ih (some x) xs with hsame | hfound
      · exact .inl (by rw [hsame])
      · exact .inr (hfound.trans (List.suffix_cons _ _).isInfix)
    unfold subFrom
    split
    · split
      · exact .inr ((infix_expand h _).trans (List.prefix_append _ _).isInfix)
      · split
        · exact .inl rfl
        · exact hskip _ _
    · split
      · exact .inl rfl
      · exact hskip _ _

/-- **A substitution leaves the text as it was, or its result has the literal texts of the
template.** -/
theorem sub_eq_or_infix {r : Regex} {template : List Piece} {s : String}
    (h : Piece.text s ∈ template) (text : String) :
    r.sub template text = text ∨ s.toList <:+: (r.sub template text).toList := by
  rcases subFrom_eq_or_infix h (text.toList.length + 1) none text.toList with hsame | hfound
  · exact .inl (by rw [sub, hsame, String.ofList_toList])
  · exact .inr (by rw [sub, String.toList_ofList]; exact hfound)

/-! ### What a match consumes -/

/-- An expression without groups. -/
def groupFree : Regex → Bool
  | .char _ | .boundary _ | .empty => true
  | .seq a b | .alt a b => a.groupFree && b.groupFree
  | .star a => a.groupFree
  | .group _ _ => false

/-- Repetition keeps what each turn keeps. -/
theorem repeated_invariant {turn : Cursor → List Cursor} {P : Cursor → Cursor → Prop}
    (hrefl : ∀ c, P c c) (htrans : ∀ a b c, P a b → P b c → P a c)
    (h : ∀ c, ∀ d ∈ turn c, P c d) (n : Nat) (c : Cursor) : ∀ d ∈ repeated turn n c, P c d := by
  induction n generalizing c with
  | zero =>
    intro d hd
    rw [repeated, List.mem_singleton] at hd
    rw [hd]
    exact hrefl c
  | succ n ih =>
    intro d hd
    rw [repeated, List.mem_append, List.mem_singleton, List.mem_flatMap] at hd
    rcases hd with ⟨e, he, hd⟩ | rfl
    · exact htrans c e d (h c e (List.mem_filter.1 he).1) (ih e d hd)
    · exact hrefl d

/-- **A match consumes the text from its beginning.** -/
theorem suffix_of_mem_ways (r : Regex) (c : Cursor) : ∀ d ∈ r.ways c, d.rest <:+ c.rest := by
  induction r generalizing c with
  | char p =>
    intro d hd
    rw [ways] at hd
    cases hc : c.rest with
    | nil => simp [hc] at hd
    | cons x xs =>
      simp only [hc] at hd
      split at hd
      · rw [List.mem_singleton.1 hd]
        exact List.suffix_cons x xs
      · simp at hd
  | boundary word =>
    intro d hd
    rw [ways] at hd
    split at hd
    · rw [List.mem_singleton.1 hd]
    · simp at hd
  | empty =>
    intro d hd
    rw [ways, List.mem_singleton] at hd
    rw [hd]
  | seq a b iha ihb =>
    intro d hd
    rw [ways, List.mem_flatMap] at hd
    obtain ⟨e, he, hd⟩ := hd
    exact (ihb e d hd).trans (iha c e he)
  | alt a b iha ihb =>
    intro d hd
    rw [ways, List.mem_append] at hd
    exact hd.elim (iha c d) (ihb c d)
  | star a ih =>
    intro d hd
    rw [ways] at hd
    have hturn : ∀ e : Cursor, ∀ f ∈ a.ways e, f.rest <:+ e.rest := fun e => ih e
    exact repeated_invariant (fun e => List.suffix_refl _)
      (fun _ _ _ h k => k.trans h) hturn _ c d hd
  | group n a ih =>
    intro d hd
    rw [ways, List.mem_map] at hd
    obtain ⟨e, he, rfl⟩ := hd
    exact ih c e he

/-- A match of an expression without groups records none. -/
theorem groups_of_mem_ways {r : Regex} (hr : r.groupFree = true) (c : Cursor) :
    ∀ d ∈ r.ways c, d.groups = c.groups := by
  induction r generalizing c with
  | char p =>
    intro d hd
    rw [ways] at hd
    cases hc : c.rest with
    | nil => simp [hc] at hd
    | cons x xs =>
      simp only [hc] at hd
      split at hd
      · rw [List.mem_singleton.1 hd]
      · simp at hd
  | boundary word =>
    intro d hd
    rw [ways] at hd
    split at hd
    · rw [List.mem_singleton.1 hd]
    · simp at hd
  | empty =>
    intro d hd
    rw [ways, List.mem_singleton] at hd
    rw [hd]
  | seq a b iha ihb =>
    intro d hd
    rw [groupFree, Bool.and_eq_true] at hr
    rw [ways, List.mem_flatMap] at hd
    obtain ⟨e, he, hd⟩ := hd
    exact (ihb hr.2 e d hd).trans (iha hr.1 c e he)
  | alt a b iha ihb =>
    intro d hd
    rw [groupFree, Bool.and_eq_true] at hr
    rw [ways, List.mem_append] at hd
    exact hd.elim (iha hr.1 c d) (ihb hr.2 c d)
  | star a ih =>
    intro d hd
    rw [ways] at hd
    have hrefl : ∀ e : Cursor, e.groups = e.groups := fun _ => rfl
    exact repeated_invariant hrefl (fun _ _ _ h k => k.trans h) (fun e => ih hr e) _ c d hd
  | group n a ih => cases hr

/-- **A group records what its expression consumed.** -/
theorem group_of_mem_ways {n : Nat} {a : Regex} {c d : Cursor} (hd : d ∈ (group n a).ways c)
    (ha : a.groupFree = true) :
    ∃ text, d.groups = (n, text) :: c.groups ∧ c.rest = text ++ d.rest := by
  rw [ways, List.mem_map] at hd
  obtain ⟨e, he, rfl⟩ := hd
  obtain ⟨text, htext⟩ := suffix_of_mem_ways a c e he
  refine ⟨text, ?_, htext.symm⟩
  have hlength : c.rest.length - e.rest.length = text.length := by
    rw [← htext, List.length_append]
    omega
  show (n, c.rest.take (c.rest.length - e.rest.length)) :: e.groups = _
  rw [groups_of_mem_ways ha c e he, hlength, ← htext, List.take_left]

end Regex

end IncidentAgent
