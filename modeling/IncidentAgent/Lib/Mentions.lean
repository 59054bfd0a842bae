import IncidentAgent.Lib.JsonText
import IncidentAgent.Lib.Regex

/-!
# Names that a text mentions

A scanner for names finds the matches of an expression that stand alone: no character of a word
is before them or after them (`Regex.mentions`). To know what it can find in a text it is enough
to know it for the parts of the text between separators, since no name has a separator in it
(`Tells.join`); and a part that is one word is found whole or not at all (`tells_of_word`). So
the names that are mentioned in a JSON text are those that are mentioned in the texts in it
(`tells_dumps`).
-/

namespace IncidentAgent

namespace Regex

/-! ### Finding names -/

/-- What an expression matches at a place, between places where no word goes on: nothing, where it
does not match. -/
def standing (word : Char → Bool) (r : Regex) (previous : Option Char) (rest : List Char) :
    List Char :=
  if previous.any word then []
  else (((r.ways ⟨previous, rest, []⟩).find? fun d => !d.rest.head?.any word).map fun d =>
    rest.take (rest.length - d.rest.length)).getD []

/-- The matches from a place on, from left to right and without overlap. The number bounds the
steps; a match that consumes nothing is none. -/
def mentionsFrom (word : Char → Bool) (r : Regex) :
    Nat → Option Char → List Char → List (List Char)
  | 0, _, _ => []
  | _ + 1, _, [] => []
  | n + 1, previous, x :: xs =>
    if standing word r previous (x :: xs) = [] then mentionsFrom word r n (some x) xs
    else standing word r previous (x :: xs) ::
      mentionsFrom word r n (standing word r previous (x :: xs)).getLast?
        ((x :: xs).drop (standing word r previous (x :: xs)).length)

/-- `re.findall(expression, text)`, where the expression is between two assertions that no word
goes on there. -/
def mentions (word : Char → Bool) (r : Regex) (text : List Char) : List (List Char) :=
  mentionsFrom word r (text.length + 1) none text

/-- What an expression consumes is made of characters of a kind. -/
def Within (p : Char → Prop) : Regex → Prop
  | .char q => ∀ c, q c = true → p c
  | .boundary _ | .empty => True
  | .seq a b | .alt a b => a.Within p ∧ b.Within p
  | .star a => a.Within p
  | .group _ a => a.Within p

/-- **A match consumes characters of the kind of its expression.** -/
theorem consumed_of_mem_ways {p : Char → Prop} {r : Regex} (hr : r.Within p) (c : Cursor) :
    ∀ d ∈ r.ways c, ∃ text, c.rest = text ++ d.rest ∧ ∀ x ∈ text, p x := by
  induction r generalizing c with
  | char q =>
    intro d hd
    rw [ways] at hd
    cases hc : c.rest with
    | nil => simp [hc] at hd
    | cons x xs =>
      simp only [hc] at hd
      split at hd
      · rename_i hx
        rw [List.mem_singleton.1 hd]
        exact ⟨[x], rfl, by simpa using hr x hx⟩
      · simp at hd
  | boundary word =>
    intro d hd
    rw [ways] at hd
    split at hd
    · rw [List.mem_singleton.1 hd]
      exact ⟨[], rfl, by simp⟩
    · simp at hd
  | empty =>
    intro d hd
    rw [ways, List.mem_singleton] at hd
    rw [hd]
    exact ⟨[], rfl, by simp⟩
  | seq a b iha ihb =>
    intro d hd
    rw [ways, List.mem_flatMap] at hd
    obtain ⟨e, he, hd⟩ := hd
    obtain ⟨first, hfirst, hp⟩ := iha hr.1 c e he
    obtain ⟨second, hsecond, hq⟩ := ihb hr.2 e d hd
    refine ⟨first ++ second, by rw [hfirst, hsecond, List.append_assoc], fun x hx => ?_⟩
    exact (List.mem_append.1 hx).elim (hp x) (hq x)
  | alt a b iha ihb =>
    intro d hd
    rw [ways, List.mem_append] at hd
    exact hd.elim (iha hr.1 c d) (ihb hr.2 c d)
  | star a ih =>
    intro d hd
    rw [ways] at hd
    have hrefl : ∀ e : Cursor, ∃ text, e.rest = text ++ e.rest ∧ ∀ x ∈ text, p x :=
      fun e => ⟨[], rfl, by simp⟩
    have htrans : ∀ e f g : Cursor, (∃ text, e.rest = text ++ f.rest ∧ ∀ x ∈ text, p x) →
        (∃ text, f.rest = text ++ g.rest ∧ ∀ x ∈ text, p x) →
        ∃ text, e.rest = text ++ g.rest ∧ ∀ x ∈ text, p x := by
      rintro e f g ⟨first, hfirst, hp⟩ ⟨second, hsecond, hq⟩
      refine ⟨first ++ second, by rw [hfirst, hsecond, List.append_assoc], fun x hx => ?_⟩
      exact (List.mem_append.1 hx).elim (hp x) (hq x)
    exact repeated_invariant hrefl htrans (fun e => ih hr e) _ c d hd
  | group n a ih =>
    intro d hd
    rw [ways, List.mem_map] at hd
    obtain ⟨e, he, rfl⟩ := hd
    exact ih hr c e he

/-- What stands at a place is matched there. -/
theorem standing_spec {word : Char → Bool} {r : Regex} {previous : Option Char} {rest m : List Char}
    (h : standing word r previous rest = m) (hne : m ≠ []) :
    previous.any word = false ∧ ∃ suf, rest = m ++ suf ∧ suf.head?.any word = false ∧
      ∃ d ∈ r.ways ⟨previous, m ++ suf, []⟩, d.rest = suf := by
  unfold standing at h
  split at h
  · exact absurd h.symm hne
  · rename_i hprevious
    cases hfound : (r.ways ⟨previous, rest, []⟩).find? fun d => !d.rest.head?.any word with
    | none =>
      rw [hfound] at h
      exact absurd h.symm hne
    | some d =>
      have hmem := List.mem_of_find?_eq_some hfound
      have hnext := List.find?_some hfound
      obtain ⟨text, htext⟩ := suffix_of_mem_ways r _ d hmem
      have hrest : rest = text ++ d.rest := htext.symm
      have htake : rest.take (rest.length - d.rest.length) = text := by
        rw [hrest, List.length_append, Nat.add_sub_cancel, List.take_left]
      rw [hfound, Option.map_some, Option.getD_some, htake] at h
      subst h
      refine ⟨Bool.eq_false_of_not_eq_true hprevious, d.rest, hrest, by simpa using hnext, d, ?_, rfl⟩
      rw [← hrest]
      exact hmem

/-- What is found stands alone in the text, where the expression matches. -/
theorem mem_mentionsFrom {word : Char → Bool} {r : Regex} {m : List Char} (n : Nat)
    (before rest : List Char) (h : m ∈ mentionsFrom word r n before.getLast? rest) :
    ∃ pre suf, before ++ rest = pre ++ m ++ suf ∧ pre.getLast?.any word = false ∧
      suf.head?.any word = false ∧
      ∃ d ∈ r.ways ⟨pre.getLast?, m ++ suf, []⟩, d.rest = suf := by
  induction n generalizing before rest with
  | zero => cases h
  | succ n ih =>
    cases rest with
    | nil => cases h
    | cons x xs =>
      rw [mentionsFrom] at h
      split at h
      · obtain ⟨pre, suf, htext, hfound⟩ := ih (before ++ [x]) xs (by simpa using h)
        exact ⟨pre, suf, by simpa using htext, hfound⟩
      · rename_i hne
        obtain ⟨hprevious, suf, hrest, hnext, hmatch⟩ := standing_spec rfl hne
        rcases List.mem_cons.1 h with rfl | h
        · exact ⟨before, suf, by rw [List.append_assoc, ← hrest], hprevious, hnext, hmatch⟩
        · have hlast : (before ++ standing word r before.getLast? (x :: xs)).getLast? =
              (standing word r before.getLast? (x :: xs)).getLast? := by
            rw [List.getLast?_append, List.getLast?_eq_some_getLast hne]
            rfl
          have hdrop : (x :: xs).drop (standing word r before.getLast? (x :: xs)).length = suf :=
            (congrArg (List.drop _) hrest).trans List.drop_left
          rw [hdrop, ← hlast] at h
          obtain ⟨pre, suf', hpre, hfound⟩ := ih _ suf h
          exact ⟨pre, suf', by rw [← hpre, List.append_assoc, ← hrest], hfound⟩

end Regex

/-! ### What a text tells -/

section Tells

variable {word : Char → Bool} {Name : List Char → Prop} {names : List (List Char)}
  {a b text : List Char} {s : Char}

/-- Whatever could be a name of a kind, and stands alone in a text, is one of some names. -/
def Tells (word : Char → Bool) (Name : List Char → Prop) (names : List (List Char))
    (text : List Char) : Prop :=
  ∀ pre m suf, text = pre ++ m ++ suf → pre.getLast?.any word = false →
    suf.head?.any word = false → Name m → m ∈ names

/-- What is found in a text is one of the names that it tells. -/
theorem Tells.mem_of_mentions {r : Regex} (h : Tells word Name names text)
    (hname : ∀ previous m suf, (∃ d ∈ r.ways ⟨previous, m ++ suf, []⟩, d.rest = suf) → Name m)
    {m : List Char} (hm : m ∈ r.mentions word text) : m ∈ names := by
  obtain ⟨pre, suf, htext, hbefore, hafter, hmatch⟩ := Regex.mem_mentionsFrom _ [] text hm
  exact h pre m suf htext hbefore hafter (hname _ m suf hmatch)

/-- A text without a character that all names have. -/
theorem tells_of_absent (hmark : ∀ m, Name m → s ∈ m) (h : s ∉ text) :
    Tells word Name names text := by
  rintro pre m suf rfl - - hm
  exact absurd (List.mem_append_left _ (List.mem_append_right _ (hmark m hm))) h

/-- **A text that is one word** can only be a name as a whole. -/
theorem tells_of_word (h : ∀ c ∈ text, word c = true) (hmem : text ∈ names) :
    Tells word Name names text := by
  rintro pre m suf rfl hbefore hafter -
  have hpre : pre = [] := by
    rcases List.eq_nil_or_concat pre with rfl | ⟨init, c, rfl⟩
    · rfl
    · rw [List.concat_eq_append, List.getLast?_concat, Option.any_some, h c (by simp)] at hbefore
      cases hbefore
  have hsuf : suf = [] := by
    cases suf with
    | nil => rfl
    | cons c rest =>
      rw [List.head?_cons, Option.any_some, h c (by simp)] at hafter
      cases hafter
  subst hpre hsuf
  simpa using hmem

/-- **A separator keeps the names apart.** -/
theorem Tells.join (hne : ∀ m, Name m → m ≠ []) (hsep : ∀ m, Name m → s ∉ m)
    (ha : Tells word Name names a) (hb : Tells word Name names b) :
    Tells word Name names (a ++ s :: b) := by
  intro pre m suf htext hbefore hafter hm
  have hnot := hsep m hm
  rw [List.append_assoc] at htext
  rcases List.append_eq_append_iff.1 htext with ⟨mid, rfl, hmid⟩ | ⟨mid, rfl, hmid⟩
  · -- The name begins after the first text.
    cases mid with
    | nil =>
      obtain ⟨c, rest, rfl⟩ := List.exists_cons_of_ne_nil (hne m hm)
      rw [List.nil_append, List.cons_append, List.cons.injEq] at hmid
      exact absurd (hmid.1 ▸ List.mem_cons_self) hnot
    | cons c mid =>
      rw [List.cons_append, List.cons.injEq] at hmid
      obtain ⟨rfl, hmid⟩ := hmid
      refine hb mid m suf (by rw [hmid, List.append_assoc]) ?_ hafter hm
      cases hlast : mid.getLast? with
      | none => rfl
      | some c =>
        rw [← hbefore, List.append_cons, List.getLast?_append, hlast]
        rfl
  · -- It begins in the first text, and ends before the separator.
    rcases List.append_eq_append_iff.1 hmid with ⟨rest, rfl, hrest⟩ | ⟨rest, rfl, hrest⟩
    · refine ha pre m rest (by rw [List.append_assoc]) hbefore ?_ hm
      cases rest with
      | nil => rfl
      | cons c rest =>
        rw [← hafter, hrest]
        rfl
    · cases rest with
      | nil => exact ha pre _ [] (by simp) hbefore rfl hm
      | cons c rest =>
        rw [List.cons_append, List.cons.injEq] at hrest
        exact absurd (hrest.1 ▸ by simp) hnot

end Tells

/-! ### JSON texts -/

/-- The characters that stand between the texts in a JSON text. -/
def jsonSeparators : List Char := ['"', ',', ':', ' ', '[', ']', '\x7b', '\x7d']

/-- What is known of the names of a kind: they have no separators of JSON in them, and a character
that the words and the numbers of JSON do not have. -/
structure JsonNames (Name : List Char → Prop) (mark : Char) : Prop where
  separate : ∀ m, Name m → ∀ c ∈ m, c ∉ jsonSeparators
  marked : ∀ m, Name m → mark ∈ m
  mark : mark ∉ ['-', 'n', 'u', 'l', 't', 'r', 'e', 'f', 'a', 's'] ∧ mark.isDigit = false

namespace Json

mutual

/-- All texts of a value, keys included, have a property. -/
def Texts (p : String → Prop) : Json → Prop
  | .null | .bool _ | .num _ => True
  | .str s => p s
  | .arr items => TextsItems p items
  | .obj members => TextsMembers p members

/-- All texts of the items of an array have a property. -/
def TextsItems (p : String → Prop) : List Json → Prop
  | [] => True
  | v :: rest => v.Texts p ∧ TextsItems p rest

/-- All texts of the members of an object, and their keys, have a property. -/
def TextsMembers (p : String → Prop) : List (String × Json) → Prop
  | [] => True
  | (k, v) :: rest => p k ∧ v.Texts p ∧ TextsMembers p rest

end

theorem textsItems_map {α : Type} {p : String → Prop} {f : α → Json} {xs : List α} :
    TextsItems p (xs.map f) ↔ ∀ x ∈ xs, (f x).Texts p := by
  induction xs with
  | nil => simp [TextsItems]
  | cons x rest ih => simp [TextsItems, ih]

/-- A number is written with digits, after a sign or not. -/
theorem mem_dumps_num {n : ℤ} {c : Char} (h : c ∈ (toString n).toList) :
    c = '-' ∨ c.isDigit = true := by
  have hnat : ∀ m : ℕ, ∀ c ∈ (toString m).toList, c.isDigit = true := by
    intro m c hc
    rw [Nat.toString_eq_ofList_toDigits, String.toList_ofList] at hc
    exact Nat.isDigit_of_mem_toDigits (by decide) (by decide) hc
  cases n with
  | ofNat m => exact Or.inr (hnat m c h)
  | negSucc m =>
    have htext : toString (Int.negSucc m) = "-" ++ toString (m + 1) := rfl
    rw [htext, String.toList_append, List.mem_append] at h
    rcases h with h | h
    · exact Or.inl (by simpa using h)
    · exact Or.inr (hnat _ c h)

section Dumps

variable {word : Char → Bool} {Name : List Char → Prop} {names : List (List Char)} {mark : Char}
  {a b : List Char} {s : Char}

theorem tells_separated (hnames : JsonNames Name mark) (hs : s ∈ jsonSeparators)
    (ha : Tells word Name names a) (hb : Tells word Name names b) :
    Tells word Name names (a ++ s :: b) := by
  refine ha.join (fun m hm hnil => ?_) (fun m hm h => hnames.separate m hm s h hs) hb
  have hmark := hnames.marked m hm
  rw [hnil] at hmark
  cases hmark

theorem tells_nil (hnames : JsonNames Name mark) : Tells word Name names [] :=
  tells_of_absent hnames.marked List.not_mem_nil

/-- A text in quotation marks tells what the text tells. -/
theorem tells_quoted (hnames : JsonNames Name mark) {t : String}
    (h : Tells word Name names (t.toList.flatMap escaped)) : Tells word Name names (quoted t) :=
  tells_separated hnames (by decide) (tells_nil hnames)
    (tells_separated hnames (by decide) h (tells_nil hnames))

/-- Between brackets. -/
theorem tells_enclosed (hnames : JsonNames Name mark) {s' : Char} (hs : s ∈ jsonSeparators)
    (hs' : s' ∈ jsonSeparators) (h : Tells word Name names a) :
    Tells word Name names (s :: (a ++ [s'])) :=
  tells_separated hnames hs (tells_nil hnames) (tells_separated hnames hs' h (tells_nil hnames))

/-- Two separators in a row. -/
theorem tells_spaced (hnames : JsonNames Name mark) {s' : Char} (hs : s ∈ jsonSeparators)
    (hs' : s' ∈ jsonSeparators) (ha : Tells word Name names a) (hb : Tells word Name names b) :
    Tells word Name names (a ++ ([s, s'] ++ b)) :=
  tells_separated hnames hs ha (tells_separated hnames hs' (tells_nil hnames) hb)

mutual

/-- **A JSON text tells what the texts in it tell.** -/
theorem tells_dumps (hnames : JsonNames Name mark) : ∀ v : Json,
    v.Texts (fun t => Tells word Name names (t.toList.flatMap escaped)) →
      Tells word Name names v.dumps
  | .null, _ => tells_of_absent hnames.marked fun h => hnames.mark.1 (by
      revert h; simp [dumps, dumpsBy]; tauto)
  | .bool true, _ => tells_of_absent hnames.marked fun h => hnames.mark.1 (by
      revert h; simp [dumps, dumpsBy]; tauto)
  | .bool false, _ => tells_of_absent hnames.marked fun h => hnames.mark.1 (by
      revert h; simp [dumps, dumpsBy]; tauto)
  | .num n, _ => tells_of_absent hnames.marked fun h => by
      rcases mem_dumps_num h with rfl | hdigit
      · exact hnames.mark.1 (by decide)
      · rw [hnames.mark.2] at hdigit
        cases hdigit
  | .str t, h => tells_quoted hnames h
  | .arr items, h => tells_enclosed hnames (by decide) (by decide) (tells_dumpsItems hnames items h)
  | .obj members, h =>
    tells_enclosed hnames (by decide) (by decide) (tells_dumpsMembers hnames members h)

theorem tells_dumpsItems (hnames : JsonNames Name mark) : ∀ items : List Json,
    TextsItems (fun t => Tells word Name names (t.toList.flatMap escaped)) items →
      Tells word Name names (dumpsItems [',', ' '] [':', ' '] items)
  | [], _ => tells_nil hnames
  | [v], h => tells_dumps hnames v h.1
  | v :: w :: rest, h => tells_spaced hnames (by decide) (by decide) (tells_dumps hnames v h.1)
      (tells_dumpsItems hnames (w :: rest) h.2)

theorem tells_dumpsMembers (hnames : JsonNames Name mark) : ∀ members : List (String × Json),
    TextsMembers (fun t => Tells word Name names (t.toList.flatMap escaped)) members →
      Tells word Name names (dumpsMembers [',', ' '] [':', ' '] members)
  | [], _ => tells_nil hnames
  | [(_, v)], h => tells_spaced hnames (by decide) (by decide) (tells_quoted hnames h.1)
      (tells_dumps hnames v h.2.1)
  | (_, v) :: m :: rest, h => tells_spaced hnames (by decide) (by decide) (tells_quoted hnames h.1)
      (tells_spaced hnames (by decide) (by decide) (tells_dumps hnames v h.2.1)
        (tells_dumpsMembers hnames (m :: rest) h.2.2))

end

end Dumps

end Json

end IncidentAgent
