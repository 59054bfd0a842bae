import IncidentAgent.Lib.Regex

/-!
# The language of an expression

An expression without assertions accepts the same texts wherever they stand. The matcher finds
exactly these (`Regex.mem_ways_iff`): from a place it leads to the places that come after a text of
the language.
-/

namespace IncidentAgent

namespace Regex

/-- An expression without assertions. -/
def assertionFree : Regex → Bool
  | .boundary _ => false
  | .char _ | .empty => true
  | .seq a b | .alt a b => a.assertionFree && b.assertionFree
  | .star a | .group _ a => a.assertionFree

/-- The texts that an expression without assertions accepts. -/
def Accepts : Regex → List Char → Prop
  | .char p, text => ∃ c, text = [c] ∧ p c = true
  | .boundary _, _ => False
  | .empty, text => text = []
  | .seq a b, text => ∃ first second, text = first ++ second ∧ a.Accepts first ∧ b.Accepts second
  | .alt a b, text => a.Accepts text ∨ b.Accepts text
  | .star a, text => ∃ parts : List (List Char), text = parts.flatten ∧ ∀ part ∈ parts, a.Accepts part
  | .group _ a, text => a.Accepts text

/-- Repetition leads behind any number of texts that a turn can consume. -/
theorem exists_mem_repeated {turn : Cursor → List Cursor} {accepted : List Char → Prop}
    (hturn : ∀ (c : Cursor) (text suf : List Char), c.rest = text ++ suf → accepted text →
      ∃ d ∈ turn c, d.rest = suf)
    (parts : List (List Char)) (hparts : ∀ part ∈ parts, accepted part) (n : ℕ) (c : Cursor)
    (suf : List Char) (hrest : c.rest = parts.flatten ++ suf) (hn : c.rest.length ≤ n) :
    ∃ d ∈ repeated turn n c, d.rest = suf := by
  induction parts generalizing n c with
  | nil =>
    refine ⟨c, ?_, hrest⟩
    cases n with
    | zero => exact List.mem_singleton_self c
    | succ n => exact List.mem_append_right _ (List.mem_singleton_self c)
  | cons part parts ih =>
    have hothers : ∀ p ∈ parts, accepted p := fun p hp => hparts p (List.mem_cons_of_mem _ hp)
    by_cases hempty : part = []
    · exact ih hothers n c (by rw [hrest, hempty, List.flatten_cons, List.nil_append]) hn
    have hpos := List.length_pos_of_ne_nil hempty
    rw [List.flatten_cons, List.append_assoc] at hrest
    obtain ⟨d, hd, hdrest⟩ := hturn c part _ hrest (hparts part List.mem_cons_self)
    have hlength := congrArg List.length hrest
    rw [List.length_append, ← hdrest] at hlength
    cases n with
    | zero => omega
    | succ n =>
      obtain ⟨e, he, hsuf⟩ := ih hothers n d hdrest (by omega)
      refine ⟨e, List.mem_append_left _ (List.mem_flatMap.2 ⟨d, List.mem_filter.2 ⟨hd, ?_⟩, he⟩), hsuf⟩
      exact decide_eq_true (by omega)

/-- **The matcher finds the texts of the language**, and nothing else. -/
theorem mem_ways_iff {r : Regex} (hr : r.assertionFree = true) (c : Cursor) (suf : List Char) :
    (∃ d ∈ r.ways c, d.rest = suf) ↔ ∃ text, c.rest = text ++ suf ∧ r.Accepts text := by
  induction r generalizing c suf with
  | char p =>
    cases hc : c.rest with
    | nil =>
      simp only [ways, hc, List.not_mem_nil, false_and, exists_false, false_iff]
      rintro ⟨text, htext, x, rfl, -⟩
      cases htext
    | cons x xs =>
      simp only [ways, hc]
      constructor
      · rintro ⟨d, hd, rfl⟩
        split at hd
        · rename_i hx
          rw [List.mem_singleton.1 hd]
          exact ⟨[x], rfl, x, rfl, hx⟩
        · cases hd
      · rintro ⟨text, htext, y, rfl, hy⟩
        rw [List.singleton_append, List.cons.injEq] at htext
        obtain ⟨rfl, rfl⟩ := htext
        rw [if_pos hy]
        exact ⟨_, List.mem_singleton_self _, rfl⟩
  | boundary word => cases hr
  | empty => simp [ways, Accepts]
  | seq a b iha ihb =>
    rw [assertionFree, Bool.and_eq_true] at hr
    constructor
    · rintro ⟨d, hd, hsuf⟩
      obtain ⟨e, he, hd⟩ := List.mem_flatMap.1 hd
      obtain ⟨first, hfirst, ha⟩ := (iha hr.1 c e.rest).1 ⟨e, he, rfl⟩
      obtain ⟨second, hsecond, hb⟩ := (ihb hr.2 e suf).1 ⟨d, hd, hsuf⟩
      exact ⟨first ++ second, by rw [hfirst, hsecond, List.append_assoc], first, second, rfl, ha, hb⟩
    · rintro ⟨text, htext, first, second, rfl, ha, hb⟩
      rw [List.append_assoc] at htext
      obtain ⟨e, he, hrest⟩ := (iha hr.1 c _).2 ⟨first, htext, ha⟩
      obtain ⟨d, hd, hsuf⟩ := (ihb hr.2 e suf).2 ⟨second, hrest, hb⟩
      exact ⟨d, List.mem_flatMap.2 ⟨e, he, hd⟩, hsuf⟩
  | alt a b iha ihb =>
    rw [assertionFree, Bool.and_eq_true] at hr
    constructor
    · rintro ⟨d, hd, hsuf⟩
      rcases List.mem_append.1 hd with hd | hd
      · obtain ⟨text, htext, ha⟩ := (iha hr.1 c suf).1 ⟨d, hd, hsuf⟩
        exact ⟨text, htext, Or.inl ha⟩
      · obtain ⟨text, htext, hb⟩ := (ihb hr.2 c suf).1 ⟨d, hd, hsuf⟩
        exact ⟨text, htext, Or.inr hb⟩
    · rintro ⟨text, htext, ha | hb⟩
      · obtain ⟨d, hd, hsuf⟩ := (iha hr.1 c suf).2 ⟨text, htext, ha⟩
        exact ⟨d, List.mem_append_left _ hd, hsuf⟩
      · obtain ⟨d, hd, hsuf⟩ := (ihb hr.2 c suf).2 ⟨text, htext, hb⟩
        exact ⟨d, List.mem_append_right _ hd, hsuf⟩
  | star a ih =>
    constructor
    · rintro ⟨d, hd, rfl⟩
      refine repeated_invariant (P := fun c d => ∃ text, c.rest = text ++ d.rest ∧
        (star a).Accepts text) (fun c => ⟨[], rfl, [], rfl, by simp⟩) ?_ ?_ _ c d hd
      · rintro c d e ⟨first, hfirst, parts, rfl, hparts⟩ ⟨second, hsecond, parts', rfl, hparts'⟩
        refine ⟨_, by rw [hfirst, hsecond, List.append_assoc], parts ++ parts',
          List.flatten_append.symm, fun part hpart => ?_⟩
        exact (List.mem_append.1 hpart).elim (hparts part) (hparts' part)
      · intro c d hd
        obtain ⟨text, htext, ha⟩ := (ih hr c d.rest).1 ⟨d, hd, rfl⟩
        exact ⟨text, htext, [text], by simp, fun part hpart => List.mem_singleton.1 hpart ▸ ha⟩
    · rintro ⟨text, htext, parts, rfl, hparts⟩
      exact exists_mem_repeated (fun c text suf hc ha => (ih hr c suf).2 ⟨text, hc, ha⟩) parts
        hparts _ c suf htext le_rfl
  | group n a ih =>
    rw [ways]
    constructor
    · rintro ⟨d, hd, hsuf⟩
      obtain ⟨e, he, rfl⟩ := List.mem_map.1 hd
      exact (ih hr c suf).1 ⟨e, he, hsuf⟩
    · intro h
      obtain ⟨e, he, hsuf⟩ := (ih hr c suf).2 h
      exact ⟨_, List.mem_map_of_mem he, hsuf⟩

/-- The texts of repeated characters of a kind. -/
theorem accepts_star_char {p : Char → Bool} {text : List Char} :
    (star (.char p)).Accepts text ↔ ∀ c ∈ text, p c = true := by
  constructor
  · rintro ⟨parts, rfl, hparts⟩ c hc
    obtain ⟨part, hpart, hc⟩ := List.mem_flatten.1 hc
    obtain ⟨x, rfl, hx⟩ := hparts part hpart
    rwa [List.mem_singleton.1 hc]
  · intro h
    have hflat : text = (text.map fun c => [c]).flatten := by
      rw [← List.flatMap_def]
      simp
    refine ⟨text.map fun c => [c], hflat, fun part hpart => ?_⟩
    obtain ⟨c, hc, rfl⟩ := List.mem_map.1 hpart
    exact ⟨c, rfl, h c hc⟩

/-- One character, then a text. -/
theorem accepts_char_seq {p : Char → Bool} {r : Regex} {text : List Char} :
    (seq (.char p) r).Accepts text ↔ ∃ c rest, text = c :: rest ∧ p c = true ∧ r.Accepts rest := by
  constructor
  · rintro ⟨-, rest, rfl, ⟨c, rfl, hc⟩, hrest⟩
    exact ⟨c, rest, rfl, hc, hrest⟩
  · rintro ⟨c, rest, rfl, hc, hrest⟩
    exact ⟨[c], rest, rfl, ⟨c, rfl, hc⟩, hrest⟩

/-- At least one character of a kind, then a text. -/
theorem accepts_plus_seq {p : Char → Bool} {r : Regex} {text : List Char} :
    (seq (plus (.char p)) r).Accepts text ↔ ∃ first rest, text = first ++ rest ∧ first ≠ [] ∧
      (∀ c ∈ first, p c = true) ∧ r.Accepts rest := by
  constructor
  · rintro ⟨first, rest, rfl, hfirst, hrest⟩
    obtain ⟨c, others, rfl, hc, hothers⟩ := accepts_char_seq.1 hfirst
    refine ⟨c :: others, rest, rfl, List.cons_ne_nil c others, fun x hx => ?_, hrest⟩
    rcases List.mem_cons.1 hx with rfl | hx
    · exact hc
    · exact accepts_star_char.1 hothers x hx
  · rintro ⟨first, rest, rfl, hne, hfirst, hrest⟩
    obtain ⟨c, others, rfl⟩ := List.exists_cons_of_ne_nil hne
    refine ⟨c :: others, rest, rfl, accepts_char_seq.2 ⟨c, others, rfl, ?_, ?_⟩, hrest⟩
    · exact hfirst c List.mem_cons_self
    · exact accepts_star_char.2 fun x hx => hfirst x (List.mem_cons_of_mem _ hx)

end Regex

end IncidentAgent
