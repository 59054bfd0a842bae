import IncidentAgent.Lib.Regex

/-!
# Texts that a substitution leaves alone

An expression that cannot match without a character of some kind (`Regex.Needs`) matches nothing
in a text without such characters, and a substitution leaves the text as it is
(`Regex.sub_eq_of_absent`).
-/

namespace IncidentAgent

namespace Regex

/-- Each match consumes a character of a kind. -/
def Needs (p : Char → Prop) : Regex → Prop
  | .char q => ∀ c, q c = true → p c
  | .boundary _ | .empty | .star _ => False
  | .seq a b => a.Needs p ∨ b.Needs p
  | .alt a b => a.Needs p ∧ b.Needs p
  | .group _ a => a.Needs p

variable {p : Char → Prop}

/-- Where an expression matches, the text has a character that it needs. -/
theorem exists_needed {r : Regex} (hr : r.Needs p) (c : Cursor) :
    ∀ d ∈ r.ways c, ∃ x ∈ c.rest, p x := by
  induction r generalizing c with
  | char q =>
    intro d hd
    rw [ways] at hd
    cases hc : c.rest with
    | nil => simp [hc] at hd
    | cons x xs =>
      simp only [hc] at hd
      split at hd
      · rename_i hx
        exact ⟨x, List.mem_cons_self, hr x hx⟩
      · cases hd
  | boundary word => exact hr.elim
  | empty => exact hr.elim
  | star a => exact hr.elim
  | seq a b iha ihb =>
    intro d hd
    obtain ⟨e, he, hd⟩ := List.mem_flatMap.1 hd
    rcases hr with ha | hb
    · exact iha ha c e he
    · obtain ⟨x, hx, hp⟩ := ihb hb e d hd
      exact ⟨x, (suffix_of_mem_ways a c e he).subset hx, hp⟩
  | alt a b iha ihb =>
    intro d hd
    rcases List.mem_append.1 hd with hd | hd
    · exact iha hr.1 c d hd
    · exact ihb hr.2 c d hd
  | group n a ih =>
    intro d hd
    obtain ⟨e, he, -⟩ := List.mem_map.1 hd
    exact ih hr c e he

/-- From any place on, nothing is replaced. -/
theorem subFrom_eq_of_absent {r : Regex} (hr : r.Needs p) (template : List Piece) (n : ℕ)
    (previous : Option Char) (rest : List Char) (h : ∀ x ∈ rest, ¬p x) :
    subFrom r template n previous rest = rest := by
  induction n generalizing previous rest with
  | zero => rfl
  | succ n ih =>
    have hnone : r.ways ⟨previous, rest, []⟩ = [] := by
      refine List.eq_nil_iff_forall_not_mem.2 fun d hd => ?_
      obtain ⟨x, hx, hp⟩ := exists_needed hr _ d hd
      exact h x hx hp
    unfold subFrom
    rw [hnone]
    cases rest with
    | nil => rfl
    | cons x xs => exact congrArg (x :: ·) (ih _ _ fun y hy => h y (List.mem_cons_of_mem _ hy))

/-- **A text without the characters that an expression needs** is left as it is. -/
theorem sub_eq_of_absent {r : Regex} (hr : r.Needs p) (template : List Piece) {text : String}
    (h : ∀ x ∈ text.toList, ¬p x) : r.sub template text = text := by
  rw [sub, subFrom_eq_of_absent hr template _ none text.toList h, String.ofList_toList]

/-- A text is needed whole. -/
theorem needs_textBy {same : Char → Char → Bool} {text : String} {c : Char} (hc : c ∈ text.toList)
    (h : ∀ d, same c d = true → p d) : (textBy same text).Needs p := by
  rw [textBy]
  generalize text.toList = chars at hc
  induction chars with
  | nil => cases hc
  | cons x xs ih =>
    rw [List.foldr_cons]
    rcases List.mem_cons.1 hc with rfl | hc
    · exact Or.inl h
    · exact Or.inr (ih hc)

end Regex

end IncidentAgent
