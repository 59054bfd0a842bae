import Mathlib.Data.List.Pairwise
import Mathlib.Data.List.Perm.Basic

/-!
# Classes of a list

Items are put one after the other into the class of those with the same key, which comes at the
end where it is new. The classes then have each item once, in the order of the list, and two items
are in one class if and only if they have one key (`classesOf_spec`).
-/

namespace IncidentAgent

namespace Classes

variable {α κ : Type} [DecidableEq κ] {key : α → κ} {xs : List α} {classes : List (List α)}

/-- The classes after one more item. -/
def addTo (key : α → κ) (x : α) : List (List α) → List (List α)
  | [] => [[x]]
  | c :: rest => if c.head?.map key = some (key x) then (c ++ [x]) :: rest else c :: addTo key x rest

/-- The classes of a list. -/
def classesOf (key : α → κ) (xs : List α) : List (List α) :=
  xs.foldl (fun classes x => addTo key x classes) []

/-- Classes of some items: each of them once and in order, two in one class if and only if they
have the same key. -/
structure Divides (key : α → κ) (xs : List α) (classes : List (List α)) : Prop where
  perm : classes.flatten.Perm xs
  nonempty : ∀ c ∈ classes, c ≠ []
  sublist : ∀ c ∈ classes, c.Sublist xs
  uniform : ∀ c ∈ classes, ∀ a ∈ c, ∀ b ∈ c, key a = key b
  apart : classes.Pairwise fun c d => ∀ a ∈ c, ∀ b ∈ d, key a ≠ key b

theorem perm_flatten_addTo (x : α) (classes : List (List α)) :
    (addTo key x classes).flatten.Perm (classes.flatten ++ [x]) := by
  induction classes with
  | nil => exact List.Perm.refl _
  | cons c rest ih =>
    rw [addTo]
    split
    · rw [List.flatten_cons, List.flatten_cons, List.append_assoc, List.append_assoc]
      exact (List.perm_append_comm).append_left c
    · rw [List.flatten_cons, List.flatten_cons, List.append_assoc]
      exact ih.append_left c

/-- A class after one more item is an old one, an old one with the item, or the item alone. -/
theorem mem_addTo {x : α} {c : List α} (h : c ∈ addTo key x classes) :
    c ∈ classes ∨ (∃ d ∈ classes, c = d ++ [x] ∧ d.head?.map key = some (key x)) ∨ c = [x] := by
  induction classes with
  | nil => exact Or.inr (Or.inr (List.mem_singleton.1 h))
  | cons d rest ih =>
    rw [addTo] at h
    split at h
    · rename_i hkey
      rcases List.mem_cons.1 h with rfl | h
      · exact Or.inr (Or.inl ⟨d, List.mem_cons_self, rfl, hkey⟩)
      · exact Or.inl (List.mem_cons_of_mem _ h)
    · rcases List.mem_cons.1 h with rfl | h
      · exact Or.inl List.mem_cons_self
      · rcases ih h with h | ⟨e, he, hmore⟩ | h
        · exact Or.inl (List.mem_cons_of_mem _ h)
        · exact Or.inr (Or.inl ⟨e, List.mem_cons_of_mem _ he, hmore⟩)
        · exact Or.inr (Or.inr h)

theorem pairwise_addTo {x : α}
    (huniform : ∀ c ∈ classes, c ≠ [] ∧ ∀ a ∈ c, ∀ b ∈ c, key a = key b)
    (h : classes.Pairwise fun c d => ∀ a ∈ c, ∀ b ∈ d, key a ≠ key b) :
    (addTo key x classes).Pairwise fun c d => ∀ a ∈ c, ∀ b ∈ d, key a ≠ key b := by
  induction classes with
  | nil => exact List.pairwise_singleton _ _
  | cons c rest ih =>
    obtain ⟨hfirst, hrest⟩ := List.pairwise_cons.1 h
    obtain ⟨hne, hsame⟩ := huniform c List.mem_cons_self
    obtain ⟨y, c', rfl⟩ := List.exists_cons_of_ne_nil hne
    rw [addTo]
    split
    · rename_i hkey
      rw [List.head?_cons, Option.map_some, Option.some.injEq] at hkey
      refine List.pairwise_cons.2 ⟨fun d hd a ha b hb => ?_, hrest⟩
      rcases List.mem_append.1 ha with ha | ha
      · exact hfirst d hd a ha b hb
      · rw [List.mem_singleton.1 ha, ← hkey]
        exact hfirst d hd y List.mem_cons_self b hb
    · rename_i hkey
      rw [List.head?_cons, Option.map_some, Option.some.injEq] at hkey
      refine List.pairwise_cons.2 ⟨fun d hd a ha b hb => ?_,
        ih (fun d hd => huniform d (List.mem_cons_of_mem _ hd)) hrest⟩
      have hother : key a ≠ key x := fun he =>
        hkey ((hsame y List.mem_cons_self a ha).trans he)
      rcases mem_addTo hd with hd | ⟨e, he, rfl, -⟩ | rfl
      · exact hfirst d hd a ha b hb
      · rcases List.mem_append.1 hb with hb | hb
        · exact hfirst e he a ha b hb
        · rwa [List.mem_singleton.1 hb]
      · rwa [List.mem_singleton.1 hb]

/-- **One more item** is put into its class. -/
theorem Divides.step (h : Divides key xs classes) (x : α) :
    Divides key (xs ++ [x]) (addTo key x classes) where
  perm := (perm_flatten_addTo x classes).trans (h.perm.append_right [x])
  nonempty c hc := by
    rcases mem_addTo hc with hc | ⟨d, -, rfl, -⟩ | rfl
    · exact h.nonempty c hc
    · simp
    · simp
  sublist c hc := by
    rcases mem_addTo hc with hc | ⟨d, hd, rfl, -⟩ | rfl
    · exact (h.sublist c hc).trans (List.sublist_append_left xs [x])
    · exact (h.sublist d hd).append (List.Sublist.refl [x])
    · exact List.sublist_append_right xs [x]
  uniform c hc := by
    rcases mem_addTo hc with hc | ⟨d, hd, rfl, hkey⟩ | rfl
    · exact h.uniform c hc
    · have hx : ∀ a ∈ d, key a = key x := by
        intro a ha
        cases d with
        | nil => cases ha
        | cons y d =>
          rw [List.head?_cons, Option.map_some, Option.some.injEq] at hkey
          exact (h.uniform _ hd a ha y List.mem_cons_self).trans hkey
      intro a ha b hb
      rcases List.mem_append.1 ha with ha | ha <;> rcases List.mem_append.1 hb with hb | hb
      · exact h.uniform d hd a ha b hb
      · rw [List.mem_singleton.1 hb]
        exact hx a ha
      · rw [List.mem_singleton.1 ha]
        exact (hx b hb).symm
      · rw [List.mem_singleton.1 ha, List.mem_singleton.1 hb]
    · intro a ha b hb
      rw [List.mem_singleton.1 ha, List.mem_singleton.1 hb]
  apart := pairwise_addTo (fun c hc => ⟨h.nonempty c hc, h.uniform c hc⟩) h.apart

/-- Further items are put into their classes. -/
theorem Divides.run (h : Divides key xs classes) (ys : List α) :
    Divides key (xs ++ ys) (ys.foldl (fun classes x => addTo key x classes) classes) := by
  induction ys generalizing xs classes with
  | nil => rwa [List.append_nil]
  | cons y ys ih =>
    rw [List.foldl_cons, List.append_cons]
    exact ih (h.step y)

/-- **The classes of a list divide it.** -/
theorem classesOf_spec (key : α → κ) (xs : List α) : Divides key xs (classesOf key xs) := by
  have hnone : Divides key [] [] :=
    ⟨List.Perm.refl _, by simp, by simp, by simp, List.Pairwise.nil⟩
  have hrun := hnone.run xs
  rwa [List.nil_append] at hrun

omit [DecidableEq κ] in
/-- **Two items are in one class** if and only if they have the same key. -/
theorem Divides.same_iff (h : Divides key xs classes) {a b : α} (ha : a ∈ xs) (hb : b ∈ xs) :
    (∃ c ∈ classes, a ∈ c ∧ b ∈ c) ↔ key a = key b := by
  constructor
  · rintro ⟨c, hc, hac, hbc⟩
    exact h.uniform c hc a hac b hbc
  · intro hkey
    obtain ⟨c, hc, hac⟩ := List.mem_flatten.1 (h.perm.mem_iff.2 ha)
    obtain ⟨d, hd, hbd⟩ := List.mem_flatten.1 (h.perm.mem_iff.2 hb)
    refine ⟨c, hc, hac, ?_⟩
    by_contra hne
    have hcd : c ≠ d := fun he => hne (he ▸ hbd)
    have hsymm : Std.Symm fun c d : List α => ∀ a ∈ c, ∀ b ∈ d, key a ≠ key b :=
      ⟨fun c d hcd a ha b hb => (hcd b hb a ha).symm⟩
    exact h.apart.forall hc hd hcd a hac b hbd hkey

end Classes

end IncidentAgent
