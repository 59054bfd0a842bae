import Mathlib.Algebra.Group.Defs
import Mathlib.Data.List.Nodup
import Mathlib.Tactic.Abel
import Mathlib.Tactic.Common

/-!
# Dictionaries in the order of their keys

A dictionary that keeps the order in which its keys were set is a list of entries with
different keys. An entry is read by its key (`List.lookup`), changed in its place (`update`), and
added at the end. A quantity of the values has a total over all entries, which an addition
increases by the quantity of the new value (`total_append`), and a change by the difference
that it makes to one value (`total_update`).
-/

namespace IncidentAgent

namespace Entries

variable {κ α : Type} [DecidableEq κ]

/-- The entries with the value of one key changed. -/
def update (key : κ) (f : α → α) (entries : List (κ × α)) : List (κ × α) :=
  entries.map fun e => if e.1 = key then (e.1, f e.2) else e

/-- `entries[key] = value`: the entry is changed in its place, or comes last. -/
def set (key : κ) (value : α) : List (κ × α) → List (κ × α)
  | [] => [(key, value)]
  | e :: rest => if e.1 = key then (key, value) :: rest else e :: set key value rest

/-- The total of a quantity over all entries. -/
def total {M : Type} [Zero M] [Add M] (quantity : α → M) : List (κ × α) → M
  | [] => 0
  | e :: rest => quantity e.2 + total quantity rest

section Reading

variable {entries : List (κ × α)} {key k : κ} {value : α}

theorem lookup_cons (e : κ × α) (rest : List (κ × α)) (k : κ) :
    (e :: rest).lookup k = if k = e.1 then some e.2 else rest.lookup k := by
  by_cases h : k = e.1
  · rw [if_pos h, h, List.lookup_cons_self]
  · rw [if_neg h, List.lookup_cons, beq_false_of_ne h]

theorem mem_of_lookup (h : entries.lookup key = some value) : (key, value) ∈ entries := by
  obtain ⟨before, after, rfl, -⟩ := List.lookup_eq_some_iff.1 h
  exact List.mem_append_right _ List.mem_cons_self

/-- A key that is not there is read as nothing. -/
theorem lookup_eq_none_iff : entries.lookup key = none ↔ key ∉ entries.map Prod.fst := by
  induction entries with
  | nil => simp
  | cons e rest ih =>
    rw [lookup_cons, List.map_cons, List.mem_cons, not_or, ← ih]
    by_cases h : key = e.1 <;> simp [h]

/-- **An entry is what its key is read as**, when keys are different. -/
theorem lookup_of_mem (hkeys : (entries.map Prod.fst).Nodup) (h : (key, value) ∈ entries) :
    entries.lookup key = some value := by
  induction entries with
  | nil => cases h
  | cons e rest ih =>
    rw [List.map_cons, List.nodup_cons] at hkeys
    rw [lookup_cons]
    rcases List.mem_cons.1 h with rfl | h
    · exact if_pos rfl
    · have hne : key ≠ e.1 := fun he => hkeys.1 (List.mem_map.2 ⟨(key, value), h, he⟩)
      rw [if_neg hne]
      exact ih hkeys.2 h

theorem lookup_append (rest : List (κ × α)) :
    (entries ++ rest).lookup key = (entries.lookup key).or (rest.lookup key) := by
  induction entries with
  | nil => rfl
  | cons e es ih =>
    rw [List.cons_append, lookup_cons, lookup_cons, ih]
    split <;> rfl

omit [DecidableEq κ] in
/-- The entries with other values. -/
theorem lookup_map [BEq κ] {β : Type} (f : α → β) (entries : List (κ × α)) (k : κ) :
    (entries.map fun e => (e.1, f e.2)).lookup k = (entries.lookup k).map f := by
  induction entries with
  | nil => rfl
  | cons e rest ih =>
    rw [List.map_cons, List.lookup_cons, List.lookup_cons, ih]
    split <;> rfl

/-- The entries whose key satisfies a condition. -/
theorem lookup_filter_key (p : κ → Bool) (entries : List (κ × α)) (k : κ) :
    (entries.filter fun e => p e.1).lookup k = if p k then entries.lookup k else none := by
  induction entries with
  | nil => exact (ite_self _).symm
  | cons e rest ih =>
    rw [List.filter_cons, lookup_cons]
    by_cases hp : p e.1
    · rw [if_pos hp, lookup_cons, ih]
      by_cases hk : k = e.1
      · rw [if_pos hk, if_pos hk, hk, if_pos hp]
      · rw [if_neg hk, if_neg hk]
    · rw [if_neg hp, ih]
      split
      · rename_i hkey
        rw [if_neg fun he : k = e.1 => hp (he ▸ hkey)]
      · rfl

end Reading

section Updates

variable {entries : List (κ × α)} {key k : κ} {value : α} {f : α → α}

@[simp] theorem keys_update : (update key f entries).map Prod.fst = entries.map Prod.fst := by
  rw [update, List.map_map]
  refine List.map_congr_left fun e _ => ?_
  show (if e.1 = key then (e.1, f e.2) else e).1 = e.1
  split <;> rfl

/-- **The value that was changed, and the others.** -/
theorem lookup_update : (update key f entries).lookup k =
    if k = key then (entries.lookup k).map f else entries.lookup k := by
  induction entries with
  | nil => simp [update]
  | cons e rest ih =>
    have hcons : update key f (e :: rest) =
        (if e.1 = key then (e.1, f e.2) else e) :: update key f rest := rfl
    rw [hcons, lookup_cons, lookup_cons, ih]
    by_cases he : e.1 = key
    · rw [if_pos he]
      by_cases hk : k = e.1
      · rw [if_pos hk, if_pos hk, if_pos (hk.trans he)]
        rfl
      · have hne : k ≠ key := fun h => hk (h.trans he.symm)
        simp only [hk, hne, if_false]
    · rw [if_neg he]
      by_cases hk : k = e.1
      · rw [if_pos hk, if_neg fun h => he (hk.symm.trans h), if_pos hk]
      · rw [if_neg hk, if_neg hk]

/-- **The value that was set, and the others.** -/
theorem lookup_set : (set key value entries).lookup k =
    if k = key then some value else entries.lookup k := by
  induction entries with
  | nil => exact lookup_cons (key, value) [] k
  | cons e rest ih =>
    unfold set
    by_cases he : e.1 = key
    · rw [if_pos he, lookup_cons, lookup_cons, he]
      split <;> rfl
    · rw [if_neg he, lookup_cons, lookup_cons, ih]
      by_cases hk : k = e.1
      · rw [if_pos hk, if_pos hk, if_neg fun hkey => he (hk.symm.trans hkey)]
      · rw [if_neg hk, if_neg hk]

theorem mem_set {e : κ × α} (h : e ∈ set key value entries) :
    e = (key, value) ∨ e ∈ entries := by
  induction entries with
  | nil => exact Or.inl (List.mem_singleton.1 h)
  | cons d rest ih =>
    unfold set at h
    split at h
    · rcases List.mem_cons.1 h with rfl | h
      · exact Or.inl rfl
      · exact Or.inr (List.mem_cons_of_mem _ h)
    · rcases List.mem_cons.1 h with rfl | h
      · exact Or.inr List.mem_cons_self
      · exact (ih h).imp_right (List.mem_cons_of_mem _)

theorem mem_update {e : κ × α} (h : e ∈ update key f entries) :
    e ∈ entries ∨ ∃ v, (key, v) ∈ entries ∧ e = (key, f v) := by
  obtain ⟨d, hd, rfl⟩ := List.mem_map.1 h
  split
  · rename_i hkey
    exact Or.inr ⟨d.2, by rw [← hkey]; exact hd, by rw [hkey]⟩
  · exact Or.inl hd

end Updates

section Totals

variable {M : Type} [AddCommGroup M] {entries : List (κ × α)} {key : κ} {value : α}

omit [DecidableEq κ] in
theorem total_append (quantity : α → M) (a b : List (κ × α)) :
    total quantity (a ++ b) = total quantity a + total quantity b := by
  induction a with
  | nil => exact (zero_add _).symm
  | cons e rest ih => rw [List.cons_append, total, total, ih, add_assoc]

theorem update_of_notMem {f : α → α} (h : key ∉ entries.map Prod.fst) : update key f entries = entries := by
  refine (List.map_congr_left fun e he => ?_).trans (List.map_id _)
  exact if_neg fun hkey : e.1 = key => h (List.mem_map.2 ⟨e, he, hkey⟩)

/-- **A change to one value changes the total by the difference.** -/
theorem total_update (quantity : α → M) (f : α → α) (hkeys : (entries.map Prod.fst).Nodup)
    (h : entries.lookup key = some value) :
    total quantity (update key f entries) =
      total quantity entries + (quantity (f value) - quantity value) := by
  induction entries with
  | nil => cases h
  | cons e rest ih =>
    rw [List.map_cons, List.nodup_cons] at hkeys
    have hcons : update key f (e :: rest) =
        (if e.1 = key then (e.1, f e.2) else e) :: update key f rest := rfl
    rw [lookup_cons] at h
    rw [hcons]
    by_cases he : e.1 = key
    · rw [if_pos he.symm] at h
      obtain rfl := Option.some.inj h
      rw [if_pos he, update_of_notMem (he ▸ hkeys.1), total, total]
      abel
    · rw [if_neg fun hk => he hk.symm] at h
      rw [if_neg he, total, total, ih hkeys.2 h]
      abel

end Totals

end Entries

end IncidentAgent
