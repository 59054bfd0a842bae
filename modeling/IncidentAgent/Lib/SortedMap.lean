import Mathlib.Data.List.Basic
import Mathlib.Data.List.Nodup
import Mathlib.Data.String.Basic
import Mathlib.Order.Basic
import Mathlib.Tactic.Common

/-!
# Finite maps with one representation each

A dictionary compared with `==` is a finite map: neither the order in which its keys were
set nor the keys that were overwritten are visible. `SortedMap κ α` represents such a map
by the list of its entries in strictly increasing order of keys, so that two maps with
the same entries are *equal*, and equality of dictionaries is equality in Lean.

The order of the entries is a field of the structure: `SortedMap.set` keeps it, and no
other map can be built.
-/

namespace IncidentAgent

universe u v

/-- A finite map from `κ` to `α`: its entries, in strictly increasing order of keys. -/
structure SortedMap (κ : Type u) (α : Type v) [LinearOrder κ] where
  /-- The entries of the map. -/
  entries : List (κ × α)
  /-- Each key comes once, in increasing order. -/
  sorted : entries.Pairwise fun a b => a.1 < b.1

namespace SortedMap

variable {κ : Type u} {α : Type v} [LinearOrder κ]

instance [DecidableEq α] : DecidableEq (SortedMap κ α) := fun m n =>
  decidable_of_iff (m.entries = n.entries) (by cases m; cases n; simp)

/-- The empty map. -/
def empty : SortedMap κ α := ⟨[], List.Pairwise.nil⟩

instance : Inhabited (SortedMap κ α) := ⟨empty⟩

/-- Entries with one key set: the entry replaces the one with its key, or is put in its
place. -/
def setEntry (key : κ) (value : α) : List (κ × α) → List (κ × α)
  | [] => [(key, value)]
  | (k, w) :: rest =>
    if key < k then (key, value) :: (k, w) :: rest
    else if k < key then (k, w) :: setEntry key value rest
    else (key, value) :: rest

/-- The keys of the entries after a set are the old ones and the key set. -/
theorem mem_setEntry {key : κ} {value : α} {entries : List (κ × α)} {e : κ × α}
    (h : e ∈ setEntry key value entries) : e = (key, value) ∨ e ∈ entries := by
  induction entries with
  | nil => simpa [setEntry] using h
  | cons head rest ih =>
    obtain ⟨k, w⟩ := head
    unfold setEntry at h
    split at h
    · simpa using h
    · split at h
      · rcases List.mem_cons.1 h with rfl | h
        · simp
        · rcases ih h with rfl | h
          · simp
          · simp [h]
      · rcases List.mem_cons.1 h with rfl | h
        · simp
        · simp [h]

theorem sorted_setEntry {key : κ} {value : α} {entries : List (κ × α)}
    (h : entries.Pairwise fun a b => a.1 < b.1) :
    (setEntry key value entries).Pairwise fun a b => a.1 < b.1 := by
  induction entries with
  | nil => simp [setEntry]
  | cons head rest ih =>
    obtain ⟨k, w⟩ := head
    obtain ⟨hhead, hrest⟩ := List.pairwise_cons.1 h
    unfold setEntry
    split
    · rename_i hlt
      refine List.pairwise_cons.2 ⟨fun e he => ?_, h⟩
      rcases List.mem_cons.1 he with rfl | he
      · exact hlt
      · exact hlt.trans (hhead e he)
    · split
      · rename_i hge hlt
        refine List.pairwise_cons.2 ⟨fun e he => ?_, ih hrest⟩
        rcases mem_setEntry he with rfl | he
        · exact hlt
        · exact hhead e he
      · rename_i hge hle
        have hk : key = k := le_antisymm (not_lt.1 hle) (not_lt.1 hge)
        exact List.pairwise_cons.2 ⟨fun e he => hk ▸ hhead e he, hrest⟩

/-- A key below all others is put first. -/
theorem setEntry_eq_cons {key : κ} {value : α} {entries : List (κ × α)}
    (h : ∀ e ∈ entries, key < e.1) : setEntry key value entries = (key, value) :: entries := by
  cases entries with
  | nil => rfl
  | cons head rest => exact if_pos (h head List.mem_cons_self)

/-- What a key is read as after a set. -/
theorem lookup_setEntry [BEq κ] [LawfulBEq κ] {key : κ} {value : α} {entries : List (κ × α)}
    (h : entries.Pairwise fun a b => a.1 < b.1) (k : κ) :
    (setEntry key value entries).lookup k = if k = key then some value else entries.lookup k := by
  have hcons (l : κ) (w : α) (rest : List (κ × α)) :
      ((l, w) :: rest).lookup k = if k = l then some w else rest.lookup k := by
    by_cases hk : k = l
    · rw [if_pos hk, hk, List.lookup_cons_self]
    · rw [if_neg hk, List.lookup_cons, beq_false_of_ne hk]
  induction entries with
  | nil => exact hcons key value []
  | cons head rest ih =>
    obtain ⟨l, v⟩ := head
    obtain ⟨hhead, hrest⟩ := List.pairwise_cons.1 h
    unfold setEntry
    split
    · exact hcons key value _
    · split
      · rename_i hlt
        rw [hcons, hcons, ih hrest]
        split
        · rename_i hk
          rw [if_neg fun he => hlt.ne (hk.symm.trans he)]
        · rfl
      · rename_i hge hle
        obtain rfl : key = l := le_antisymm (not_lt.1 hle) (not_lt.1 hge)
        rw [hcons, hcons]
        split <;> rfl

/-- Each key comes once. -/
theorem nodup_keys (m : SortedMap κ α) : (m.entries.map Prod.fst).Nodup :=
  List.pairwise_map.2 (m.sorted.imp fun h => h.ne)

/-- **A map is determined by what its keys are read as.** -/
theorem ext_lookup [BEq κ] [LawfulBEq κ] {m n : SortedMap κ α}
    (h : ∀ k, m.entries.lookup k = n.entries.lookup k) : m = n := by
  have hmem (p : SortedMap κ α) (e : κ × α) : e ∈ p.entries ↔ p.entries.lookup e.1 = some e.2 := by
    have hkeys := p.nodup_keys
    constructor
    · intro he
      obtain ⟨before, after, hsplit⟩ := List.append_of_mem he
      rw [hsplit, List.map_append, List.map_cons, List.nodup_append] at hkeys
      refine List.lookup_eq_some_iff.2 ⟨before, after, hsplit, fun b hb => ?_⟩
      have hne := hkeys.2.2 b.1 (List.mem_map_of_mem hb) e.1 List.mem_cons_self
      exact bne_iff_ne.2 hne.symm
    · intro he
      obtain ⟨before, after, hsplit, -⟩ := List.lookup_eq_some_iff.1 he
      rw [hsplit]
      exact List.mem_append_right _ List.mem_cons_self
  have hentries : m.entries = n.entries := by
    refine List.Perm.eq_of_pairwise (fun a b _ _ hab hba => absurd hab hba.not_gt) m.sorted n.sorted
      ((List.perm_ext_iff_of_nodup (List.Nodup.of_map _ m.nodup_keys)
        (List.Nodup.of_map _ n.nodup_keys)).2 fun e => ?_)
    rw [hmem, hmem, h]
  cases m
  cases n
  cases hentries
  rfl

/-- `map[key] = value`. -/
def set (m : SortedMap κ α) (key : κ) (value : α) : SortedMap κ α :=
  ⟨setEntry key value m.entries, sorted_setEntry m.sorted⟩

/-- `{key: value for key, value in entries}`: a later entry replaces an earlier one with
its key. -/
def ofList (entries : List (κ × α)) : SortedMap κ α :=
  entries.foldl (fun m e => m.set e.1 e.2) empty

end SortedMap

end IncidentAgent
