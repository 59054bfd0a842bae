import Mathlib.Data.List.Basic
import Mathlib.Data.List.MinMax
import Mathlib.Data.List.Nodup
import Mathlib.Data.List.Forall2
import Mathlib.Tactic.Common

/-!
# Tables as lists of rows

A relational table is the list of its rows, in the order of their insertion. Three
statements act on it: a query that returns one row (`List.find?`, or `latestBy` for
`ORDER BY … DESC LIMIT 1`), an `UPDATE … WHERE`, which is `updateWhere`, and an `INSERT`,
which appends a row.

Two notions carry the reasoning of a development about such tables.

* `Keyed key t`: no two rows of `t` have the same key, so that a row of `t` is known by
  its key (`Keyed.eq_of_key`).
* `Grows R N t t'`: `t'` has every row of `t`, each changed as `R` allows, followed by new
  rows that satisfy `N`. Every statement above makes its table grow in this sense, growth
  composes (`Grows.trans`), and a transaction is summed up by the relation in which its
  tables grow. Whatever `R` preserves is then preserved by every row of the table
  (`Grows.exists_of_mem`, `Grows.cases_of_mem`).
-/

namespace IncidentAgent

universe u v

namespace Table

variable {α : Type u} {κ : Type v}

/-! ### Updates -/

/-- `UPDATE t SET f WHERE p`: the rows that satisfy `p` are replaced. -/
def updateWhere (p : α → Bool) (f : α → α) (t : List α) : List α :=
  t.map fun row => if p row then f row else row

theorem mem_updateWhere {p : α → Bool} {f : α → α} {t : List α} {row' : α} :
    row' ∈ updateWhere p f t ↔ ∃ row ∈ t, (if p row then f row else row) = row' := by
  simp [updateWhere]

/-- A row that an update does not select is still there. -/
theorem mem_updateWhere_of_not {p : α → Bool} {f : α → α} {t : List α} {row : α}
    (h : row ∈ t) (hp : p row = false) : row ∈ updateWhere p f t :=
  mem_updateWhere.2 ⟨row, h, by simp [hp]⟩

/-- A row that an update selects is there in its new form. -/
theorem mem_updateWhere_of_pos {p : α → Bool} {f : α → α} {t : List α} {row : α}
    (h : row ∈ t) (hp : p row = true) : f row ∈ updateWhere p f t :=
  mem_updateWhere.2 ⟨row, h, by simp [hp]⟩

@[simp] theorem updateWhere_nil (p : α → Bool) (f : α → α) : updateWhere p f [] = [] := rfl

/-- An update that changes no key leaves the list of keys alone. -/
theorem map_updateWhere {key : α → κ} {p : α → Bool} {f : α → α} {t : List α}
    (hf : ∀ row ∈ t, p row → key (f row) = key row) :
    (updateWhere p f t).map key = t.map key := by
  simp only [updateWhere, List.map_map, List.map_inj_left, Function.comp]
  intro row hrow
  by_cases hp : p row
  · simp [hp, hf row hrow hp]
  · simp [hp]

/-- An update that selects no row changes nothing. -/
theorem updateWhere_of_none {p : α → Bool} {f : α → α} {t : List α}
    (h : ∀ row ∈ t, p row = false) : updateWhere p f t = t := by
  calc updateWhere p f t = t.map id := List.map_congr_left fun row hrow => by simp [h row hrow]
    _ = t := List.map_id t

/-- **Looking up after an update**: an update that does not change what a query looks for
leaves the query with the row it found before, in its new form. -/
theorem find?_updateWhere {q p : α → Bool} {f : α → α} {t : List α}
    (hf : ∀ row, p row = true → q (f row) = q row) :
    (updateWhere p f t).find? q = (t.find? q).map fun row => if p row then f row else row := by
  induction t with
  | nil => rfl
  | cons a t ih =>
    have hq : q (if p a then f a else a) = q a := by
      by_cases hp : p a = true
      · simp [hp, hf a hp]
      · simp [hp]
    by_cases ha : q a = true
    · simp [updateWhere, hq, ha]
    · simpa [updateWhere, hq, ha] using ih

/-- Filtering after an update, in the same way. -/
theorem filter_updateWhere {q p : α → Bool} {f : α → α} {t : List α}
    (hf : ∀ row, p row = true → q (f row) = q row) :
    (updateWhere p f t).filter q = updateWhere p f (t.filter q) := by
  induction t with
  | nil => rfl
  | cons a t ih =>
    have hq : q (if p a then f a else a) = q a := by
      by_cases hp : p a = true
      · simp [hp, hf a hp]
      · simp [hp]
    by_cases ha : q a = true
    · simpa [updateWhere, hq, ha] using ih
    · simpa [updateWhere, hq, ha] using ih

/-! ### Keys -/

/-- No two rows of the table have the same key. -/
def Keyed (key : α → κ) (t : List α) : Prop :=
  (t.map key).Nodup

theorem keyed_nil {key : α → κ} : Keyed key ([] : List α) := List.nodup_nil

/-- **A row is known by its key.** -/
theorem Keyed.eq_of_key {key : α → κ} {t : List α} (h : Keyed key t) {a b : α}
    (ha : a ∈ t) (hb : b ∈ t) (hk : key a = key b) : a = b :=
  List.inj_on_of_nodup_map h ha hb hk

/-- An update that changes no key keeps the keys unique. -/
theorem Keyed.updateWhere {key : α → κ} {p : α → Bool} {f : α → α} {t : List α}
    (h : Keyed key t) (hf : ∀ row ∈ t, p row → key (f row) = key row) :
    Keyed key (updateWhere p f t) := by
  unfold Keyed
  rwa [map_updateWhere hf]

/-- Inserting a row with an unused key keeps the keys unique. -/
theorem Keyed.insert {key : α → κ} {t : List α} (h : Keyed key t) {a : α}
    (ha : ∀ row ∈ t, key row ≠ key a) : Keyed key (t ++ [a]) := by
  unfold Keyed
  rw [List.map_append, List.nodup_append']
  refine ⟨h, List.nodup_singleton _, ?_⟩
  simpa [List.disjoint_singleton] using ha

/-- In a keyed table, the row found under a key is the row that has it. -/
theorem Keyed.find?_eq {key : α → κ} [DecidableEq κ] {t : List α} (h : Keyed key t) {a : α}
    (ha : a ∈ t) : t.find? (fun row => key row = key a) = some a := by
  cases hfind : t.find? (fun row => key row = key a) with
  | none => simpa using List.find?_eq_none.1 hfind a ha
  | some b =>
    have hkey : key b = key a := by simpa using List.find?_some hfind
    rw [h.eq_of_key (List.mem_of_find?_eq_some hfind) ha hkey]

/-! ### The last row in an order -/

section Latest

variable {β : Type v} [LinearOrder β]

/-- `SELECT … WHERE p ORDER BY rank DESC LIMIT 1`. -/
def latestBy (p : α → Bool) (rank : α → β) (t : List α) : Option α :=
  (t.filter p).argmax rank

/-- **The latest row** is a selected row, and no selected row ranks above it. -/
theorem latestBy_spec {p : α → Bool} {rank : α → β} {t : List α} {m : α}
    (h : latestBy p rank t = some m) :
    m ∈ t ∧ p m = true ∧ ∀ row ∈ t, p row = true → rank row ≤ rank m := by
  have hm : m ∈ t.filter p := List.argmax_mem h
  refine ⟨(List.mem_filter.1 hm).1, (List.mem_filter.1 hm).2, fun row hrow hp => ?_⟩
  exact List.le_of_mem_argmax (List.mem_filter.2 ⟨hrow, hp⟩) h

/-- There is no latest row exactly when no row is selected. -/
theorem latestBy_eq_none {p : α → Bool} {rank : α → β} {t : List α} :
    latestBy p rank t = none ↔ ∀ row ∈ t, p row = false := by
  rw [latestBy, List.argmax_eq_none, List.filter_eq_nil_iff]
  simp

/-- A selected row that ranks above every other selected row is the latest one. -/
theorem latestBy_eq_some {p : α → Bool} {rank : α → β} {t : List α} {m : α} (hm : m ∈ t)
    (hp : p m = true) (h : ∀ row ∈ t, p row = true → row ≠ m → rank row < rank m) :
    latestBy p rank t = some m := by
  cases hl : latestBy p rank t with
  | none => simp [latestBy_eq_none.1 hl m hm] at hp
  | some a =>
    obtain ⟨ha, hpa, hmax⟩ := latestBy_spec hl
    by_contra hne
    exact absurd (hmax m hm hp) (not_le_of_gt (h a ha hpa (fun e => hne (by rw [e]))))

/-- **The latest row of an ascending selection is its last one.** -/
theorem latestBy_eq_getLast? {p : α → Bool} {rank : α → β} {t : List α}
    (h : (t.filter p).Pairwise fun a b => rank a < rank b) :
    latestBy p rank t = (t.filter p).getLast? := by
  cases hl : (t.filter p).getLast? with
  | none =>
    rw [List.getLast?_eq_none_iff] at hl
    simp [latestBy, hl]
  | some m =>
    obtain ⟨front, hfront⟩ := List.getLast?_eq_some_iff.1 hl
    have hm : m ∈ t.filter p := by simp [hfront]
    refine latestBy_eq_some (List.mem_filter.1 hm).1 (List.mem_filter.1 hm).2 ?_
    intro row hrow hp hne
    have hmem : row ∈ t.filter p := List.mem_filter.2 ⟨hrow, hp⟩
    rw [hfront] at h hmem
    rcases List.mem_append.1 hmem with hmem | hmem
    · exact (List.pairwise_append.1 h).2.2 row hmem m (List.mem_singleton_self m)
    · exact absurd (List.mem_singleton.1 hmem) hne

end Latest

/-! ### Growth -/

/-- `t'` has every row of `t`, changed as `R` allows, followed by rows that satisfy
`N`. -/
inductive Grows (R : α → α → Prop) (N : α → Prop) : List α → List α → Prop
  /-- All the old rows are passed: what follows is new. -/
  | added {new : List α} (h : ∀ row ∈ new, N row) : Grows R N [] new
  /-- An old row and its new form. -/
  | kept {a b : α} {t t' : List α} (h : R a b) (ht : Grows R N t t') :
      Grows R N (a :: t) (b :: t')

section Growth

variable {R : α → α → Prop} {N : α → Prop} {t t' t'' : List α}

theorem Grows.refl (hR : ∀ row, R row row) (t : List α) : Grows R N t t := by
  induction t with
  | nil => exact .added (by simp)
  | cons a t ih => exact .kept (hR a) ih

/-- An update grows the table when it changes the rows it selects as `R` allows. -/
theorem Grows.updateWhere {p : α → Bool} {f : α → α} (hR : ∀ row, R row row)
    (hf : ∀ row ∈ t, p row = true → R row (f row)) : Grows R N t (updateWhere p f t) := by
  induction t with
  | nil => exact .added (by simp)
  | cons a t ih =>
    refine .kept ?_ (ih fun row hrow => hf row (List.mem_cons_of_mem _ hrow))
    by_cases hp : p a = true
    · simpa [hp] using hf a List.mem_cons_self hp
    · simpa [hp] using hR a

/-- Inserting a row grows the table. -/
theorem Grows.insert {a : α} (hR : ∀ row, R row row) (ha : N a) (t : List α) :
    Grows R N t (t ++ [a]) := by
  induction t with
  | nil => exact .added (by simpa using ha)
  | cons b t ih => exact .kept (hR b) ih

/-- **Growth composes**, when the changes do and the new rows stay new. -/
theorem Grows.trans (hR : ∀ a b c, R a b → R b c → R a c) (hN : ∀ a b, N a → R a b → N b)
    (h : Grows R N t t') (h' : Grows R N t' t'') : Grows R N t t'' := by
  induction h generalizing t'' with
  | @added new hnew =>
    refine .added ?_
    induction h' with
    | added hnew' => exact hnew'
    | kept hab _ ih =>
      intro row hrow
      rcases List.mem_cons.1 hrow with rfl | hrow
      · exact hN _ _ (hnew _ List.mem_cons_self) hab
      · exact ih (fun r hr => hnew r (List.mem_cons_of_mem _ hr)) row hrow
  | kept hab _ ih =>
    cases h' with
    | kept hbc htail => exact .kept (hR _ _ _ hab hbc) (ih htail)

/-- A growth may be read with a weaker relation and a weaker property of new rows. -/
theorem Grows.mono {S : α → α → Prop} {M : α → Prop} (hR : ∀ a b, R a b → S a b)
    (hN : ∀ a, N a → M a) (h : Grows R N t t') : Grows S M t t' := by
  induction h with
  | added hnew => exact .added fun row hrow => hN row (hnew row hrow)
  | kept hab _ ih => exact .kept (hR _ _ hab) ih

/-- Every old row is still there, changed as `R` allows. -/
theorem Grows.exists_of_mem (h : Grows R N t t') {row : α} (hrow : row ∈ t) :
    ∃ row' ∈ t', R row row' := by
  induction h with
  | added _ => simp at hrow
  | @kept a b _ _ hab _ ih =>
    rcases List.mem_cons.1 hrow with rfl | hrow
    · exact ⟨b, List.mem_cons_self, hab⟩
    · obtain ⟨row', hrow', hR⟩ := ih hrow
      exact ⟨row', List.mem_cons_of_mem _ hrow', hR⟩

/-- Every row is an old one, changed as `R` allows, or a new one. -/
theorem Grows.cases_of_mem (h : Grows R N t t') {row' : α} (hrow : row' ∈ t') :
    (∃ row ∈ t, R row row') ∨ N row' := by
  induction h with
  | added hnew => exact Or.inr (hnew row' hrow)
  | @kept a b _ _ hab _ ih =>
    rcases List.mem_cons.1 hrow with rfl | hrow
    · exact Or.inl ⟨a, List.mem_cons_self, hab⟩
    · rcases ih hrow with ⟨row, hmem, hR⟩ | hN
      · exact Or.inl ⟨row, List.mem_cons_of_mem _ hmem, hR⟩
      · exact Or.inr hN

end Growth

end Table

end IncidentAgent
