import Mathlib.Data.List.Basic
import Mathlib.Tactic.Common

/-!
# Observations put over a list of rows

A list of rows is the current view of something. A new row is put over it: the rows that it
matches are dropped, and it comes last, unless it is too late for the view, in which case
nothing changes (`put`). A view after many new rows is a fold of these steps (`overlay`).

Which rows match, and which come too late, are parameters. When no row comes too late, the
view has an exact description: the rows that no later one matches, in order
(`overlay_eq_lasts`). What holds without that assumption is that a view keeps the rows that
nothing matches (`unmatched_sublist_overlay`), and that of the rows before a new one it keeps
nothing that the new one has dropped (`mem_overlay_append`).
-/

namespace IncidentAgent

namespace Overlay

universe u

variable {α : Type u} (covers : α → α → Bool) (late : List α → α → Bool)

/-- A new row put over a view. -/
def put (rows : List α) (x : α) : List α :=
  if late rows x then rows else rows.filter (fun v => !covers x v) ++ [x]

/-- The view after a list of new rows. -/
def overlay (rows xs : List α) : List α := xs.foldl (put covers late) rows

/-- The rows that none of the new ones matches. -/
def unmatched (xs rows : List α) : List α := rows.filter fun v => !xs.any fun x => covers x v

/-- The rows of a list that no later one matches. -/
def lasts : List α → List α
  | [] => []
  | x :: xs => if xs.any (fun y => covers y x) then lasts xs else x :: lasts xs

section Laws

variable {covers : α → α → Bool} {late : List α → α → Bool} {rows xs : List α} {x v : α}

theorem overlay_append (pre post : List α) :
    overlay covers late rows (pre ++ post) =
      overlay covers late (overlay covers late rows pre) post :=
  List.foldl_append

/-- **A row that comes too late changes nothing.** -/
theorem put_of_late (h : late rows x = true) : put covers late rows x = rows := if_pos h

theorem put_of_not_late (h : late rows x = false) :
    put covers late rows x = rows.filter (fun v => !covers x v) ++ [x] :=
  if_neg (by simp [h])

theorem mem_put (h : v ∈ put covers late rows x) : v ∈ rows ∨ v = x := by
  unfold put at h
  split at h
  · exact Or.inl h
  · rcases List.mem_append.1 h with hold | hnew
    · exact Or.inl (List.mem_filter.1 hold).1
    · exact Or.inr (List.mem_singleton.1 hnew)

theorem mem_overlay (h : v ∈ overlay covers late rows xs) : v ∈ rows ∨ v ∈ xs := by
  induction xs generalizing rows with
  | nil => exact Or.inl h
  | cons x xs ih =>
    rcases ih h with hold | hnew
    · rcases mem_put hold with hrow | rfl
      · exact Or.inl hrow
      · exact Or.inr List.mem_cons_self
    · exact Or.inr (List.mem_cons_of_mem _ hnew)

/-- **Of the rows before a new one, a view keeps those that it left.** -/
theorem mem_overlay_append {pre post : List α}
    (h : v ∈ overlay covers late rows (pre ++ x :: post)) :
    v ∈ put covers late (overlay covers late rows pre) x ∨ v ∈ post := by
  rw [overlay_append] at h
  exact mem_overlay h

/-- A row that is left by a new one is not matched by it, unless it is the new one or the new
one came too late. -/
theorem not_covers_of_mem_put (hlate : late rows x = false) (h : v ∈ put covers late rows x) :
    covers x v = false ∨ v = x := by
  rw [put_of_not_late hlate] at h
  rcases List.mem_append.1 h with hold | hnew
  · exact Or.inl (by simpa using (List.mem_filter.1 hold).2)
  · exact Or.inr (List.mem_singleton.1 hnew)

/-- **The rows that a new one does not match stay**, in order and as often as they were there. -/
theorem filter_sublist_put :
    (rows.filter fun v => !covers x v).Sublist (put covers late rows x) := by
  unfold put
  split
  · exact List.filter_sublist
  · exact List.sublist_append_left _ _

theorem put_ne_nil (h : rows ≠ []) : put covers late rows x ≠ [] := by
  unfold put
  split
  · exact h
  · exact List.append_ne_nil_of_right_ne_nil _ (by simp)

/-- **A view that was not empty stays so.** -/
theorem overlay_ne_nil (h : rows ≠ []) : overlay covers late rows xs ≠ [] := by
  induction xs generalizing rows with
  | nil => exact h
  | cons x xs ih => exact ih (put_ne_nil h)

/-- **The rows that nothing matches stay**, in order and as often as they were there. -/
theorem unmatched_sublist_overlay :
    (unmatched covers xs rows).Sublist (overlay covers late rows xs) := by
  induction xs generalizing rows with
  | nil => exact List.filter_sublist
  | cons x xs ih =>
    have hsplit : unmatched covers (x :: xs) rows =
        unmatched covers xs (rows.filter fun v => !covers x v) := by
      simp only [unmatched, List.filter_filter, List.any_cons, Bool.not_or]
      exact List.filter_congr fun v _ => Bool.and_comm _ _
    rw [hsplit]
    exact (List.Sublist.filter _ filter_sublist_put).trans ih

/-- **When no row comes too late, the view is the rows that no later one matches.** -/
theorem overlay_eq_lasts (h : ∀ pre y post, xs = pre ++ y :: post → ∀ view : List α,
      view ⊆ rows ++ pre → late view y = false) :
    overlay covers late rows xs = unmatched covers xs rows ++ lasts covers xs := by
  induction xs generalizing rows with
  | nil => simp [overlay, unmatched, lasts]
  | cons x xs ih =>
    have hnow : late rows x = false := h [] x xs rfl rows (by simp)
    have hrest : overlay covers late (put covers late rows x) xs =
        unmatched covers xs (put covers late rows x) ++ lasts covers xs :=
      ih fun pre y post he view hview =>
        h (x :: pre) y post (by rw [he, List.cons_append]) view fun v hv => by
          rcases List.mem_append.1 (hview hv) with hput | hpre
          · rcases mem_put hput with hrow | rfl
            · exact List.mem_append_left _ hrow
            · exact List.mem_append_right _ List.mem_cons_self
          · exact List.mem_append_right _ (List.mem_cons_of_mem _ hpre)
    have hstep : overlay covers late rows (x :: xs) =
        overlay covers late (put covers late rows x) xs := rfl
    rw [hstep, hrest, put_of_not_late hnow]
    -- The new row is among the last ones unless a later one matches it.
    simp only [unmatched, List.filter_append, List.filter_filter, List.any_cons, Bool.not_or,
      List.append_assoc, lasts]
    congr 1
    · exact List.filter_congr fun v _ => Bool.and_comm _ _
    · by_cases hx : xs.any (fun y => covers y x) = true <;> simp [hx]

/-- A last row that does not come too late is the last of the view. -/
theorem getLast?_put (h : late rows x = false) : (put covers late rows x).getLast? = some x := by
  rw [put_of_not_late h]
  simp

end Laws

end Overlay

end IncidentAgent
