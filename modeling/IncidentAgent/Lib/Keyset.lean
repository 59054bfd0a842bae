import Mathlib.Data.List.Sort
import IncidentAgent.Lib.Outcome

/-!
# Pages behind a key

A table is read page by page, from the greatest key down. A page has the rows below a key, the
greatest first, and names its last row if there is one more behind it (`Keyset.page`). The next
page is asked for below the key of that row, whatever has happened to the table since.

A reader who follows the pages (`Keyset.follow`) while rows are inserted sees all rows that were
there when the reading began, each of them once and in their order, and comes to an end
(`Keyset.follow_spec`). Rows that are inserted behind the reader's back are seen if they are
below the place that has been reached. That the reader names the places in some code of its own
is a parameter: all that counts is that a page can be asked for with the code that the page
before has named.
-/

namespace IncidentAgent

namespace Keyset

variable {α β κ γ ε : Type} [LinearOrder κ] (key : α → κ)

/-- Whether a key is below a bound, if there is one. -/
def below (bound : Option κ) (a : α) : Bool := bound.all fun k => key a < k

/-- `WHERE key < bound ORDER BY key DESC`. -/
def descending (rows : List α) (bound : Option κ) : List α :=
  (rows.filter (below key bound)).mergeSort fun a b => key b ≤ key a

/-- A page: so many rows, and the last of them if there are more. One row more than the page has
is looked at. -/
def page (rows : List α) (limit : Nat) (bound : Option κ) : List α × Option α :=
  let found := (descending key rows bound).take (limit + 1)
  (found.take limit, if limit < found.length then (found.take limit).getLast? else none)

/-- What a reader sees who follows the pages, each of them read at a later time, and whether the
end was reached. The first number bounds the pages. -/
def follow (read : Nat → Option γ → Except ε (List β × Option γ)) :
    Nat → Nat → Option γ → Except ε (List β × Bool)
  | 0, _, _ => .ok ([], false)
  | n + 1, time, cursor =>
    match read time cursor with
    | .error e => .error e
    | .ok (items, none) => .ok (items, true)
    | .ok (items, some next) =>
      match follow read n (time + 1) (some next) with
      | .error e => .error e
      | .ok (rest, ended) => .ok (items ++ rest, ended)

variable {key} {rows : List α} {bound : Option κ}

theorem mem_descending {a : α} :
    a ∈ descending key rows bound ↔ a ∈ rows ∧ below key bound a = true := by
  rw [descending, List.mem_mergeSort, List.mem_filter]

/-- **The rows below a bound are in descending order.** -/
theorem pairwise_descending (hrows : rows.Nodup)
    (hkeys : ∀ a ∈ rows, ∀ b ∈ rows, key a = key b → a = b) :
    (descending key rows bound).Pairwise fun a b => key b < key a := by
  have hsorted : (descending key rows bound).Pairwise fun a b => (decide (key b ≤ key a)) = true :=
    List.pairwise_mergeSort
      (fun a b c hab hbc => decide_eq_true ((of_decide_eq_true hbc).trans (of_decide_eq_true hab)))
      (fun a b => by
        rw [Bool.or_eq_true, decide_eq_true_eq, decide_eq_true_eq]
        exact le_total _ _) _
  have hnodup : (descending key rows bound).Nodup :=
    (List.mergeSort_perm _ _).nodup_iff.2 (hrows.filter _)
  refine (hsorted.and hnodup).imp_of_mem fun {a b} ha hb hab => ?_
  refine lt_of_le_of_ne (of_decide_eq_true hab.1) fun he => hab.2 ?_
  exact (hkeys b (mem_descending.1 hb).1 a (mem_descending.1 ha).1 he).symm

/-- **A page that is not the last** ends with the row that it names, and what is not on it is
below that row. -/
theorem page_next {limit : Nat} {last : α}
    (hdescending : (descending key rows bound).Pairwise fun a b => key b < key a)
    (h : (page key rows limit bound).2 = some last) :
    last ∈ (page key rows limit bound).1 ∧
      (∀ a ∈ (page key rows limit bound).1, key last ≤ key a) ∧
      ∀ a ∈ descending key rows bound, a ∉ (page key rows limit bound).1 → key a < key last := by
  simp only [page, List.take_take, Nat.min_eq_left (Nat.le_succ limit)] at h ⊢
  split at h
  · obtain ⟨before, hbefore⟩ := List.getLast?_eq_some_iff.1 h
    have hsplit := List.take_append_drop limit (descending key rows bound)
    rw [hbefore] at hsplit ⊢
    rw [← hsplit, List.pairwise_append] at hdescending
    obtain ⟨hpage, -, hrest⟩ := hdescending
    refine ⟨by simp, fun a ha => ?_, fun a ha hnot => ?_⟩
    · rcases List.mem_append.1 ha with ha | ha
      · exact ((List.pairwise_append.1 hpage).2.2 a ha last (List.mem_singleton_self _)).le
      · rw [List.mem_singleton.1 ha]
    · rw [← hsplit, List.mem_append] at ha
      rcases ha with ha | ha
      · exact absurd ha hnot
      · exact hrest last (by simp) a ha
  · cases h

/-- **The last page** has all rows that are left. -/
theorem page_last {limit : Nat} (hlimit : 1 ≤ limit) (h : (page key rows limit bound).2 = none) :
    (page key rows limit bound).1 = descending key rows bound := by
  simp only [page, List.take_take, Nat.min_eq_left (Nat.le_succ limit)] at h ⊢
  split at h
  · rename_i hmore
    rw [List.getLast?_eq_none_iff] at h
    rw [List.length_take] at hmore
    have hlength := congrArg List.length h
    rw [List.length_take, List.length_nil] at hlength
    omega
  · rename_i hmore
    rw [List.length_take] at hmore
    exact List.take_of_length_le (by omega)

theorem page_subset {limit : Nat} {a : α} (h : a ∈ (page key rows limit bound).1) :
    a ∈ rows ∧ below key bound a = true :=
  mem_descending.1 (List.mem_of_mem_take (List.mem_of_mem_take h))

theorem pairwise_page {limit : Nat}
    (hdescending : (descending key rows bound).Pairwise fun a b => key b < key a) :
    (page key rows limit bound).1.Pairwise fun a b => key b < key a :=
  (hdescending.sublist (List.take_sublist _ _)).sublist (List.take_sublist _ _)

/-- **A page of rows is a page of what the rows are known by**, as far as that has the key. -/
theorem page_map {δ : Type} (f : δ → α) (rows : List δ) (limit : Nat) (bound : Option κ) :
    (page (fun a => key (f a)) rows limit bound).1.map f = (page key (rows.map f) limit bound).1 ∧
      (page (fun a => key (f a)) rows limit bound).2.map f =
        (page key (rows.map f) limit bound).2 := by
  have hdescending : (descending (fun a => key (f a)) rows bound).map f =
      descending key (rows.map f) bound := by
    have hbelow : below (fun a => key (f a)) bound = below key bound ∘ f := rfl
    rw [descending, descending, List.filter_map, ← hbelow]
    exact List.map_mergeSort fun _ _ _ _ => rfl
  simp only [page, ← hdescending, List.map_take, List.length_take, List.length_map, true_and]
  split
  · rw [← List.map_take, ← List.map_take, List.getLast?_map]
  · rfl

/-! ### Following the pages -/

/-- A table to which rows are added: which rows there are at each time, and all that there ever
are. -/
structure Grows (key : α → κ) (table : Nat → List α) (all : List α) : Prop where
  nodup : ∀ time, (table time).Nodup
  grows : ∀ time, ∀ a ∈ table time, a ∈ table (time + 1)
  bounded : ∀ time, ∀ a ∈ table time, a ∈ all
  keys : ∀ a ∈ all, ∀ b ∈ all, key a = key b → a = b

/-- A reader of pages: behind a row that was there, a page can be asked for by the code of the
row. -/
def ReadsPages (key : α → κ) (table : Nat → List α) (limit : Nat) (code : α → γ) (rowOf : β → α)
    (all : List α) (read : Nat → Option γ → Except ε (List β × Option γ)) : Prop :=
  ∀ (time : Nat) (last : Option α), (∀ a ∈ last, a ∈ all) → ∃ items : List β,
    read time (last.map code) = .ok (items, (page key (table time) limit (last.map key)).2.map code) ∧
      items.map rowOf = (page key (table time) limit (last.map key)).1

variable {table : Nat → List α} {all : List α} {limit : Nat} {code : α → γ} {rowOf : β → α}
  {read : Nat → Option γ → Except ε (List β × Option γ)}

/-- **A reader who follows the pages** from a row on sees, in descending order, all rows below it
that are there, and comes to an end. The bound is the number of rows that there ever are below
the row, and the induction is on it. -/
theorem follow_below (htable : Grows key table all) (hlimit : 1 ≤ limit)
    (hread : ReadsPages key table limit code rowOf all read) (n time : Nat) (last : Option α)
    (hlast : ∀ a ∈ last, a ∈ all)
    (hn : (all.filter (below key (last.map key))).length < n) :
    ∃ items, follow read n time (last.map code) = .ok (items, true) ∧
      ((items.map rowOf).Pairwise fun a b => key b < key a) ∧
      (∀ a ∈ items.map rowOf, a ∈ all ∧ below key (last.map key) a = true) ∧
      ∀ a ∈ table time, below key (last.map key) a = true → a ∈ items.map rowOf := by
  induction n generalizing time last with
  | zero => exact absurd hn (Nat.not_lt_zero _)
  | succ n ih =>
    obtain ⟨items, hpage, hitems⟩ := hread time last hlast
    have hdescending : (descending key (table time) (last.map key)).Pairwise
        fun a b => key b < key a := pairwise_descending (htable.nodup time) fun a ha b hb =>
      htable.keys a (htable.bounded time a ha) b (htable.bounded time b hb)
    have hsubset : ∀ a ∈ items.map rowOf, a ∈ all ∧ below key (last.map key) a = true := by
      intro a ha
      rw [hitems] at ha
      obtain ⟨hmem, hbelow⟩ := page_subset ha
      exact ⟨htable.bounded time a hmem, hbelow⟩
    cases hnext : (page key (table time) limit (last.map key)).2 with
    | none =>
      refine ⟨items, ?_, ?_, hsubset, fun a ha hbelow => ?_⟩
      · rw [follow, hpage, hnext, Option.map_none]
      · rw [hitems]
        exact pairwise_page hdescending
      · rw [hitems, page_last hlimit hnext]
        exact mem_descending.2 ⟨ha, hbelow⟩
    | some next =>
      obtain ⟨hin, hleast, hbelowNext⟩ := page_next hdescending hnext
      rw [← hitems] at hin hleast hbelowNext
      obtain ⟨hnextAll, hnextBelow⟩ := hsubset next hin
      -- A row below the next place is below the last one, but for the next row itself.
      have hmono : ∀ a, below key ((some next).map key) a = true →
          below key (last.map key) a = true := by
        intro a ha
        cases last with
        | none => rfl
        | some b =>
          simp only [below, Option.map_some, Option.all_some, decide_eq_true_eq] at ha hnextBelow ⊢
          exact ha.trans hnextBelow
      have hfewer : (all.filter (below key ((some next).map key))).length <
          (all.filter (below key (last.map key))).length := by
        have hsub : (all.filter (below key ((some next).map key))).Sublist
            (all.filter (below key (last.map key))) :=
          List.monotone_filter_right all fun a ha => hmono a ha
        refine lt_of_le_of_ne hsub.length_le fun he => ?_
        have hsame := hsub.eq_of_length he
        have hmem : next ∈ all.filter (below key ((some next).map key)) := by
          rw [hsame, List.mem_filter]
          exact ⟨hnextAll, hnextBelow⟩
        have hself := (List.mem_filter.1 hmem).2
        simp [below] at hself
      obtain ⟨rest, hrest, hrestSorted, hrestBelow, hrestAll⟩ :=
        ih (time + 1) (some next) (fun a ha => by rwa [← Option.some.inj ha]) (by omega)
      refine ⟨items ++ rest, ?_, ?_, ?_, ?_⟩
      · rw [follow, hpage, hnext]
        simp only [Option.map_some] at hrest ⊢
        rw [hrest]
      · rw [List.map_append, List.pairwise_append]
        refine ⟨by rw [hitems]; exact pairwise_page hdescending, hrestSorted, fun a ha b hb => ?_⟩
        have hb' := (hrestBelow b hb).2
        simp only [below, Option.map_some, Option.all_some, decide_eq_true_eq] at hb'
        exact hb'.trans_le (hleast a ha)
      · intro a ha
        rw [List.map_append, List.mem_append] at ha
        rcases ha with ha | ha
        · exact hsubset a ha
        · exact ⟨(hrestBelow a ha).1, hmono a (hrestBelow a ha).2⟩
      · intro a ha hbelow
        rw [List.map_append, List.mem_append]
        by_cases hin : a ∈ items.map rowOf
        · exact Or.inl hin
        · refine Or.inr (hrestAll a (htable.grows time a ha) ?_)
          have hlt := hbelowNext a (mem_descending.2 ⟨ha, hbelow⟩) hin
          simpa only [below, Option.map_some, Option.all_some, decide_eq_true_eq] using hlt

/-- **A reader who follows the pages from the first one** sees the rows in descending order, each
row that was there in the beginning once, and comes to an end. -/
theorem follow_spec (htable : Grows key table all) (hlimit : 1 ≤ limit)
    (hread : ReadsPages key table limit code rowOf all read) :
    ∃ items, follow read (all.length + 1) 0 none = .ok (items, true) ∧
      ((items.map rowOf).Pairwise fun a b => key b < key a) ∧
      (∀ a ∈ items.map rowOf, a ∈ all) ∧ ∀ a ∈ table 0, a ∈ items.map rowOf := by
  obtain ⟨items, hitems, hsorted, hall, hfirst⟩ :=
    follow_below htable hlimit hread (all.length + 1) 0 none (fun a ha => by cases ha)
      (Nat.lt_succ_of_le (List.length_filter_le _ _))
  exact ⟨items, hitems, hsorted, fun a ha => (hall a ha).1, fun a ha => hfirst a ha rfl⟩

end Keyset

end IncidentAgent
