import IncidentAgent.System.Pace
import Mathlib.Data.List.Perm.Subperm

/-!
# Retries are bounded

The workers of a system claim with one limit, `max_attempts` (`Sys.limited`). Whatever crashes,
expires or is claimed again, the attempts of a run that its last reset does not cover stay within
the limit, and so does the number of the leases of that time that may work on the run: each of
them has a count of its own between the base and the limit. A lease that is granted besides may
only recover. `Sys.Counted` is the invariant, and a step keeps it because of what a request does to
the counts (`transact_paces`).
-/

namespace IncidentAgent

namespace Sys

variable {σ : Type} {env : Env} {m : Nat} {s s' : Sys σ}

/-- A claim uses the limit. -/
def claimsWith (m : Nat) : Request → Bool
  | .claim _ _ maxAttempts => maxAttempts = m
  | _ => true

/-- The system, with workers that claim with one limit. -/
def limited (env : Env) (m : Nat) (s : Sys σ) (e : Event σ) : Option (Sys σ) :=
  match e with
  | .begin request => if claimsWith m request then next env s e else none
  | e => next env s e

theorem limited_next {e : Event σ} (h : limited env m s e = some s') : next env s e = some s' := by
  unfold limited at h
  split at h
  · split at h
    · exact h
    · cases h
  · exact h

/-- What is reachable with one limit is reachable. -/
theorem Reachable.of_limited (h : Transition.Reachable (limited env m) (start σ) s) :
    s.Reachable env :=
  Transition.Reachable.invariant (P := fun s => Reachable env s) (Transition.Reachable.start _)
    (fun _ _ _ hs hstep => hs.step (limited_next hstep)) h

/-! ### What an event does -/

/-- The leases after an answer. -/
def granted (response : Response) (leases : List Lease) : List Lease :=
  match response with
  | .lease (some lease) => lease :: leases
  | _ => leases

/-- **An event opens or drops transactions**, or evaluates one of them. -/
theorem limited_cases {e : Event σ} (h : limited env m s e = some s') :
    (s'.db = s.db ∧ s'.leases = s.leases ∧
      ∀ t ∈ s'.transactions, t ∈ s.transactions ∨ claimsWith m t.request = true) ∨
    ∃ t ∈ s.transactions, ∃ tx skipped response,
      transact env tx skipped t.request s.db = .ok (response, s'.db) ∧
      s'.leases = granted response s.leases ∧ ∀ t' ∈ s'.transactions, t' ∈ s.transactions := by
  have hold : ∀ index, ∀ t ∈ s.transactions.eraseIdx index,
      t ∈ s.transactions ∨ claimsWith m t.request = true :=
    fun _ _ ht => Or.inl (List.mem_of_mem_eraseIdx ht)
  cases e with
  | begin request =>
    simp only [limited] at h
    split at h
    · rename_i hclaims
      simp only [next] at h
      split at h
      · obtain rfl := Option.some.inj h
        refine Or.inl ⟨rfl, rfl, fun t ht => ?_⟩
        rcases List.mem_append.1 ht with ht | ht
        · exact Or.inl ht
        · rw [List.mem_singleton.1 ht]
          exact Or.inr hclaims
      · cases h
    · cases h
  | commit index asked draw skipped =>
    have hnext : next env s (.commit index asked draw skipped) = some s' := h
    obtain ⟨t, ht, -, -, -, -, -, ⟨response, db, hok, rfl⟩ | ⟨_, -, rfl⟩⟩ := next_commit hnext
    · refine Or.inr ⟨t, ht, _, skipped, response, hok, ?_, fun t' ht' =>
        List.mem_of_mem_eraseIdx ht'⟩
      cases response with
      | lease lease => cases lease <;> rfl
      | _ => rfl
    · exact Or.inl ⟨rfl, rfl, hold index⟩
  | elapse duration =>
    obtain rfl := Option.some.inj (limited_next h)
    exact Or.inl ⟨rfl, rfl, fun _ ht => Or.inl ht⟩
  | abort index =>
    obtain rfl := Option.some.inj (limited_next h)
    exact Or.inl ⟨rfl, rfl, hold index⟩
  | hold lease asked =>
    have hnext := limited_next h
    simp only [next] at hnext
    split at hnext
    · split at hnext
      · obtain rfl := Option.some.inj hnext
        exact Or.inl ⟨rfl, rfl, fun _ ht => Or.inl ht⟩
      · cases hnext
    · cases hnext
  | write lease value =>
    have hnext := limited_next h
    simp only [next] at hnext
    split at hnext
    · obtain rfl := Option.some.inj hnext
      exact Or.inl ⟨rfl, rfl, fun _ ht => Or.inl ht⟩
    · cases hnext
  | release lease =>
    obtain rfl := Option.some.inj (limited_next h)
    exact Or.inl ⟨rfl, rfl, fun _ ht => Or.inl ht⟩

/-! ### The invariant -/


/-- **The invariant of the counts.** -/
structure Counted (env : Env) (m : Nat) (s : Sys σ) : Prop where
  sound : s.Sound env
  claims : ∀ t ∈ s.transactions, claimsWith m t.request = true
  based : ∀ r ∈ s.db.runs, r.attemptBase ≤ r.attempt
  bounded : ∀ r ∈ s.db.runs, r.attempt ≤ r.attemptBase + m
  /-- A lease that may work on its run has a count between the base and the limit. -/
  counted : ∀ lease ∈ s.leases, lease.recoveryOnly = false →
    lease.row.attemptBase < lease.row.attempt ∧
      lease.row.attempt ≤ lease.row.attemptBase + m
  past : ∀ lease ∈ s.leases, ∀ r ∈ s.db.runs, r.runId = lease.row.runId →
    lease.row.attempt ≤ r.attempt
  /-- Its count is above those of all leases that were granted before. -/
  distinct : s.leases.Pairwise fun newer older => newer.recoveryOnly = false →
    newer.row.runId = older.row.runId → older.row.attempt < newer.row.attempt
  /-- No retry is scheduled of a run whose write was dispatched. -/
  spared : ∀ r ∈ s.db.runs, r.status = .retryScheduled →
    ∀ o ∈ s.db.operations, o.runId = r.runId → o.state.dispatched = false

theorem counted_start : (start σ).Counted env m where
  sound := sound_start
  claims := by simp [start]
  based := by simp [start, Db.empty]
  bounded := by simp [start, Db.empty]
  counted := by simp [start]
  past := by simp [start]
  distinct := List.Pairwise.nil
  spared := by simp [start, Db.empty]

section Commit

variable {tx : Tx} {skipped : List String} {request : Request} {response : Response}

/-- The counts after a request are in order. -/
theorem Counted.based_after (h : s.Counted env m) (hclaims : claimsWith m request = true)
    (hgrows : Table.Grows (Run.Paces request s.db) Run.Untried s.db.runs s'.db.runs) :
    ∀ r' ∈ s'.db.runs, r'.attemptBase ≤ r'.attempt ∧ r'.attempt ≤ r'.attemptBase + m := by
  intro r' hr'
  rcases hgrows.cases_of_mem hr' with ⟨r, hr, hpaces⟩ | hnew
  · have hbased := h.based r hr
    have hbounded := h.bounded r hr
    rcases hpaces.counts with ⟨ha, hb⟩ | ⟨-, ha, hb⟩ | ⟨_, _, k, rfl, hlt, ha, hb⟩
    · omega
    · omega
    · have hk : k = m := of_decide_eq_true hclaims
      omega
  · have ha := hnew.attempt
    have hb := hnew.attemptBase
    omega

/-- What a lease has counted is counted in its row for good. -/
theorem Counted.past_after (h : s.Counted env m) (hs' : s'.Sound env)
    (hgrows : Table.Grows (Run.Paces request s.db) Run.Untried s.db.runs s'.db.runs) :
    ∀ lease ∈ s.leases, ∀ r' ∈ s'.db.runs, r'.runId = lease.row.runId →
      lease.row.attempt ≤ r'.attempt := by
  intro lease hl r' hr' hid
  obtain ⟨r, hr, hfixed, -⟩ := h.sound.leases lease hl
  have hrid : r.runId = lease.row.runId := column_eq hfixed Run.runId fun _ => rfl
  obtain ⟨q, hq, hpaces⟩ := hgrows.exists_of_mem hr
  obtain rfl := hs'.store.keys.runs.eq_of_key hr' hq (hid.trans (hrid.symm.trans hpaces.runId.symm))
  have hpast := h.past lease hl r hr hrid
  rcases hpaces.counts with ⟨ha, -⟩ | ⟨-, ha, -⟩ | ⟨_, _, _, -, -, ha, -⟩ <;> omega

/-- A retry is scheduled of no run whose write was dispatched. -/
theorem Counted.spared_after (h : s.Counted env m)
    (hgrows : Table.Grows (Run.Paces request s.db) Run.Untried s.db.runs s'.db.runs)
    (hok : transact env tx skipped request s.db = .ok (response, s'.db)) :
    ∀ r' ∈ s'.db.runs, r'.status = .retryScheduled →
      ∀ o' ∈ s'.db.operations, o'.runId = r'.runId → o'.state.dispatched = false := by
  intro r' hr' hstatus o' ho' hrun
  by_contra hdispatched
  rw [Bool.not_eq_false] at hdispatched
  rcases transact_dispatched h.sound.store.history.rechecks hok o' ho' hdispatched with
    ⟨o, ho, hsame, hstate⟩ | ⟨hruns, row, hrow, hid, hrunning⟩
  · rcases hgrows.cases_of_mem hr' with ⟨r, hr, hpaces⟩ | hnew
    · have hrid : o.runId = r.runId := hsame.trans (hrun.trans hpaces.runId)
      rcases hpaces.retried hstatus with hold | hnone
      · rw [h.spared r hr hold o ho hrid] at hstate
        cases hstate
      · rw [hnone o ho hrid] at hstate
        cases hstate
    · exact hnew.retried hstatus
  · -- The lease under which the write was dispatched leaves the runs alone.
    rw [hruns] at hr'
    obtain rfl := h.sound.store.keys.runs.eq_of_key hr' hrow (hrun.symm.trans hid.symm)
    rw [hstatus] at hrunning
    cases hrunning

/-- **A request that commits keeps the counts in order.** -/
theorem Counted.commit (h : s.Counted env m) (hs' : s'.Sound env)
    (hclaims : claimsWith m request = true)
    (hok : transact env tx skipped request s.db = .ok (response, s'.db))
    (hleases : s'.leases = granted response s.leases)
    (htransactions : ∀ t ∈ s'.transactions, t ∈ s.transactions) : s'.Counted env m := by
  have hkeys := h.sound.store.keys
  have hgrows := transact_paces hkeys h.sound.store.history.rechecks hok
  have hpast := h.past_after hs' hgrows
  have hafter := h.based_after hclaims hgrows
  have hbase : ∀ lease, response = .lease (some lease) →
      (lease.recoveryOnly = false → lease.row.attemptBase < lease.row.attempt ∧
        lease.row.attempt ≤ lease.row.attemptBase + m) ∧
      (∀ r' ∈ s'.db.runs, r'.runId = lease.row.runId → lease.row.attempt ≤ r'.attempt) ∧
      ∀ older ∈ s.leases, lease.recoveryOnly = false → lease.row.runId = older.row.runId →
        older.row.attempt < lease.row.attempt := by
    rintro lease rfl
    obtain ⟨owner, seconds, k, rfl, row, hrow, hid, hbase, hdb, hworks, hrecovers⟩ :=
      transact_granted hok
    have hk : k = m := of_decide_eq_true hclaims
    have hbased := h.based row hrow
    refine ⟨fun hfalse => ?_, fun r' hr' hrid => ?_, fun older holder hfalse hsame => ?_⟩
    · obtain ⟨hlt, ha⟩ := hworks hfalse
      omega
    · rw [hdb] at hr'
      obtain ⟨r, hr, rfl⟩ := Table.mem_updateWhere.1 hr'
      by_cases hsel : decide (r.runId = row.runId) = true
      · obtain rfl := hkeys.runs.eq_of_key hr hrow (of_decide_eq_true hsel)
        rw [if_pos hsel]
        cases hrec : lease.recoveryOnly with
        | false => simp [Run.claimed, (hworks hrec).2]
        | true => simp [Run.claimed, (hrecovers hrec).2]
      · rw [if_neg hsel] at hrid
        exact absurd (decide_eq_true (hrid.trans hid)) hsel
    · have hle := h.past older holder row hrow (hid.symm.trans hsame)
      have ha := (hworks hfalse).2
      omega
  have hcases : s'.leases = s.leases ∨ ∃ lease, response = .lease (some lease) ∧
      s'.leases = lease :: s.leases := by
    rw [hleases]
    unfold granted
    split
    · exact Or.inr ⟨_, rfl, rfl⟩
    · exact Or.inl rfl
  refine
    { sound := hs'
      claims := fun t ht => h.claims t (htransactions t ht)
      based := fun r hr => (hafter r hr).1
      bounded := fun r hr => (hafter r hr).2
      counted := ?_
      past := ?_
      distinct := ?_
      spared := h.spared_after hgrows hok }
  · rcases hcases with hsame | ⟨lease, hresponse, hcons⟩
    · rw [hsame]
      exact h.counted
    · rw [hcons]
      intro l hl
      rcases List.mem_cons.1 hl with rfl | hl
      · exact (hbase l hresponse).1
      · exact h.counted l hl
  · rcases hcases with hsame | ⟨lease, hresponse, hcons⟩
    · rw [hsame]
      exact hpast
    · rw [hcons]
      intro l hl
      rcases List.mem_cons.1 hl with rfl | hl
      · exact (hbase l hresponse).2.1
      · exact hpast l hl
  · rcases hcases with hsame | ⟨lease, hresponse, hcons⟩
    · rw [hsame]
      exact h.distinct
    · rw [hcons]
      exact List.pairwise_cons.2 ⟨(hbase lease hresponse).2.2, h.distinct⟩

end Commit

/-- **An event keeps the counts in order.** -/
theorem Counted.step (h : s.Counted env m) {e : Event σ} (hnext : limited env m s e = some s') :
    s'.Counted env m := by
  have hs' := (h.sound.step (limited_next hnext)).1
  rcases limited_cases hnext with ⟨hdb, hleases, hopen⟩ |
    ⟨t, ht, tx, skipped, response, hok, hleases, hopen⟩
  · refine ⟨hs', fun t ht => ?_, ?_, ?_, ?_, ?_, ?_, ?_⟩
    · rcases hopen t ht with ht | hclaims
      · exact h.claims t ht
      · exact hclaims
    · rw [hdb]
      exact h.based
    · rw [hdb]
      exact h.bounded
    · rw [hleases]
      exact h.counted
    · rw [hdb, hleases]
      exact h.past
    · rw [hleases]
      exact h.distinct
    · rw [hdb]
      exact h.spared
  · exact h.commit hs' (h.claims t ht) hok hleases hopen

/-- **The counts are in order in every state.** -/
theorem counted_of_reachable (h : Transition.Reachable (limited env m) (start σ) s) :
    s.Counted env m :=
  Transition.Reachable.invariant counted_start (fun _ _ _ hs hstep => hs.step hstep) h

/-! ### The leases between two resets -/

/-- The leases that may work on a run and that were granted while its base was this one. -/
def working (s : Sys σ) (runId : String) (base : Nat) : List Lease :=
  s.leases.filter fun lease =>
    lease.row.runId = runId && lease.row.attemptBase = base && !lease.recoveryOnly

/-- **No more leases than the limit may work on a run between two resets.** Each of them has
another count above the base. -/
theorem Counted.working_le (h : s.Counted env m) (runId : String) (base : Nat) :
    (s.working runId base).length ≤ m := by
  have hmem : ∀ lease ∈ s.working runId base, lease ∈ s.leases ∧ lease.row.runId = runId ∧
      lease.row.attemptBase = base ∧ lease.recoveryOnly = false := by
    intro lease hl
    obtain ⟨hl, hsel⟩ := List.mem_filter.1 hl
    simp only [Bool.and_eq_true, decide_eq_true_eq, Bool.not_eq_true'] at hsel
    exact ⟨hl, hsel.1.1, hsel.1.2, hsel.2⟩
  have hpairwise : (s.working runId base).Pairwise fun newer older =>
      older.row.attempt < newer.row.attempt := by
    have hsub := h.distinct.sublist (List.filter_sublist (l := s.leases) (p := fun lease =>
      lease.row.runId = runId && lease.row.attemptBase = base && !lease.recoveryOnly))
    refine hsub.imp_of_mem fun {a b} ha hb hlt => ?_
    obtain ⟨-, hida, -, hworks⟩ := hmem a ha
    obtain ⟨-, hidb, -, -⟩ := hmem b hb
    exact hlt hworks (hida.trans hidb.symm)
  have hnodup : ((s.working runId base).map fun lease => lease.row.attempt).Nodup :=
    List.pairwise_map.2 (hpairwise.imp fun hlt => (Nat.ne_of_lt hlt).symm)
  have hrange : (s.working runId base).map (fun lease => lease.row.attempt) ⊆
      List.range' (base + 1) m := by
    intro n hn
    obtain ⟨lease, hl, rfl⟩ := List.mem_map.1 hn
    obtain ⟨hl, -, hbase, hworks⟩ := hmem lease hl
    obtain ⟨hlow, hhigh⟩ := h.counted lease hl hworks
    rw [List.mem_range'_1]
    omega
  calc (s.working runId base).length
      = ((s.working runId base).map fun lease => lease.row.attempt).length :=
        (List.length_map _).symm
    _ ≤ (List.range' (base + 1) m).length := (List.subperm_of_subset hnodup hrange).length_le
    _ = m := List.length_range'

/-- **The base of a run is reset for a human alone.** -/
theorem Sound.base_kept (h : s.Sound env) {request : Request} {response : Response}
    (hc : s.Commits env request response s') (hresets : request.resets = false)
    (hs' : s'.Sound env) {r r' : Run} (hr : r ∈ s.db.runs) (hr' : r' ∈ s'.db.runs)
    (hid : r'.runId = r.runId) : r'.attemptBase = r.attemptBase := by
  obtain ⟨tx, skipped, -, -, -, hok⟩ := h.of_commits hc
  obtain ⟨q, hq, hpaces⟩ :=
    (transact_paces h.store.keys h.store.history.rechecks hok).exists_of_mem hr
  obtain rfl := hs'.store.keys.runs.eq_of_key hr' hq (hid.trans hpaces.runId.symm)
  rcases hpaces.counts with ⟨-, hb⟩ | ⟨htrue, -, -⟩ | ⟨_, _, _, -, -, -, hb⟩
  · exact hb
  · rw [htrue] at hresets
    cases hresets
  · exact hb

end Sys

end IncidentAgent
