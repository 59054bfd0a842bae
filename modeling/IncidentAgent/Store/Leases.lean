import IncidentAgent.Store.Session

/-!
# Leases

The ownership of a run by a worker: `claim` gives a run to an owner under a new epoch and
an expiry, and every later transaction of that owner starts with `fence`, which looks for
the run *still* running under that owner and epoch and not expired, and locks it. The
fence looks twice, since the first look may have waited for the lock.

The theorems of this file say what a committed transaction must have found and what it
left: `fence_eq_ok` for the fence, and one inversion for each method.
-/

namespace IncidentAgent

/-- A lease: the row that a claim returned, which the worker keeps in memory, and whether
the claim allows no more than the publication of what is saved. -/
structure Lease where
  row : Run
  recoveryOnly : Bool
  deriving DecidableEq, Inhabited

/-- A lease **owns** its run at a moment: the run is running under the owner and the epoch
of the lease, and its expiry is later. -/
def Lease.Owns (lease : Lease) (db : Db) (now : Nat) : Prop :=
  ∃ r ∈ db.runs, r.runId = lease.row.runId ∧ lease.row.leaseOwner.isSome ∧
    r.leaseOwner = lease.row.leaseOwner ∧ r.leaseEpoch = lease.row.leaseEpoch ∧
    r.status = .running ∧ ∃ e ∈ r.leaseExpiresAt, now < e

/-! ### Claiming a run -/

/-- The `WHERE` clause of a claim. -/
def Run.claimable (r : Run) (now : Nat) : Prop :=
  r.status = .queued ∨ (r.status = .retryScheduled ∧ ∃ t ∈ r.nextRetryAt, t ≤ now) ∨
    (r.status = .running ∧ ∃ t ∈ r.leaseExpiresAt, t ≤ now)

instance (r : Run) (now : Nat) : Decidable (r.claimable now) := by
  unfold Run.claimable
  infer_instance

/-- The row that a claim leaves and returns. -/
def Run.claimed (owner : String) (seconds : Nat) (recoveryOnly : Bool) (now : Nat) (r : Run) :
    Run :=
  { r with
    status := .running
    leaseOwner := some owner
    leaseEpoch := r.leaseEpoch + 1
    attempt := r.attempt + (if recoveryOnly then 0 else 1)
    leaseExpiresAt := some (now + seconds * second)
    nextRetryAt := none }

/-- `LeaseRepository.claim`. `FOR UPDATE SKIP LOCKED` passes over the runs that another
transaction holds, here those of `skipped`. -/
def claim (tx : Tx) (owner : String) (seconds maxAttempts : Nat) (skipped : List String)
    (db : Db) : Option Lease × Db :=
  match (db.runs.filter fun r => r.claimable tx.now ∧ r.runId ∉ skipped).argmin Run.rank with
  | none => (none, db)
  | some row =>
    -- Even at the budget limit a saved end or interrupt may be projected.
    let recoveryOnly := decide (row.attemptBase + maxAttempts ≤ row.attempt)
    (some ⟨row.claimed owner seconds recoveryOnly tx.now, recoveryOnly⟩,
      db.updateRun row.runId (Run.claimed owner seconds recoveryOnly tx.now))

/-- **A claim takes a run that may be claimed**, or changes nothing. -/
theorem claim_cases {tx : Tx} {owner : String} {seconds maxAttempts : Nat}
    {skipped : List String} {db db' : Db} {granted : Option Lease}
    (h : claim tx owner seconds maxAttempts skipped db = (granted, db')) :
    (granted = none ∧ db' = db) ∨
    ∃ row ∈ db.runs, ∃ recoveryOnly, row.claimable tx.now ∧ row.runId ∉ skipped ∧
      granted = some ⟨row.claimed owner seconds recoveryOnly tx.now, recoveryOnly⟩ ∧
      db' = db.updateRun row.runId (Run.claimed owner seconds recoveryOnly tx.now) := by
  unfold claim at h
  split at h
  · obtain ⟨rfl, rfl⟩ := Prod.mk.inj h
    exact Or.inl ⟨rfl, rfl⟩
  · rename_i row hrow
    obtain ⟨rfl, rfl⟩ := Prod.mk.inj h
    have hmem := List.mem_filter.1 (List.argmin_mem hrow)
    simp only [decide_eq_true_eq] at hmem
    exact Or.inr ⟨row, hmem.1, _, hmem.2.1, hmem.2.2, rfl, rfl⟩

/-! ### The fence -/

/-- `LeaseRepository.fence`, up to its `yield`: the run that the lease owns, locked, or
`LeaseLost`. -/
def fence (tx : Tx) (lease : Lease) (db : Db) : Except Failure Run := do
  let row ← rowOr (db.runs.find? fun r =>
    r.runId = lease.row.runId ∧ lease.row.leaseOwner.isSome ∧
    r.leaseOwner = lease.row.leaseOwner ∧ r.leaseEpoch = lease.row.leaseEpoch ∧
    r.status = .running ∧ ∃ e ∈ r.leaseExpiresAt, tx.asked < e) .leaseLost
  -- The lease may have expired while the transaction waited for the lock.
  raiseIf (¬ ∃ e ∈ row.leaseExpiresAt, tx.now < e) .leaseLost
  pure row

/-- **The fence lets an owner through**, and nobody else. -/
theorem fence_eq_ok {tx : Tx} {lease : Lease} {db : Db} {row : Run}
    (h : fence tx lease db = .ok row) :
    row ∈ db.runs ∧ row.runId = lease.row.runId ∧ lease.row.leaseOwner.isSome ∧
      row.leaseOwner = lease.row.leaseOwner ∧ row.leaseEpoch = lease.row.leaseEpoch ∧
      row.status = .running ∧ ∃ e ∈ row.leaseExpiresAt, tx.now < e := by
  simp only [fence, bind_eq_ok, rowOr_eq_ok, raiseIf_eq_ok, pure_eq_ok, not_not] at h
  obtain ⟨r, hr, _, hnow, rfl⟩ := h
  have hmem : r ∈ db.runs := List.mem_of_find?_eq_some hr
  have hp := List.find?_some hr
  simp only [decide_eq_true_eq] at hp
  exact ⟨hmem, hp.1, hp.2.1, hp.2.2.1, hp.2.2.2.1, hp.2.2.2.2.1, hnow⟩

theorem fence_owns {tx : Tx} {lease : Lease} {db : Db} {row : Run}
    (h : fence tx lease db = .ok row) : lease.Owns db tx.now :=
  ⟨row, fence_eq_ok h⟩

/-- `LeaseRepository.assert_owned`. -/
def assertOwned (tx : Tx) (lease : Lease) (db : Db) : Except Failure PUnit := do
  let _ ← fence tx lease db
  pure ⟨⟩

/-! ### Transactions of the owner -/

/-- `LeaseRepository.mark_checkpoint_started`. -/
def markCheckpointStarted (tx : Tx) (lease : Lease) (db : Db) : Except Failure Db := do
  let _ ← fence tx lease db
  pure (db.updateRun lease.row.runId fun r => { r with checkpointStarted := true })

/-- `LeaseRepository.heartbeat`. -/
def heartbeat (tx : Tx) (lease : Lease) (seconds : Nat) (db : Db) : Except Failure Db := do
  let _ ← fence tx lease db
  pure (db.updateRun lease.row.runId fun r =>
    { r with leaseExpiresAt := some (tx.now + seconds * second) })

/-- The keyword arguments of `finish`. -/
structure FinishArgs where
  phase : Option String
  errorCode : Option String
  retrySeconds : Option Nat
  outputSnapshot : Option Json
  question : Option Question
  adoptedMessageIds : Option (List String)
  deriving DecidableEq, Inhabited

/-- The status, the phase and the error code that `finish` writes: a run that a human
stopped is not published as a result. -/
def finishOutcome (db : Db) (current : Run) (status : RunStatus) (args : FinishArgs) :
    RunStatus × Option String × Option String :=
  if current.stopRequested ∧
      (status = .succeeded ∨ status = .failed ∨ status = .waitingUser ∨
        status = .waitingApproval) then
    if (db.operation? current.runId).any fun o => o.state.uncertain then
      (.reconciling, some "reconciling", some "CONTROL_PENDING_RECONCILIATION")
    else (.cancelled, some "cancelled", some "INPUT_SUPERSEDED")
  else (status, args.phase, args.errorCode)

/-- The columns that `finish` sets in the row of the run. -/
def Run.finished (now : Nat) (status : RunStatus) (errorCode : Option String)
    (args : FinishArgs) (r : Run) : Run :=
  { r with
    questionPayload :=
      if status = .waitingUser ∧ args.question.isSome then args.question
      else if status.terminal then none else r.questionPayload
    answerPayload :=
      if status = .waitingUser ∧ args.question.isSome then none else r.answerPayload
    adoptedMessageIds := args.adoptedMessageIds.getD r.adoptedMessageIds
    status := status
    lastError := errorCode
    finishedAt := if status.terminal then some now else none
    nextRetryAt := args.retrySeconds.map fun seconds => now + seconds * second
    leaseOwner := none
    leaseExpiresAt := none
    outputSnapshot :=
      if status.terminal then r.outputSnapshot.or args.outputSnapshot else r.outputSnapshot }

/-- What was published stays published. -/
theorem Run.finished_published {now : Nat} (status : RunStatus) (errorCode : Option String)
    (args : FinishArgs) {r : Run} :
    ∀ o ∈ r.outputSnapshot, o ∈ (r.finished now status errorCode args).outputSnapshot := by
  intro o ho
  rw [Option.mem_def] at ho
  simp [Run.finished, ho]

/-- `LeaseRepository.finish`. -/
def finish (tx : Tx) (lease : Lease) (status : RunStatus) (args : FinishArgs) (db : Db) :
    Except Failure (RunStatus × Db) := do
  raiseIf (status = .queued ∨ status = .running) (.valueError "invalid worker result status")
  raiseIf ((status = .retryScheduled) ≠ args.retrySeconds.isSome)
    (.valueError "retry delay is required only for retry_scheduled")
  let current ← fence tx lease db
  let (status, phase, errorCode) := finishOutcome db current status args
  raiseIf (status = .retryScheduled ∧
    (db.operation? lease.row.runId).any fun o => o.state.dispatched) .unsafeRetry
  let db := db.updateRun lease.row.runId (Run.finished tx.now status errorCode args)
  pure (status, match phase with
    | none => db
    | some phase => db.updateIncident lease.row.incidentId fun i => { i with phase := phase })

/-! ### What a committed transaction did -/

section Inversion

variable {tx : Tx} {lease : Lease} {db db' : Db}

theorem markCheckpointStarted_eq_ok (h : markCheckpointStarted tx lease db = .ok db') :
    (∃ row, fence tx lease db = .ok row) ∧
      db' = db.updateRun lease.row.runId fun r => { r with checkpointStarted := true } := by
  simp only [markCheckpointStarted, bind_eq_ok, pure_eq_ok] at h
  obtain ⟨row, hrow, rfl⟩ := h
  exact ⟨⟨row, hrow⟩, rfl⟩

theorem heartbeat_eq_ok {seconds : Nat} (h : heartbeat tx lease seconds db = .ok db') :
    (∃ row, fence tx lease db = .ok row) ∧
      db' = db.updateRun lease.row.runId fun r =>
        { r with leaseExpiresAt := some (tx.now + seconds * second) } := by
  simp only [heartbeat, bind_eq_ok, pure_eq_ok] at h
  obtain ⟨row, hrow, rfl⟩ := h
  exact ⟨⟨row, hrow⟩, rfl⟩

/-- **What `finish` does**: to the run that the lease owns, it publishes the outcome that
`finishOutcome` decides, and never a retry of a dispatched write. -/
theorem finish_eq_ok {status published : RunStatus} {args : FinishArgs}
    (h : finish tx lease status args db = .ok (published, db')) :
    ∃ row phase code, fence tx lease db = .ok row ∧ status ≠ .queued ∧ status ≠ .running ∧
      finishOutcome db row status args = (published, phase, code) ∧
      ¬ (published = .retryScheduled ∧
        (db.operation? lease.row.runId).any fun o => o.state.dispatched) ∧
      db' = match phase with
        | none => db.updateRun lease.row.runId (Run.finished tx.now published code args)
        | some phase => (db.updateRun lease.row.runId
            (Run.finished tx.now published code args)).updateIncident lease.row.incidentId
              fun i => { i with phase := phase } := by
  simp only [finish, bind_eq_ok, raiseIf_eq_ok, pure_eq_ok, not_or] at h
  obtain ⟨-, ⟨hq, hr⟩, -, -, row, hrow, -, hretry, h⟩ := h
  obtain ⟨rfl, rfl⟩ := Prod.mk.inj h
  exact ⟨row, _, _, hrow, hq, hr, rfl, hretry, rfl⟩

end Inversion

/-- What `finish` publishes is what it was asked to, unless the run was asked to stop: then
a result or a wait becomes a reconciliation or a cancellation, according to the write. -/
theorem finishOutcome_cases {db : Db} {row : Run} {status published : RunStatus}
    {args : FinishArgs} {phase code : Option String}
    (h : finishOutcome db row status args = (published, phase, code)) :
    (published = status ∧ (row.stopRequested = true → published ≠ .succeeded ∧
        published ≠ .failed ∧ published ≠ .waitingUser ∧ published ≠ .waitingApproval)) ∨
    (row.stopRequested = true ∧ published = .reconciling ∧
      (db.operation? row.runId).any (fun o => o.state.uncertain) = true) ∨
    (row.stopRequested = true ∧ published = .cancelled ∧
      (db.operation? row.runId).any (fun o => o.state.uncertain) = false) := by
  unfold finishOutcome at h
  split at h
  · rename_i hstop
    split at h
    · rename_i hop
      obtain ⟨rfl, -⟩ := Prod.mk.inj h
      exact Or.inr (Or.inl ⟨hstop.1, rfl, hop⟩)
    · rename_i hop
      obtain ⟨rfl, -⟩ := Prod.mk.inj h
      exact Or.inr (Or.inr ⟨hstop.1, rfl, by simpa using hop⟩)
  · rename_i hstop
    obtain ⟨rfl, -⟩ := Prod.mk.inj h
    refine Or.inl ⟨rfl, fun hs => ?_⟩
    simpa [hs, not_or] using hstop

end IncidentAgent
