import IncidentAgent.Store.Leases

/-!
# The journal of writes

The operation of a run is the journal of its one write to the cluster. It is inserted as
`prepared` with the patch that will be sent, becomes `dispatching` before the patch is
sent, and takes the outcome from there; nothing brings it back. The decision of a human
is stored in the row of the run by `queueApproval`, and every step towards the cluster
checks with `assertRevision` that the human has not spoken since.
-/

namespace IncidentAgent

/-- `assert_revision(connection, run_id)`: the run was not asked to stop, and no input has
reached its incident since it was accepted. -/
def assertRevision (db : Db) (runId : String) : Except Failure PUnit :=
  raiseIf (¬ ∃ r ∈ db.runs, r.runId = runId ∧ r.stopRequested = false ∧
    ∃ i ∈ db.incidents, i.incidentId = r.incidentId ∧ r.eventRevision = i.eventRevision)
    .approvalConflict

theorem assertRevision_eq_ok {db : Db} {runId : String} {u : PUnit}
    (h : assertRevision db runId = .ok u) :
    ∃ r ∈ db.runs, r.runId = runId ∧ r.stopRequested = false ∧
      ∃ i ∈ db.incidents, i.incidentId = r.incidentId ∧ r.eventRevision = i.eventRevision := by
  simpa only [assertRevision, raiseIf_eq_ok, not_not] using h

/-! ### The decision of a human -/

/-- `OperationRepository.queue_approval`. -/
def queueApproval (runId : String) (decision : ApprovalDecision) (binding : String) (db : Db) :
    Except Failure Db := do
  let payload : ApprovalPayload := ⟨decision, binding⟩
  let row ← rowOr (db.run? runId) .approvalConflict
  assertRevision db runId
  match row.approvalPayload with
  | some saved =>
    raiseIf (saved ≠ payload) .approvalConflict
    pure db
  | none =>
    raiseIf (row.status ≠ .waitingApproval) .approvalConflict
    raiseIf (db.unresolvedOperation row.incidentId) .approvalConflict
    pure (db.updateRun runId fun r =>
      { r with approvalPayload := some payload, status := .queued, attemptBase := r.attempt })

/-! ### The journal -/

/-- The arguments of `prepare`. -/
structure PrepareArgs where
  approvalId : String
  planRevision : String
  plan : RemediationPlan
  action : RemediationActionName
  before : ResourceSnapshot
  target : ResourceSnapshot
  patch : List PatchOp
  deriving DecidableEq, Inhabited

/-- The identifier of the operation of a run for a plan and its approval. -/
def operationId (env : Env) (runId planRevision approvalId : String) : String :=
  "op-" ++ env.requestDigest (.obj [("run", .str runId), ("plan", .str planRevision),
    ("approval", .str approvalId), ("sequence", .num 0)])

/-- The row that `prepare` inserts. -/
def Operation.initial (env : Env) (lease : Lease) (args : PrepareArgs) (now : Nat) : Operation where
  operationId := IncidentAgent.operationId env lease.row.runId args.planRevision args.approvalId
  runId := lease.row.runId
  incidentId := lease.row.incidentId
  approvalId := args.approvalId
  planRevision := args.planRevision
  planSnapshot := args.plan
  approvalSnapshot := lease.row.approvalPayload
  action := args.action
  state := .prepared
  leaseEpoch := lease.row.leaseEpoch
  beforeSnapshot := args.before
  targetSnapshot := args.target
  requestPatch := args.patch
  responseSnapshot := none
  observedSnapshot := none
  result := none
  attribution := .notEstablished
  errorCode := none
  createdAt := now

/-- `OperationRepository.prepare`. -/
def prepare (env : Env) (tx : Tx) (lease : Lease) (args : PrepareArgs) (db : Db) :
    Except Failure (Operation × Db) := do
  let _ ← fence tx lease db
  raiseIf (∃ o ∈ db.operations, o.incidentId = lease.row.incidentId ∧ o.runId ≠ lease.row.runId ∧
    o.state.unresolved) .approvalConflict
  assertRevision db lease.row.runId
  match db.operation? lease.row.runId with
  | some existing =>
    raiseIf (existing.operationId ≠
      operationId env lease.row.runId args.planRevision args.approvalId) .approvalConflict
    pure (existing, db)
  | none =>
    let operation := Operation.initial env lease args tx.now
    let db ← db.insertOperation operation
    pure (operation, db)

/-- The rows that `dispatch` selects. -/
def dispatchSelects (lease : Lease) (operationId : String) (o : Operation) : Bool :=
  o.operationId = operationId ∧ o.runId = lease.row.runId ∧ o.state = .prepared

/-- The columns that `dispatch` sets. -/
def Operation.dispatching (lease : Lease) (o : Operation) : Operation :=
  { o with state := .dispatching, leaseEpoch := lease.row.leaseEpoch }

/-- `OperationRepository.dispatch`. -/
def dispatch (tx : Tx) (lease : Lease) (operationId : String) (db : Db) : Except Failure Db := do
  let _ ← fence tx lease db
  assertRevision db lease.row.runId
  raiseIf (db.operations.any (dispatchSelects lease operationId) = false) .leaseLost
  pure { db with
    operations := Table.updateWhere (dispatchSelects lease operationId)
      (Operation.dispatching lease) db.operations }

/-- The states from which `record` may reach a state. -/
def recordAllowed : OperationState → OperationState → Bool
  | .succeeded, current => current = .dispatching
  | .rejected, current => current = .prepared ∨ current = .dispatching
  | .outcomeUnknown, current => current = .dispatching
  | .reconciled, current => current = .succeeded ∨ current = .reconciled
  | .manualRequired, current => current = .dispatching ∨ current = .outcomeUnknown ∨
      current = .succeeded ∨ current = .reconciled ∨ current = .manualRequired
  | _, _ => false

/-- The keyword arguments of `record`. -/
structure RecordArgs where
  response : Option ResourceSnapshot
  observed : Option ResourceSnapshot
  result : Option ActionExecutionResult
  code : Option String
  attribution : Attribution
  deriving DecidableEq, Inhabited

/-- The columns that `record` sets. -/
def Operation.recorded (state : OperationState) (args : RecordArgs) (o : Operation) : Operation :=
  { o with
    state := state
    errorCode := args.code
    responseSnapshot := args.response.or o.responseSnapshot
    observedSnapshot := args.observed.or o.observedSnapshot
    result := args.result.or o.result
    attribution := args.attribution }

/-- `OperationRepository.record`. -/
def record (tx : Tx) (lease : Lease) (state : OperationState) (args : RecordArgs) (db : Db) :
    Except Failure Db := do
  raiseIf (state = .prepared ∨ state = .dispatching) (.valueError "invalid operation outcome")
  let _ ← fence tx lease db
  let current ← rowOr (db.operation? lease.row.runId) (.valueError "invalid operation transition")
  raiseIf (recordAllowed state current.state = false) (.valueError "invalid operation transition")
  raiseIf ((args.response.isSome ∧ current.responseSnapshot.isSome) ∨
      (args.result.isSome ∧ current.result.isSome))
    (.valueError "operation response is immutable")
  pure (db.updateOperation lease.row.runId (Operation.recorded state args))

/-! ### What a committed transaction did -/

section Inversion

variable {env : Env} {tx : Tx} {lease : Lease} {db db' : Db}

/-- **What `queue_approval` does**: it finds the very decision stored already, or stores it
in a run that waits for it and that nothing has overtaken. -/
theorem queueApproval_eq_ok {runId : String} {decision : ApprovalDecision} {binding : String}
    (h : queueApproval runId decision binding db = .ok db') :
    ∃ row, db.run? runId = some row ∧ assertRevision db runId = .ok ⟨⟩ ∧
      ((row.approvalPayload = some ⟨decision, binding⟩ ∧ db' = db) ∨
        (row.approvalPayload = none ∧ row.status = .waitingApproval ∧
          ¬ db.unresolvedOperation row.incidentId ∧
          db' = db.updateRun runId fun r =>
            { r with
              approvalPayload := some ⟨decision, binding⟩
              status := .queued
              attemptBase := r.attempt })) := by
  simp only [queueApproval, bind_eq_ok, rowOr_eq_ok] at h
  obtain ⟨row, hrow, ⟨⟩, hrev, h⟩ := h
  refine ⟨row, hrow, hrev, ?_⟩
  split at h
  · rename_i saved hsaved
    simp only [bind_eq_ok, raiseIf_eq_ok, pure_eq_ok, not_not] at h
    obtain ⟨-, rfl, rfl⟩ := h
    exact Or.inl ⟨hsaved, rfl⟩
  · rename_i hsaved
    simp only [bind_eq_ok, raiseIf_eq_ok, pure_eq_ok, not_not] at h
    obtain ⟨-, hstatus, -, hop, rfl⟩ := h
    exact Or.inr ⟨hsaved, hstatus, hop, rfl⟩

/-- **What `prepare` does**: it returns the operation that the run has, with the identifier
of this plan and approval, or inserts it. -/
theorem prepare_eq_ok {args : PrepareArgs} {o : Operation}
    (h : prepare env tx lease args db = .ok (o, db')) :
    (∃ row, fence tx lease db = .ok row) ∧
    (¬ ∃ p ∈ db.operations, p.incidentId = lease.row.incidentId ∧ p.runId ≠ lease.row.runId ∧
      p.state.unresolved) ∧
    assertRevision db lease.row.runId = .ok ⟨⟩ ∧
    ((db.operation? lease.row.runId = some o ∧ db' = db ∧
        o.operationId = operationId env lease.row.runId args.planRevision args.approvalId) ∨
      (db.operation? lease.row.runId = none ∧ o = Operation.initial env lease args tx.now ∧
        db.OperationConstraints o ∧ db' = { db with operations := db.operations ++ [o] })) := by
  simp only [prepare, bind_eq_ok, raiseIf_eq_ok] at h
  obtain ⟨row, hrow, -, hother, ⟨⟩, hrev, h⟩ := h
  refine ⟨⟨row, hrow⟩, hother, hrev, ?_⟩
  split at h
  · rename_i existing hexisting
    simp only [bind_eq_ok, raiseIf_eq_ok, pure_eq_ok, not_not] at h
    obtain ⟨-, hid, h⟩ := h
    obtain ⟨rfl, rfl⟩ := Prod.mk.inj h
    exact Or.inl ⟨hexisting, rfl, hid⟩
  · rename_i hnone
    simp only [Db.insertOperation, bind_eq_ok, raiseIf_eq_ok, pure_eq_ok, not_not] at h
    obtain ⟨_, ⟨-, hc, rfl⟩, h⟩ := h
    obtain ⟨rfl, rfl⟩ := Prod.mk.inj h
    exact Or.inr ⟨hnone, rfl, hc, rfl⟩

/-- **What `dispatch` does**: it turns a prepared operation of the run into a dispatching
one. -/
theorem dispatch_eq_ok {operationId : String}
    (h : dispatch tx lease operationId db = .ok db') :
    (∃ row, fence tx lease db = .ok row) ∧ assertRevision db lease.row.runId = .ok ⟨⟩ ∧
      (∃ o ∈ db.operations, o.operationId = operationId ∧ o.runId = lease.row.runId ∧
        o.state = .prepared) ∧
      db' = { db with
        operations := Table.updateWhere (dispatchSelects lease operationId)
          (Operation.dispatching lease) db.operations } := by
  simp only [dispatch, bind_eq_ok, raiseIf_eq_ok, pure_eq_ok] at h
  obtain ⟨row, hrow, ⟨⟩, hrev, -, hany, rfl⟩ := h
  refine ⟨⟨row, hrow⟩, hrev, ?_, rfl⟩
  simpa [dispatchSelects] using hany

/-- **What `record` does**: it moves the operation of the run to an outcome that its state
allows, and keeps a response and a result that are there. -/
theorem record_eq_ok {state : OperationState} {args : RecordArgs}
    (h : record tx lease state args db = .ok db') :
    (∃ row, fence tx lease db = .ok row) ∧
      (∃ o, db.operation? lease.row.runId = some o ∧ recordAllowed state o.state = true ∧
        ¬ ((args.response.isSome ∧ o.responseSnapshot.isSome) ∨
          (args.result.isSome ∧ o.result.isSome))) ∧
      db' = db.updateOperation lease.row.runId (Operation.recorded state args) := by
  simp only [record, bind_eq_ok, raiseIf_eq_ok, pure_eq_ok, rowOr_eq_ok] at h
  obtain ⟨-, -, row, hrow, o, ho, -, hallowed, -, hsome, rfl⟩ := h
  exact ⟨⟨row, hrow⟩, ⟨o, ho, by simpa using hallowed, hsome⟩, rfl⟩

end Inversion

/-- No outcome brings an operation back before its dispatch. -/
theorem recordAllowed_ne {state current : OperationState} (h : recordAllowed state current = true) :
    state ≠ .prepared ∧ state ≠ .dispatching := by
  cases state <;> simp_all [recordAllowed]

end IncidentAgent
