import IncidentAgent.Executor.Target
import IncidentAgent.Lib.Raising

/-!
# The executor of an approved write

`LedgerExecutor.execute` is the one program that writes to the cluster. It compares the state that
is executed with the approval that the claimed row carries, looks at the journal, reads the target,
journals the write before it is sent, sends the patch of the journal once, and journals what came of
it. `LedgerExecutor.reconcile` reads the target of a journaled write and compares it with the
journaled response.

Both are programs that ask the world: transactions of the store, reads of the cluster, and one
query, `LedgerQuery.patch`, that writes. Any query may raise, a program may be lost between any two
of them, and what a read is answered is arbitrary.
-/

namespace IncidentAgent

/-- What the executor asks. -/
inductive LedgerQuery
  /-- `lost.is_set()`. -/
  | isLost
  | assertOwned
  | operation
  /-- `revalidate_live_profile(state, clients, plan)["resource_version"]`. -/
  | revalidate (state : Json) (plan : RemediationPlan)
  | readTarget (kind : ResourceKind) (namespaceName name : String)
  | prepare (args : PrepareArgs)
  /-- `budget.before_write(required=120)`. -/
  | beforeWrite
  | dispatch (operationId : String)
  /-- `patch_namespaced_service` or `patch_namespaced_deployment`. -/
  | patch (kind : ResourceKind) (namespaceName name : String) (body : List PatchOp)
  | record (state : OperationState) (args : RecordArgs)
  | clock

/-- The answers, when nothing is raised. -/
@[reducible] def LedgerQuery.Answer : LedgerQuery → Type
  | .isLost => Bool
  | .operation => Option Operation
  | .revalidate _ _ => String
  | .readTarget _ _ _ | .patch _ _ _ _ => Json
  | .prepare _ => Operation
  | .clock => Nat
  | .assertOwned | .beforeWrite | .dispatch _ | .record _ _ => Unit

/-- An exception, as far as the executor tells them apart. -/
inductive LedgerError
  /-- One that a transaction of the store raises. -/
  | store (failure : Failure)
  /-- `ApiException`, with its status. -/
  | api (status : Option Int)
  /-- Any other one, by its type. -/
  | raised (errorType : String)
  deriving DecidableEq, Inhabited

/-- A program of the executor. -/
abbrev LedgerProg (α : Type) : Type :=
  Act LedgerQuery (fun q => Except LedgerError q.Answer) LedgerError α

namespace Ledger

variable (env : Env) (lib : LedgerLibrary) (lease : Lease)

def ask (q : LedgerQuery) : LedgerProg q.Answer := Act.ask id q

/-- What a computation of the process returns or raises. -/
def compute {α : Type} (x : Except String α) : LedgerProg α :=
  Act.ofExcept (x.mapError LedgerError.raised)

/-- `_assert_owned`. -/
def assertOwned : LedgerProg Unit := do
  let lost ← ask .isLost
  if lost then throw (.store .leaseLost) else ask .assertOwned

/-- `read_target`: the resource that was read and its snapshot. -/
def readTarget (p : RemediationParameters) : LedgerProg (Json × ResourceSnapshot) := do
  let resource ← ask (.readTarget p.resourceKind p.namespaceName p.resourceName)
  let snapshot ← compute (targetSnapshot lib p resource)
  compute (raiseIf (snapshot.uid.getD "" = "") "ValueError")
  pure (resource, snapshot)

/-! ### Before anything is read -/

/-- The authorization of the state, and its comparison with the approval in the claimed row. -/
def authorized (state : Json) : Except String ExecutionAuthorization := do
  let auth ← (validateExecutionAuthorization env lib.toExecutionLibrary state).mapError
    Raised.errorType
  let saved ← rowOr lease.row.approvalPayload "ValueError"
  raiseIf (saved.decision.approved = false ∨ saved.binding ≠ approvalBinding env state)
    "ValueError"
  raiseIf (saved.decision.approvalId ≠ auth.approvalId) "ValueError"
  raiseIf (saved.decision.approved ≠ auth.approvalRecord.approved ∨
      saved.decision.approver ≠ auth.approvalRecord.approver ∨
      saved.decision.comment ≠ auth.approvalRecord.comment)
    "ValueError"
  pure auth

/-- What the journal already says of the execution: nothing that stops it, its result, or that
its outcome has to be read. -/
def journaledResult (auth : ExecutionAuthorization) (operation : Option Operation) :
    Except String (Option ActionExecutionResult) :=
  match operation with
  | none => .ok none
  | some o => do
    raiseIf (o.approvalId ≠ auth.approvalId ∨ o.planRevision ≠ planRevision env auth.plan)
      "ValueError"
    if o.state ∈ [OperationState.succeeded, .reconciled, .rejected] ∧ o.result.isSome then
      pure o.result
    else do
      raiseIf (o.state ≠ .prepared) "OutcomeUnknown"
      pure none

/-! ### After the write -/

/-- The result of an execution. -/
def executionResult (auth : ExecutionAuthorization) (operation : Operation)
    (status : ExecutionStatus) (after : Option ResourceSnapshot) (code : Option String)
    (now : Nat) : ActionExecutionResult where
  executionId := auth.executionId
  approvalId := auth.approvalId
  action := auth.plan.action
  status := status
  namespaceName := auth.plan.parameters.namespaceName
  resourceKind := auth.plan.parameters.resourceKind
  resourceName := auth.plan.parameters.resourceName
  startedAt := operation.createdAt
  finishedAt := now
  beforeSnapshot := some operation.beforeSnapshot
  afterSnapshot := after
  appliedPatch := if status = .succeeded then operation.requestPatch else []
  message := if after.isSome then "Recorded Kubernetes patch response."
    else "Write rejected before application."
  errorCode := code

/-- `_result`. -/
def result (auth : ExecutionAuthorization) (operation : Operation) (status : ExecutionStatus)
    (after : Option ResourceSnapshot) (code : Option String) :
    LedgerProg ActionExecutionResult := do
  let now ← ask .clock
  let result := executionResult auth operation status after code now
  ask (.record (if status = .succeeded then .succeeded else .rejected)
    ⟨after, none, some result, code,
      if status = .succeeded then .confirmed else .notEstablished⟩)
  pure result

/-- The outcome of the write is not known. -/
def unknownOutcome {α : Type} (response : Option ResourceSnapshot) (code : String) :
    LedgerProg α := do
  ask (.record .outcomeUnknown ⟨response, none, none, some code, .notEstablished⟩)
  throw (.raised "OutcomeUnknown")

/-- The statuses with which the API server says that it has applied nothing. -/
def rejectedStatuses : List Int := [400, 401, 403, 404, 409, 422]

/-- What the answer to a patch contains is not what was to be written. -/
def mismatched (p : RemediationParameters) (before target after : ResourceSnapshot) : Prop :=
  after.uid ≠ before.uid ∨ after.configuration ≠ target.configuration ∨
    (p.resourceKind = .deployment ∧ after.generation = none) ∨
    after.resourceVersion = "" ∨ after.resourceVersion = before.resourceVersion

instance decidableMismatched (p : RemediationParameters) (before target after : ResourceSnapshot) :
    Decidable (mismatched p before target after) := by
  unfold mismatched
  infer_instance

/-- The patch of the journal is sent, and what came of it is journaled: the response itself, and
never a later read. -/
def send (auth : ExecutionAuthorization) (operation : Operation)
    (before target : ResourceSnapshot) : LedgerProg ActionExecutionResult := do
  let p := auth.plan.parameters
  let answer ← Act.attempt
    (ask (.patch p.resourceKind p.namespaceName p.resourceName operation.requestPatch))
  match answer with
  | .error error =>
    if (match error with
        | .api (some status) => decide (status ∈ rejectedStatuses)
        | _ => false) = true then
      result auth operation .conflict none (some "KUBERNETES_REJECTED")
    else unknownOutcome none "WRITE_OUTCOME_UNKNOWN"
  | .ok response =>
    match targetSnapshot lib p response with
    | .error _ => unknownOutcome none "INVALID_WRITE_RESPONSE"
    | .ok after =>
      if mismatched p before target after then
        unknownOutcome (some after) "WRITE_RESPONSE_MISMATCH"
      else result auth operation .succeeded (some after) none

/-! ### The execution -/

/-- A prepared write is sent only to the target that it was prepared for, as it was approved. -/
def preconditionFailed (auth : ExecutionAuthorization) (state : Json) (operation : Operation)
    (before : ResourceSnapshot) (live : String) : Prop :=
  before ≠ operation.beforeSnapshot ∨
    textOr before.uid ≠ approvedUid state auth.plan.parameters ∨
    (auth.plan.parameters.resourceKind = .deployment ∧ before.resourceVersion ≠ live) ∨
    before.configuration ≠ priorConfiguration auth.plan

instance decidablePreconditionFailed (auth : ExecutionAuthorization) (state : Json)
    (operation : Operation) (before : ResourceSnapshot) (live : String) :
    Decidable (preconditionFailed auth state operation before live) := by
  unfold preconditionFailed
  infer_instance

/-- The write is dispatched in the journal before it is sent. -/
def dispatchAndSend (auth : ExecutionAuthorization) (operation : Operation)
    (before target : ResourceSnapshot) : LedgerProg ActionExecutionResult := do
  ask .beforeWrite
  ask (.dispatch operation.operationId)
  assertOwned
  send lib auth operation before target

/-- The write is prepared, and sent if the target is the one that was approved. -/
def prepareAndSend (state : Json) (auth : ExecutionAuthorization) :
    LedgerProg ActionExecutionResult := do
  let live ← ask (.revalidate state auth.plan)
  let read ← readTarget lib auth.plan.parameters
  let before := read.2
  let target := { before with configuration := desiredConfiguration auth.plan }
  let patch ← compute (buildPatch auth.plan read.1 before)
  let operation ← ask (.prepare {
    approvalId := auth.approvalId
    planRevision := planRevision env auth.plan
    plan := auth.plan
    action := auth.plan.action
    before := before
    target := target
    patch := patch })
  if preconditionFailed auth state operation before live then
    result auth operation .conflict none (some "OPERATION_PRECONDITION_FAILED")
  else dispatchAndSend lib auth operation before target

/-- **`LedgerExecutor.execute`.** -/
def execute (state : Json) : LedgerProg ActionExecutionResult := do
  assertOwned
  let auth ← compute (authorized env lib lease state)
  let operation ← ask .operation
  let journaled ← compute (journaledResult env auth operation)
  match journaled with
  | some result => pure result
  | none => prepareAndSend env lib state auth

/-! ### The reconciliation -/

/-- The target of a journaled write. -/
def journaledTarget (operation : Operation) : RemediationParameters :=
  { (default : RemediationParameters) with
    namespaceName := operation.beforeSnapshot.namespaceName
    resourceKind := operation.beforeSnapshot.resourceKind
    resourceName := operation.beforeSnapshot.resourceName
    containerName := match operation.targetSnapshot.configuration with
      | .probe name _ _ => name
      | .selector _ => none }

/-- Whether the target is exactly as the journaled response says, and the write was confirmed. -/
def confirms (operation : Operation) (observed : ResourceSnapshot) : Prop :=
  operation.attribution = .confirmed ∧ operation.responseSnapshot = some observed ∧
    observed.configuration = operation.targetSnapshot.configuration ∧
    observed.uid = operation.beforeSnapshot.uid ∧ operation.result.isSome

instance decidableConfirms (operation : Operation) (observed : ResourceSnapshot) :
    Decidable (confirms operation observed) := by
  unfold confirms
  infer_instance

/-- **`LedgerExecutor.reconcile`.** -/
def reconcile (operation : Operation) : LedgerProg Bool := do
  let read ← Act.attempt (readTarget lib (journaledTarget operation))
  match read with
  | .error _ => do
    ask (.record .manualRequired
      ⟨none, none, none, some "RECONCILIATION_READ_FAILED", .notEstablished⟩)
    pure false
  | .ok read =>
    if confirms operation read.2 then do
      ask (.record .reconciled ⟨none, some read.2, none, none, .confirmed⟩)
      pure true
    else do
      ask (.record .manualRequired
        ⟨none, some read.2, none, some "OPERATION_MANUAL_REQUIRED", .notEstablished⟩)
      pure false

end Ledger

end IncidentAgent
