import IncidentAgent.Data.Observation
import IncidentAgent.Data.Records
import IncidentAgent.Lib.Table
import Mathlib.Data.Prod.Lex

/-!
# The tables of the durable store

The rows of the application schema, with the columns that the migrations give them, and
the database as one list of rows for each table. A status column is an inductive type
with one constructor for each text that its `CHECK` allows; a `JSONB` column is a
structure where the code reads its fields, and a `Json` value where it only carries it.

Timestamps are natural numbers, the readings of the database clock. Columns that no
modelled statement reads (`updated_at`, `heartbeat_at` and the like) are left out.
-/

namespace IncidentAgent

/-! ### Status columns -/

/-- `runs.status`. -/
inductive RunStatus
  | queued
  | running
  | waitingUser
  | waitingApproval
  | retryScheduled
  | reconciling
  | succeeded
  | failed
  | cancelled
  deriving DecidableEq, Inhabited

/-- `TERMINAL`: the statuses that end a run. -/
def RunStatus.terminal : RunStatus → Bool
  | .succeeded | .failed | .cancelled => true
  | _ => false

/-- `runs.run_kind`. -/
inductive RunKind
  | diagnosis
  | interaction
  deriving DecidableEq, Inhabited

/-- `operations.state`. -/
inductive OperationState
  | prepared
  | dispatching
  | succeeded
  | rejected
  | outcomeUnknown
  | reconciled
  | manualRequired
  deriving DecidableEq, Inhabited

/-- `state IN ('prepared','dispatching','outcome_unknown','manual_required')`: the
operations that keep an incident closed to new work. -/
def OperationState.unresolved : OperationState → Bool
  | .prepared | .dispatching | .outcomeUnknown | .manualRequired => true
  | _ => false

/-- `state IN {'dispatching','outcome_unknown','manual_required'}`: a write may have
reached the cluster and nobody knows its outcome. -/
def OperationState.uncertain : OperationState → Bool
  | .dispatching | .outcomeUnknown | .manualRequired => true
  | _ => false

/-- `state NOT IN {'prepared','rejected'}`: the write was dispatched. -/
def OperationState.dispatched : OperationState → Bool
  | .prepared | .rejected => false
  | _ => true

/-- `operations.attribution`. -/
inductive Attribution
  | confirmed
  | notEstablished
  deriving DecidableEq, Inhabited

/-- `messages.role`. -/
inductive Role
  | user
  | assistant
  | tool
  deriving DecidableEq, Inhabited

/-- `controls.status`. -/
inductive ControlStatus
  | saved
  | pending
  | started
  | superseded
  deriving DecidableEq, Inhabited

/-- `delayed_rechecks.status`. -/
inductive DelayedStatus
  | pending
  | running
  | passed
  | relapsed
  | unknown
  | invalidated
  | expired
  deriving DecidableEq, Inhabited

/-! ### JSON columns that the code reads -/

/-- One question of `runs.question_payload`: the slot it fills, and the rest. -/
structure QuestionItem where
  slot : String
  rest : Json
  deriving DecidableEq, Inhabited

/-- `runs.question_payload`. -/
structure Question where
  questionId : String
  version : Nat
  questions : List QuestionItem
  /-- The `resource_ref` of each of `change_candidates`. -/
  changeCandidates : List String
  evidenceRevision : Json
  source : String
  deriving DecidableEq, Inhabited

/-- `runs.answer_payload`. -/
structure Answer where
  questionId : String
  version : Nat
  answers : List (String × String)
  skip : Bool
  messageId : String
  sequence : Nat
  evidenceRevision : Json
  acceptedAt : Nat
  questions : List QuestionItem
  questionSource : String
  /-- The key is set only for the investigation workflow. -/
  changedResourceRefs : Option (List String)
  deriving DecidableEq, Inhabited

/-- `body.action` of a control. -/
inductive ControlAction
  | stop
  | supplement
  | investigate
  deriving DecidableEq, Inhabited

/-- `controls.result`: the receipt of a control, or of an answer. -/
inductive Receipt
  | control (action : ControlAction) (parentRunId : String)
      (deferredUntilWriteChecked : Bool) (diagnosisRunId : Option String)
  | answer (runId threadId questionId : String) (version : Nat)
  deriving DecidableEq, Inhabited

/-! ### Rows -/

/-- A row of `incidents`. -/
structure Incident where
  incidentId : String
  threadId : String
  namespaceName : String
  serviceName : String
  description : String
  phase : String
  eventRevision : Nat
  deriving DecidableEq, Inhabited

/-- A row of `runs`. -/
structure Run where
  runId : String
  incidentId : String
  threadId : String
  runKind : RunKind
  parentRunId : Option String
  inputRevision : Nat
  inputPayload : Json
  inputSha256 : String
  workflowVersion : String
  /-- `idempotency_scope` and `idempotency_key`, both null or both not. -/
  idempotency : Option (String × String)
  requestSha256 : String
  status : RunStatus
  createdAt : Nat
  finishedAt : Option Nat
  lastError : Option String
  attempt : Nat
  attemptBase : Nat
  leaseOwner : Option String
  leaseEpoch : Nat
  leaseExpiresAt : Option Nat
  nextRetryAt : Option Nat
  checkpointStarted : Bool
  approvalPayload : Option ApprovalPayload
  sourceMessageId : Option String
  inputMessageSequence : Option Nat
  contextSnapshot : Option Json
  contextSha256 : Option String
  outputSnapshot : Option Json
  interactionProgress : Json
  eventRevision : Nat
  stopRequested : Bool
  invalidatedAt : Option Nat
  questionPayload : Option Question
  answerPayload : Option Answer
  adoptedMessageIds : List String
  deriving DecidableEq, Inhabited

/-- A run that is neither succeeded, nor failed, nor cancelled. -/
def Run.active (r : Run) : Bool :=
  !r.status.terminal

/-- A run of the diagnosis lane of an incident. -/
def Run.diagnosisOf (incidentId : String) (r : Run) : Bool :=
  r.incidentId == incidentId && r.runKind == .diagnosis

/-- The order of `ORDER BY created_at, run_id`. -/
def Run.rank (r : Run) : Nat ×ₗ String :=
  toLex (r.createdAt, r.runId)

/-- A row of `operations`. -/
structure Operation where
  operationId : String
  runId : String
  incidentId : String
  approvalId : String
  planRevision : String
  planSnapshot : RemediationPlan
  approvalSnapshot : Option ApprovalPayload
  action : RemediationActionName
  state : OperationState
  leaseEpoch : Nat
  beforeSnapshot : ResourceSnapshot
  targetSnapshot : ResourceSnapshot
  requestPatch : List PatchOp
  responseSnapshot : Option ResourceSnapshot
  observedSnapshot : Option ResourceSnapshot
  result : Option ActionExecutionResult
  attribution : Attribution
  errorCode : Option String
  createdAt : Nat
  deriving DecidableEq, Inhabited

/-- A row of `messages`. -/
structure Message where
  messageId : String
  incidentId : String
  sequence : Nat
  clientMessageId : String
  role : Role
  content : String
  relatedRunId : Option String
  evidenceRefs : List String
  createdAt : Nat
  deriving DecidableEq, Inhabited

/-- `messages.source`, which its `CHECK` ties to the role. -/
def Role.source : Role → String
  | .user => "user_supplied"
  | .assistant => "model_generated"
  | .tool => "tool_observed"

/-- A row of `controls`. -/
structure Control where
  controlId : String
  incidentId : String
  clientMessageId : String
  requestSha256 : String
  request : Json
  messageId : String
  parentRunId : String
  snapshot : Json
  status : ControlStatus
  result : Receipt
  createdAt : Nat
  deriving DecidableEq, Inhabited

/-- A row of `rechecks`. -/
structure Recheck where
  recheckId : String
  incidentId : String
  runId : Option String
  result : Json
  deriving DecidableEq, Inhabited

/-- A row of `observation_windows`. -/
structure Window where
  observationKey : String
  incidentId : String
  runId : Option String
  ownerToken : String
  payload : WindowPayload
  deriving DecidableEq, Inhabited

/-- A row of `delayed_rechecks`. -/
structure DelayedRecheck where
  delayedId : String
  observationKey : String
  policyVersion : String
  incidentId : String
  sourceRunId : Option String
  basisRunId : Option String
  eventRevision : Nat
  target : ObservationTarget
  snapshot : Json
  initialResult : WindowPayload
  status : DelayedStatus
  expiresAt : Nat
  nextAttemptAt : Nat
  runId : Option String
  result : Option Json
  reason : Option String
  deriving DecidableEq, Inhabited

/-- A row of `run_budgets`. -/
structure Budget where
  runId : String
  payload : Json
  deriving DecidableEq, Inhabited

/-- The database of the application. -/
structure Db where
  incidents : List Incident
  runs : List Run
  messages : List Message
  operations : List Operation
  controls : List Control
  rechecks : List Recheck
  windows : List Window
  delayed : List DelayedRecheck
  budgets : List Budget
  deriving DecidableEq, Inhabited

/-- The database after the migrations. -/
def Db.empty : Db := ⟨[], [], [], [], [], [], [], [], []⟩

end IncidentAgent
