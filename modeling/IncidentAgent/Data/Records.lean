import IncidentAgent.Lib.JsonPatch
import IncidentAgent.Lib.SortedMap

/-!
# The records of the incident agent

The values that the agent's graph, its executor and its journal exchange: the plan of a
repair, the request for its approval and the decision on it, the snapshot of a target
before and after a write, and the result of the write. Each structure has the fields of
the class of the same name in `agent/schemas.py`, in the order of the source.

Dictionaries that are compared with `==` (the labels of a selector) are `SortedMap`s, so
that equal records are equal in Lean.
-/

namespace IncidentAgent

/-- The labels of a selector, a dictionary from keys to values. -/
abbrev Labels := SortedMap String String

/-- `LabelPair`. -/
structure LabelPair where
  key : String
  value : String
  deriving DecidableEq, Inhabited

/-- `{item.key: item.value for item in pairs}`. -/
def Labels.ofPairs (pairs : List LabelPair) : Labels :=
  SortedMap.ofList (pairs.map fun item => (item.key, item.value))

/-- The kind of a target. -/
inductive ResourceKind
  | service
  | deployment
  | pod
  deriving DecidableEq, Inhabited

/-- `str | int`, the type of the port of a probe. -/
inductive Port
  | name (text : String)
  | number (value : Int)
  deriving DecidableEq, Inhabited

/-- `RemediationActionName`. -/
inductive RemediationActionName
  | manualInvestigation
  | patchReadinessProbe
  | patchServiceSelector
  deriving DecidableEq, Inhabited

/-- `RemediationParameters`. -/
structure RemediationParameters where
  namespaceName : String
  resourceKind : ResourceKind
  resourceName : String
  containerName : Option String
  currentProbePath : Option String
  proposedProbePath : Option String
  currentProbePort : Option Port
  proposedProbePort : Option Port
  currentSelector : List LabelPair
  proposedSelector : List LabelPair
  investigationSteps : List String
  deriving DecidableEq, Inhabited

/-- The risk level of a plan. -/
inductive RiskLevel
  | low
  | medium
  | high
  deriving DecidableEq, Inhabited

/-- `RemediationPlan`. -/
structure RemediationPlan where
  targetUid : Option String
  action : RemediationActionName
  parameters : RemediationParameters
  riskLevel : RiskLevel
  summary : String
  expectedResult : String
  rollbackPlan : String
  evidenceIds : List String
  runbookIds : List String
  requiresApproval : Bool
  deriving DecidableEq, Inhabited

/-- `ApprovalRequest`. -/
structure ApprovalRequest where
  approvalId : String
  incidentId : String
  plan : RemediationPlan
  planRevision : Option String
  approvalRevision : Option String
  deriving DecidableEq, Inhabited

/-- `ApprovalDecision`. -/
structure ApprovalDecision where
  approvalId : String
  approved : Bool
  approver : String
  comment : String
  deriving DecidableEq, Inhabited

/-- `ApprovalRecord`. -/
structure ApprovalRecord where
  approvalId : String
  incidentId : String
  action : RemediationActionName
  approved : Bool
  approver : String
  comment : String
  decidedAt : String
  planRevision : Option String
  approvalRevision : Option String
  deriving DecidableEq, Inhabited

/-- The value of the column `approval_payload`: the decision of a human, with the digest
of the state it was given for. -/
structure ApprovalPayload where
  decision : ApprovalDecision
  binding : String
  deriving DecidableEq, Inhabited

/-- The `configuration` of a snapshot: what the two writable resources have of it. -/
inductive Configuration
  /-- `{"selector": …}`, of a Service. -/
  | selector (labels : Labels)
  /-- `{"container_name": …, "readiness_probe": {"path": …, "port": …}}`, of a
  Deployment. -/
  | probe (containerName : Option String) (path : Option String) (port : Option Port)
  deriving DecidableEq

instance : Inhabited Configuration := ⟨.selector default⟩

/-- `ResourceSnapshot`. -/
structure ResourceSnapshot where
  uid : Option String
  generation : Option Int
  namespaceName : String
  resourceKind : ResourceKind
  resourceName : String
  resourceVersion : String
  configuration : Configuration
  deriving DecidableEq, Inhabited

/-- `ExecutionStatus`. -/
inductive ExecutionStatus
  | succeeded
  | alreadyApplied
  | conflict
  | failed
  deriving DecidableEq, Inhabited

/-- `ActionExecutionResult`, with the patch that was applied and without the fields that
the journal leaves empty. -/
structure ActionExecutionResult where
  executionId : String
  approvalId : String
  action : RemediationActionName
  status : ExecutionStatus
  namespaceName : String
  resourceKind : ResourceKind
  resourceName : String
  startedAt : Nat
  finishedAt : Nat
  beforeSnapshot : Option ResourceSnapshot
  afterSnapshot : Option ResourceSnapshot
  appliedPatch : List PatchOp
  message : String
  errorCode : Option String
  deriving DecidableEq, Inhabited

end IncidentAgent
