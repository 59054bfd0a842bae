import IncidentAgent.Executor.Approval
import IncidentAgent.Workflow.State

/-!
# The nodes of an approval and of a write

A plan that writes waits for a human. The request for the approval is built of the state
(`prepareApproval`); the graph is interrupted with it, and what it is resumed with is the decision of
a human, if it is one and if it is about this request (`requestHumanApproval`). Only then is the
executor asked (`executeRemediation`), and the recovery is verified after a write that has gone
through (`verifyRecoveryNode`).
-/

namespace IncidentAgent

/-! ### Documents -/

/-- `request.model_dump(mode="json")`. -/
def ApprovalRequest.dump (request : ApprovalRequest) : Json :=
  .obj [("approval_id", .str request.approvalId), ("incident_id", .str request.incidentId),
    ("plan", request.plan.dump), ("plan_revision", textOr request.planRevision),
    ("approval_revision", textOr request.approvalRevision)]

/-- `record.model_dump(mode="json")`. -/
def ApprovalRecord.dump (record : ApprovalRecord) : Json :=
  .obj [("approval_id", .str record.approvalId), ("incident_id", .str record.incidentId),
    ("action", .str record.action.value), ("approved", .bool record.approved),
    ("approver", .str record.approver), ("comment", .str record.comment),
    ("decided_at", .str record.decidedAt), ("plan_revision", textOr record.planRevision),
    ("approval_revision", textOr record.approvalRevision)]

/-- `InvalidApprovalDecision(message)`. -/
def invalidDecision (message : String) : Raised := ⟨"InvalidApprovalDecision", none, some message⟩

section

variable (env : Env) (lib : WorkflowLibrary)

/-- `load_existing_approval_record`. -/
def loadExistingApprovalRecord (state : Json) : Except Raised (Option ApprovalRecord) :=
  if state.get "approval_record" = .null then .ok none
  else (rowOr (lib.approvalRecord (state.get "approval_record"))
    (invalidDecision "existing approval record is invalid")).map some

/-- `validate_approval_decision`. -/
def validateApprovalDecision (value : Json) (expected : ApprovalRequest) :
    Except Raised ApprovalDecision := do
  let decision ← rowOr (lib.approvalDecision value)
    (invalidDecision "approval decision is invalid")
  raiseIf (decision.approvalId ≠ expected.approvalId)
    (invalidDecision "approval decision does not match the pending approval request")
  pure decision

/-- `create_approval_record`, whose constructor validates the record. -/
def constructApprovalRecord (request : ApprovalRequest) (decision : ApprovalDecision)
    (decidedAt : String) : Except Raised ApprovalRecord :=
  rowOr (lib.approvalRecord (createApprovalRecord request decision decidedAt).dump)
    ⟨"ValidationError", none, none⟩

/-- The status that a decision leads to. -/
def approvalStatus (approved : Bool) : String := if approved then "approved" else "rejected"

/-- The update where there is a record already. -/
def recordPreserved (record : ApprovalRecord) (step message : String) : Node Update :=
  update env [("phase", .str ("approval_" ++ approvalStatus record.approved)),
    ("approval_status", .str (approvalStatus record.approved)),
    ("approved", .bool record.approved)] [] [(step, "completed", message)]

/-- The update of an approval that has failed. The error is not counted. -/
def approvalFailed (stage code message event : String) (members : List (String × Json)) :
    Node Update :=
  update env ([("phase", .str "approval_failed"), ("approval_status", .str "failed")] ++ members)
    [errorItem stage code message] [(stage, "failed", event)]

/-- The exceptions of an approval that are caught where it is prepared. -/
def Raised.isInvalidApproval (e : Raised) : Bool :=
  e.errorType = "InvalidApprovalRequest" || e.errorType = "InvalidApprovalDecision"

/-- What an approval is prepared with: the record that there is, or a request. -/
def approvalBasis (state : Json) : Except Raised (ApprovalRecord ⊕ ApprovalRequest) := do
  match ← loadExistingApprovalRecord lib state with
  | some record => pure (.inl record)
  | none => (buildApprovalRequest env lib.toExecutionLibrary state).map .inr

/-- `prepare_approval`. -/
def prepareApproval (state : Json) : Node Update :=
  if state.get "requires_approval" ≠ .bool true then
    update env [("phase", .str "remediation_planned"), ("approval_status", .str "not_required"),
      ("approved", .null)] []
      [("prepare_approval", "completed", "remediation plan does not require approval")]
  else
    match approvalBasis env lib state with
    | .ok (.inl record) =>
      recordPreserved env record "prepare_approval" "existing approval record preserved"
    | .ok (.inr request) =>
      update env [("phase", .str "awaiting_approval"), ("approval_status", .str "pending"),
        ("approval_request", request.dump), ("approved", .null)] []
        [("prepare_approval", "completed", "approval request prepared")]
    | .error e =>
      if e.isInvalidApproval then
        approvalFailed env "prepare_approval" "INVALID_APPROVAL_REQUEST" (lib.errorText e)
          "approval request validation failed" [("approved", .null)]
      else throw e

/-- The request that a human is asked to approve: the one that the state has, if it is the one that
is built of the state now. -/
def expectedRequest (state : Json) : Except Raised ApprovalRequest := do
  let expected ← buildApprovalRequest env lib.toExecutionLibrary state
  let stored ← rowOr (lib.approvalRequest (state.get "approval_request"))
    ⟨"ValidationError", none, some (lib.validationText "ApprovalRequest"
      (state.get "approval_request"))⟩
  raiseIf (stored ≠ expected)
    (invalidRequest "stored approval request does not match remediation plan")
  pure expected

/-- What the graph is interrupted with. -/
def approvalPayload (request : ApprovalRequest) : Json :=
  .obj [("type", .str "remediation_approval_required"), ("message", .str "该处置方案需要人工审批。"),
    ("approval_request", request.dump)]

/-- The update after a decision. -/
def decided (request : ApprovalRequest) (decision : ApprovalDecision) : Node Update := do
  let now ← Ports.clock
  let record ← Act.ofExcept (constructApprovalRecord lib request decision (env.isoformat now))
  let status := approvalStatus decision.approved
  update env [("phase", .str ("approval_" ++ status)), ("approval_status", .str status),
    ("approval_request", request.dump), ("approval_record", record.dump),
    ("approved", .bool decision.approved)] []
    [("request_human_approval", "completed", "remediation plan " ++ status ++ " by human")]

/-- The interruption, and what comes of the value that the graph is resumed with. -/
def awaitDecision (request : ApprovalRequest) : Node Update := do
  let value ← Ports.interrupt (approvalPayload request)
  match validateApprovalDecision lib value request with
  | .ok decision => decided env lib request decision
  | .error e =>
    approvalFailed env "request_human_approval" "INVALID_APPROVAL_DECISION" (lib.errorText e)
      "approval decision validation failed" [("approved", .null)]

/-- `request_human_approval`. -/
def requestHumanApproval (state : Json) : Node Update :=
  match loadExistingApprovalRecord lib state with
  | .error e =>
    approvalFailed env "request_human_approval" "INVALID_APPROVAL_RECORD" (lib.errorText e)
      "existing approval record is invalid" []
  | .ok (some record) =>
    recordPreserved env record "request_human_approval" "duplicate approval request ignored"
  | .ok none =>
    match expectedRequest env lib state with
    | .error e =>
      approvalFailed env "request_human_approval" "INVALID_APPROVAL_REQUEST" (lib.errorText e)
        "approval request validation failed" [("approved", .null)]
    | .ok request => awaitDecision env lib request

/-! ### The write and its verification -/

/-- `status in {"succeeded", "already_applied"}`. -/
def completedAction (status : Json) : Bool :=
  status = .str "succeeded" || status = .str "already_applied"

/-- `first or second`. -/
def truthyOr (first second : Json) : Json := if first.truthy then first else second

/-- The update of a write or a verification that has failed with a result. -/
def resultFailed (state result : Json) (phase stage key code event : String) : Node Update := do
  let count ← Act.ofExcept (countErrors state 1)
  update env [("phase", .str phase), (key, result), ("error_count", count)]
    [.obj [("stage", .str stage), ("code", truthyOr (result.get "error_code") (.str code)),
      ("message", truthyOr (result.get "error_message") (result.get "message"))]]
    [(stage, "failed", event)]

/-- `execute_remediation`. -/
def executeRemediation (state : Json) : Node Update := do
  let outcome ← Act.attempt (Ports.execute state)
  match outcome with
  | .error e =>
    if e.errorType = "InvalidExecutionAuthorization" then
      failure env state "remediation_execution_failed" "execute_remediation"
        "INVALID_EXECUTION_AUTHORIZATION" (lib.errorText e)
        "execution authorization validation failed" []
    else
      failure env state "remediation_execution_failed" "execute_remediation"
        "REMEDIATION_EXECUTION_ERROR" (lib.errorText e)
        "remediation executor raised an exception" []
  | .ok result =>
    let status := result.get "status"
    if completedAction status then
      update env [("phase", .str "remediation_executed"), ("action_result", result)] []
        [("execute_remediation", "completed",
          "approved remediation finished with status " ++ lib.textOf status)]
    else if status = .str "conflict" then
      resultFailed env state result "remediation_execution_conflict" "execute_remediation"
        "action_result" "REMEDIATION_CONFLICT"
        "approved remediation was blocked by a configuration conflict"
    else
      resultFailed env state result "remediation_execution_failed" "execute_remediation"
        "action_result" "REMEDIATION_EXECUTION_ERROR" "approved remediation failed"

/-- `verify_recovery`. -/
def verifyRecoveryNode (state : Json) : Node Update := do
  let outcome ← Act.attempt (Ports.verify state)
  match outcome with
  | .error e =>
    failure env state "verification_failed" "verify_recovery" "RECOVERY_VERIFICATION_ERROR"
      (lib.errorText e) "recovery verifier raised an exception" []
  | .ok result =>
    let status := result.get "status"
    if status = .str "succeeded" then
      update env [("phase", .str "verification_succeeded"), ("verification_result", result)] []
        [("verify_recovery", "completed", "Recovery verification succeeded")]
    else if status = .str "skipped" then
      update env [("phase", .str "verification_skipped"), ("verification_result", result)] []
        [("verify_recovery", "completed", "recovery verification was skipped")]
    else
      resultFailed env state result "verification_failed" "verify_recovery" "verification_result"
        "RECOVERY_VERIFICATION_ERROR"
        ("Recovery verification finished with status " ++ lib.textOf status)

end

end IncidentAgent
