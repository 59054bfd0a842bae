import IncidentAgent.Executor.Authorization

/-!
# What a worker does with a saved run

A worker that has claimed a run reads the checkpoint of its graph and decides, before it runs
anything, whether to start the graph, to continue it, to resume it with the decision of a human
or with the answer of a user, or to leave it alone (`classify`). The decision rests on the row
that was claimed, on the snapshot of the checkpoint and on the journaled operation of the run.

The decision is one list of questions, each of which may settle it. `Halt` is how a question
settles it, or how reading a malformed document fails, and what is left of a snapshot that no
question settled is what the last one may rely on. `SafeRecovery` collects what holds of each
decision.
-/

namespace IncidentAgent

/-! ### What is read -/

/-- A claimed row of `runs`, by the columns that the classification reads. The saved decision
of a human, the answer of a user and the last error are documents, `null` when they are absent. -/
structure RecoveryLease where
  runId : String
  incidentId : String
  workflowVersion : String
  inputPayload : Json
  inputSha256 : String
  contextSnapshot : Json
  contextSha256 : Option String
  checkpointStarted : Bool
  approvalPayload : Json
  answerPayload : Json
  lastError : Json
  deriving Inhabited

/-- A task of a snapshot: its node, and whether it carries interrupts or an error. -/
structure SavedTask where
  name : String
  interrupts : Bool
  error : Bool
  deriving DecidableEq, Inhabited

/-- The snapshot of a checkpoint: the values of the state as JSON, the nodes to execute next,
the tasks of the step and the identifier of the checkpoint. -/
structure Snapshot where
  values : Json
  next : List String
  tasks : List SavedTask
  checkpointId : Option String
  deriving Inhabited

/-- The journaled operation of a run, by the columns that the classification reads. -/
structure SavedOperation where
  state : OperationState
  result : Json
  deriving Inhabited

/-! ### What is decided -/

/-- `RecoveryDecision.action`. -/
inductive RecoveryAction
  | start
  | continued
  | resume
  | resumeUser
  | stop
  deriving DecidableEq, Inhabited

/-- `RecoveryDecision`. -/
structure RecoveryDecision where
  action : RecoveryAction
  status : Option RunStatus
  errorCode : Option String
  deriving DecidableEq, Inhabited

/-- `stop(status, code)`. -/
def stop (status : RunStatus) (code : Option String) : RecoveryDecision :=
  ⟨.stop, some status, code⟩

/-- `RecoveryDecision(action)`. -/
def goOn (action : RecoveryAction) : RecoveryDecision := ⟨action, none, none⟩

/-- How a question ends the classification: the run has failed, its write is to be reconciled,
or the question raises. -/
inductive Halt
  | failed (code : String)
  | reconciling (code : String)
  | raised (errorType : String)
  deriving DecidableEq

/-- `READ_ONLY_NODES`. -/
def readOnlyNodes : List String :=
  ["validate_request", "plan_collection", "collect_evidence", "retrieve_runbooks",
    "diagnose_incident", "plan_remediation", "skip_remediation", "prepare_approval",
    "request_human_approval", "finish_failure", "prepare_clarification", "await_user_input"]

/-- The nodes that an approved run may have pending besides. -/
def writeNodes : List String := ["execute_remediation", "verify_recovery"]

/-! ### Reading documents -/

/-- `value.get(key)`, which only a dictionary has. -/
def member (value : Json) (key : String) : Except Halt Json := do
  raiseIf (value.isObject = false) (.raised "AttributeError")
  pure (value.get key)

/-- `value[key]` of a dictionary. -/
def entry (value : Json) (key : String) : Except Halt Json :=
  rowOr (value.get? key) (.raised "KeyError")

/-- `value or {}`. -/
def orEmpty (value : Json) : Json := if value.truthy then value else .obj []

/-- What iterating over a value yields. -/
def elements : Json → Except Halt (List Json)
  | .arr items => .ok items
  | .obj members => .ok (members.map fun m => .str m.1)
  | .str text => .ok (text.toList.map fun c => .str (String.singleton c))
  | _ => .error (.raised "TypeError")

/-- `value in container`: an item of a list, a key of a dictionary, a part of a text. -/
def contained (value container : Json) : Except Halt Bool :=
  match container, value with
  | .arr items, value => .ok (items.any fun item => item.pyEq value)
  | .obj _, .arr _ | .obj _, .obj _ => .error (.raised "TypeError")
  | .obj members, value => .ok (members.any fun m => Json.str m.1 == value)
  | .str text, .str part => .ok (decide (part.toList <:+: text.toList))
  | _, _ => .error (.raised "TypeError")

/-- `any(a.get("message_id") == message_id for a in answers)`. -/
def repeated (messageId : Json) : List Json → Except Halt Bool
  | [] => .ok false
  | a :: rest => do
    let id ← member a "message_id"
    if id.pyEq messageId then .ok true else repeated messageId rest

/-! ### The questions -/

section Questions

variable (env : Env) (lease : RecoveryLease) (snapshot : Snapshot)
  (operation : Option SavedOperation)

/-- `json_value(snapshot.values or {})`. -/
def Snapshot.state : Json := orEmpty snapshot.values

/-- `not state and not pending and not checkpoint_id and not tasks`. -/
def Snapshot.blank : Bool :=
  !snapshot.state.truthy && snapshot.next.isEmpty && !present snapshot.checkpointId &&
    snapshot.tasks.isEmpty

/-- The run is of a workflow that is supported, and its input is the one that was accepted. -/
def checkInput : Except Halt PUnit := do
  raiseIf ((lease.workflowVersion ≠ "incident-v1" ∧ lease.workflowVersion ∉ roundWorkflows) ∨
      env.requestDigest lease.inputPayload ≠ lease.inputSha256)
    (.failed "UNSUPPORTED_OR_CORRUPT_INPUT")
  raiseIf (lease.workflowVersion ∈ roundWorkflows ∧ (lease.contextSnapshot.isObject = false ∨
      some (env.requestDigest lease.contextSnapshot) ≠ lease.contextSha256))
    (.failed "UNSUPPORTED_OR_CORRUPT_INPUT")

/-- The checkpoint is one of this run. -/
def checkIdentity : Except Halt PUnit := do
  raiseIf (snapshot.state.isObject = false) (.raised "AttributeError")
  raiseIf (snapshot.state.get "incident_id" ≠ .str lease.incidentId)
    (.failed "CHECKPOINT_IDENTITY_MISMATCH")
  raiseIf ((snapshot.state.get "request").pyEq lease.inputPayload = false)
    (.failed "CHECKPOINT_INPUT_MISMATCH")
  raiseIf (lease.workflowVersion ∈ roundWorkflows ∧
      ((snapshot.state.get "round_context").pyEq lease.contextSnapshot = false ∨
        snapshot.state.get "run_id" ≠ .str lease.runId))
    (.failed "CHECKPOINT_INPUT_MISMATCH")
  raiseIf (lease.workflowVersion = investigationWorkflow ∧
      snapshot.state.get "workflow_version" ≠ .str investigationWorkflow ∧
      (snapshot.next ≠ ["initialize"] ∨ snapshot.state.get "workflow_version" ≠ .null))
    (.failed "CHECKPOINT_WORKFLOW_MISMATCH")

/-- The saved decision, if there is one, is about the state of the snapshot. -/
def checkApproval : Except Halt PUnit :=
  if lease.approvalPayload.truthy then do
    let binding ← member lease.approvalPayload "binding"
    raiseIf (binding ≠ .str (approvalBinding env snapshot.state))
      (.failed "APPROVAL_BINDING_MISMATCH")
    let decided ← member ((lease.approvalPayload.get? "decision").getD (.obj [])) "approval_id"
    let requested ← member (orEmpty (snapshot.state.get "approval_request")) "approval_id"
    raiseIf (decided.pyEq requested = false) (.failed "APPROVAL_BINDING_MISMATCH")
  else pure ⟨⟩

/-- The outcome of the write is known. -/
def checkOperation : Except Halt PUnit :=
  raiseIf (∃ o ∈ operation, o.state.uncertain = true)
    (.reconciling "OPERATION_MANUAL_REQUIRED")

/-- The saved decision approves the write. -/
def RecoveryLease.approved : Bool :=
  lease.approvalPayload.truthy &&
    ((lease.approvalPayload.get "decision").get "approved").truthy

/-- `saved and saved["decision"].get("approved")`. -/
def approves : Except Halt Bool :=
  if lease.approvalPayload.truthy then do
    let decision ← entry lease.approvalPayload "decision"
    let approved ← member decision "approved"
    pure approved.truthy
  else pure false

/-- The snapshot shows an approval, the result of an action, or a write that is pending. -/
def Snapshot.showsWrite : Bool :=
  snapshot.state.get "action_result" != .null || snapshot.state.get "approved" == .bool true ||
    snapshot.state.hasText "approval_status" "approved" ||
    snapshot.next.any fun name => name ∈ writeNodes

/-- The snapshot is past the write. -/
def Snapshot.showsResult : Bool :=
  snapshot.state.get "action_result" != .null || snapshot.next.contains "verify_recovery"

/-- `operation["state"] in {"succeeded", "reconciled", "rejected"}`, and the result of the
action is the journaled one. -/
def journaled : Bool :=
  operation.any fun o => (o.state ∈ [OperationState.succeeded, .reconciled, .rejected]) &&
    (snapshot.state.get "action_result").pyEq o.result

/-- A write that the snapshot shows was approved, and its result is the journaled one. -/
def checkWrites : Except Halt PUnit :=
  if snapshot.showsWrite then do
    let approved ← approves lease
    raiseIf (approved = false) (.reconciling "WRITE_REQUIRES_RECONCILIATION")
    raiseIf (snapshot.showsResult = true ∧ journaled snapshot operation = false)
      (.reconciling "OPERATION_RESULT_MISMATCH")
  else pure ⟨⟩

/-- `str(state.get("phase") or "unknown")`. -/
def Snapshot.phase : String :=
  if (snapshot.state.get "phase").truthy then shown (snapshot.state.get "phase") else "unknown"

/-- `any(task.interrupts for task in tasks)`. -/
def Snapshot.interrupted : Bool := snapshot.tasks.any (·.interrupts)

/-- The node that waits for the answer of a user. -/
def humanNode : String :=
  if lease.workflowVersion = investigationWorkflow then "await_investigation_input"
  else "await_user_input"

/-- `answer.get("message_id")`, which is read when there is an answer to compare it with. -/
def ownMessageId (answers : List Json) : Except Halt Json :=
  if answers.isEmpty then .ok .null else member lease.answerPayload "message_id"

/-- The answer of the user, unless the checkpoint already contains it. -/
def freshAnswer : Except Halt Bool :=
  if lease.answerPayload.truthy then do
    let known ← contained lease.answerPayload
      ((snapshot.state.get? "clarification_answers").getD (.arr []))
    if known then pure false
    else if lease.workflowVersion = investigationWorkflow then do
      let answers ← elements ((snapshot.state.get? "answers").getD (.arr []))
      let messageId ← ownMessageId lease answers
      let again ← repeated messageId answers
      pure !again
    else pure true
  else pure false

/-- What is done with a fresh answer to the question that is pending. -/
def classifyAnswer : Except Halt RecoveryDecision := do
  let question := orEmpty (snapshot.state.get "question")
  let answered ← member lease.answerPayload "question_id"
  let asked ← member question "question_id"
  raiseIf (answered.pyEq asked = false) (.failed "QUESTION_VERSION_MISMATCH")
  raiseIf ((lease.answerPayload.get "version").pyEq (question.get "version") = false)
    (.failed "QUESTION_VERSION_MISMATCH")
  pure (goOn .resumeUser)

/-- The graph waits for a user: it is resumed with an answer that is fresh. -/
def classifyQuestion : Except Halt RecoveryDecision := do
  let fresh ← freshAnswer lease snapshot
  if fresh then classifyAnswer lease snapshot else pure (stop .waitingUser none)

/-- Whether the snapshot waits for the answer of a user. -/
def waitsForUser : Bool :=
  (lease.workflowVersion ∈ [dialogueWorkflow, investigationWorkflow]) &&
    snapshot.phase == "waiting_user" && snapshot.next == [humanNode lease]

/-- Whether the snapshot waits for the decision of a human. -/
def Snapshot.waitsForApproval : Bool :=
  snapshot.phase == "awaiting_approval" && snapshot.state.hasText "approval_status" "pending"

/-- A graph that was interrupted waits for a human. -/
def classifyInterrupt : Except Halt RecoveryDecision :=
  if waitsForUser lease snapshot then classifyQuestion lease snapshot
  else if snapshot.waitsForApproval then
    if lease.approvalPayload.truthy && snapshot.next == ["request_human_approval"] then
      pure (goOn .resume)
    else pure (stop .waitingApproval none)
  else pure (stop .waitingUser (some "NEEDS_INPUT"))

/-- Whether a phase is one that ends in failure. -/
def failedPhase (phase : String) : Bool :=
  phase == "failed" || "_failed".toList.isSuffixOf phase.toList

/-- A graph with nothing pending has ended. -/
def classifyEnded (approved : Bool) : RecoveryDecision :=
  if lease.approvalPayload.truthy && !approved && snapshot.phase == "approval_rejected" then
    stop .succeeded none
  else if (operation.any fun o => o.state ∈ [OperationState.succeeded, .reconciled]) &&
      snapshot.phase == "verification_succeeded" then stop .succeeded none
  else if snapshot.phase == "remediation_skipped" ||
      (snapshot.phase == "remediation_planned" && !snapshot.state.flag "requires_approval") then
    stop .succeeded none
  else stop .failed (some "WORKFLOW_FAILED")

/-- The nodes that a graph may have pending. -/
def allowedNodes (approved : Bool) : List String :=
  (if lease.workflowVersion = investigationWorkflow then
      ["initialize", "decide", "collect", "await_investigation_input", "project_investigation",
        "prepare_approval", "request_human_approval"]
    else readOnlyNodes) ++ if approved then writeNodes else []

/-- A graph with nodes pending is continued when all of them are allowed. -/
def classifyPending (approved : Bool) : Except Halt RecoveryDecision := do
  raiseIf (present snapshot.checkpointId = false ∨
      ¬ ∀ name ∈ snapshot.next, name ∈ allowedNodes lease approved)
    (.failed "UNSUPPORTED_PENDING_TASK")
  raiseIf (¬ ∀ task ∈ snapshot.tasks, task.name ∈ allowedNodes lease approved)
    (.failed "UNSUPPORTED_PENDING_TASK")
  if snapshot.tasks.any (·.error) then do
    let code ← member (orEmpty lease.lastError) "code"
    raiseIf (code ≠ .str "DEPENDENCY_TEMPORARY") (.failed "PENDING_TASK_FAILED")
    pure (goOn .continued)
  else pure (goOn .continued)

/-- The questions after those about writes. -/
def classifyProgress : Except Halt RecoveryDecision :=
  if snapshot.interrupted then classifyInterrupt lease snapshot
  else do
    raiseIf (failedPhase snapshot.phase = true) (.failed "WORKFLOW_FAILED")
    let approved ← approves lease
    if snapshot.next.isEmpty then pure (classifyEnded lease snapshot operation approved)
    else classifyPending lease snapshot approved

/-- The questions about a checkpoint that exists. -/
def classifySaved : Except Halt RecoveryDecision := do
  checkIdentity lease snapshot
  checkApproval env lease snapshot
  checkOperation operation
  checkWrites lease snapshot operation
  classifyProgress lease snapshot operation

/-- All questions. -/
def questions : Except Halt RecoveryDecision := do
  checkInput env lease
  if snapshot.blank then do
    raiseIf (lease.checkpointStarted = true) (.failed "CHECKPOINT_MISSING")
    pure (goOn .start)
  else classifySaved env lease snapshot operation

/-- `classify`. -/
def classify : Except String RecoveryDecision :=
  match questions env lease snapshot operation with
  | .ok decision => .ok decision
  | .error (.failed code) => .ok (stop .failed (some code))
  | .error (.reconciling code) => .ok (stop .reconciling (some code))
  | .error (.raised errorType) => .error errorType

end Questions

/-! ### What each decision rests on -/

section Inversion

variable {env : Env} {lease : RecoveryLease} {snapshot : Snapshot}
  {operation : Option SavedOperation} {decision : RecoveryDecision}

end Inversion

/-! ### A run that waits for an approval -/

end IncidentAgent
