import IncidentAgent.Store.Interactions

/-!
# Controls and answers

A control is the word of a human about the work in progress: to stop it, to add a fact, or
to investigate again. It raises the revision of the incident, so that nothing accepted
before goes on towards the cluster, and it ends the latest diagnosis – unless a write was
already dispatched, which has to be followed to its outcome. An `investigate` control is
*pending* until the diagnosis it stands on has ended, and is then started by
`activateControl`, once.
-/

namespace IncidentAgent

/-- `message_in_transaction`: the saved message of the client, or a new one. -/
def messageInTransaction (tx : Tx) (incidentId key content : String) (db : Db) :
    Except Failure (Message × Db) :=
  match db.message? incidentId .user key with
  | some row => do
    raiseIf (row.content ≠ content) .idempotencyConflict
    pure (row, db)
  | none => do
    let row := Message.initial tx db incidentId (userDraft key content)
    let db ← db.insertMessage row
    pure (row, db)

/-! ### Controls -/

/-- `ControlRequest`. -/
structure ControlRequest where
  clientMessageId : String
  content : String
  action : ControlAction
  deriving DecidableEq, Inhabited

/-- The text of an action. -/
def ControlAction.text : ControlAction → String
  | .stop => "stop"
  | .supplement => "supplement"
  | .investigate => "investigate"

/-- `body.model_dump()`. -/
def ControlRequest.dump (body : ControlRequest) : Json :=
  .obj [("client_message_id", .str body.clientMessageId), ("content", .str body.content),
    ("action", .str body.action.text)]

/-- `view(row)`: what the client is told of a control. -/
structure ControlView where
  controlId : String
  status : ControlStatus
  messageId : String
  result : Receipt
  deriving DecidableEq, Inhabited

/-- `view(row)`. -/
def Control.view (c : Control) : ControlView := ⟨c.controlId, c.status, c.messageId, c.result⟩

/-- The answer to a request that was already recorded. -/
def replayControl (row : Control) (digest : String) : Except Failure ControlView := do
  raiseIf (row.requestSha256 ≠ digest) .idempotencyConflict
  pure row.view

/-- The columns set in an active diagnosis by a control: it is asked to stop. -/
def Run.stopped (now : Nat) (r : Run) : Run :=
  { r with stopRequested := true, invalidatedAt := some now }

/-- The columns set in an active diagnosis that has dispatched no write: it is over. -/
def Run.superseded (now : Nat) (snapshot : Json) (r : Run) : Run :=
  { r with
    status := .cancelled
    finishedAt := some now
    leaseOwner := none
    leaseExpiresAt := none
    questionPayload := none
    outputSnapshot := r.outputSnapshot.or (some snapshot)
    lastError := some "INPUT_SUPERSEDED" }

/-- The columns set in an active interaction, which must not launch a child later. -/
def Run.dropped (now : Nat) (r : Run) : Run :=
  { r with
    status := .cancelled
    stopRequested := true
    invalidatedAt := some now
    finishedAt := some now
    leaseOwner := none
    leaseExpiresAt := none
    lastError := some "INPUT_SUPERSEDED" }

/-- `UPDATE operations SET state='rejected' … WHERE run_id=… AND state='prepared'`. -/
def rejectPrepared (runId : String) (db : Db) : Db :=
  { db with
    operations := Table.updateWhere (fun o => o.runId = runId ∧ o.state = .prepared)
      (fun o => { o with state := .rejected, errorCode := some "INPUT_SUPERSEDED" })
      db.operations }

/-- What a control does to the latest diagnosis, if that is active. -/
def stopDiagnosis (tx : Tx) (incidentId : String) (latest : Run) (dispatched : Bool)
    (snapshot : Json) (db : Db) : Db :=
  if latest.active then
    let db := db.updateRun latest.runId (Run.stopped tx.now)
    if dispatched then db
    else
      let db := rejectPrepared latest.runId db
      let db := db.updateRun latest.runId (Run.superseded tx.now snapshot)
      db.updateIncident incidentId fun i => { i with phase := "cancelled" }
  else db

/-- What a control does to the active interaction of the incident. -/
def dropInteractions (tx : Tx) (incidentId : String) (db : Db) : Db :=
  { db with
    runs := Table.updateWhere
      (fun r => r.incidentId = incidentId ∧ r.runKind = .interaction ∧ r.active)
      (Run.dropped tx.now) db.runs }

/-- `UPDATE controls SET status='superseded' WHERE incident_id=… AND status='pending'`. -/
def supersedePending (incidentId : String) (db : Db) : Db :=
  { db with
    controls := Table.updateWhere (fun c => c.incidentId = incidentId ∧ c.status = .pending)
      (fun c => { c with status := .superseded }) db.controls }

/-- What a control does to the incident: its revision rises, its latest diagnosis and its
interaction are stopped, and a control that was pending is superseded by the next one. -/
def arbitrate (tx : Tx) (incidentId : String) (latest : Run) (dispatched : Bool)
    (action : ControlAction) (snapshot : Json) (db : Db) : Db :=
  let db := db.updateIncident incidentId fun i => { i with eventRevision := i.eventRevision + 1 }
  let db := stopDiagnosis tx incidentId latest dispatched snapshot db
  -- A stopped or superseded interaction must not launch a child diagnosis later.
  let db := dropInteractions tx incidentId db
  if action = .stop ∨ action = .investigate then supersedePending incidentId db else db

/-- Whether a write of the operation was dispatched. -/
def writeDispatched (operation : Option Operation) : Bool :=
  operation.any fun o => o.state.dispatched

/-- The row that a control records. -/
def Control.initial (env : Env) (tx : Tx) (incidentId : String) (body : ControlRequest)
    (latest : Run) (operation : Option Operation) (message : Message) (snapshot : Json) :
    Control where
  controlId := tx.controlId
  incidentId := incidentId
  clientMessageId := body.clientMessageId
  requestSha256 := env.requestDigest body.dump
  request := body.dump
  messageId := message.messageId
  parentRunId := latest.runId
  snapshot := snapshot
  status := if body.action = .investigate then .pending else .saved
  result := .control body.action latest.runId
    (writeDispatched operation && (latest.active || operation.any fun o => o.state.uncertain)) none
  createdAt := tx.now

/-- `ControlRepository.control`. -/
def control (env : Env) (tx : Tx) (incidentId : String) (body : ControlRequest)
    (expectedParent : Option String) (snapshot : Json) (db : Db) :
    Except Failure (ControlView × Db) := do
  let _ ← rowOr (db.incident? incidentId) .roundNotFound
  match db.controlByClient? incidentId body.clientMessageId with
  | some replay =>
    let view ← replayControl replay (env.requestDigest body.dump)
    pure (view, db)
  | none =>
    raiseIf ((db.latest incidentId).map (·.runId) ≠ expectedParent) .roundConflict
    let latest ← rowOr (db.latest incidentId) .roundConflict
    let (message, db) ← messageInTransaction tx incidentId body.clientMessageId body.content db
    raiseIf (message.sequence ≤ latest.inputMessageSequence.getD 0 ∨
      ∃ r ∈ db.runs, r.sourceMessageId = some message.messageId) .idempotencyConflict
    let operation := db.operation? latest.runId
    let db := arbitrate tx incidentId latest (writeDispatched operation) body.action snapshot db
    let row := Control.initial env tx incidentId body latest operation message snapshot
    let db ← db.insertControl row
    pure (row.view, db)

/-! ### Starting a pending control -/

/-- The candidates that `activate_pending` reads before it opens a transaction for each. -/
def activationCandidates (db : Db) : List Control :=
  ((db.controls.filter fun c => c.status = .pending ∧
    (∃ r ∈ db.runs, r.runId = c.parentRunId ∧ r.status.terminal) ∧
    ¬ db.unresolvedOperation c.incidentId).mergeSort fun a b => a.createdAt ≤ b.createdAt).take 20

/-- The user message of an incident with the greatest sequence. -/
def Db.lastUserMessage (db : Db) (incidentId : String) : Option Message :=
  Table.latestBy (fun m => m.incidentId = incidentId ∧ m.role = .user) (·.sequence) db.messages

/-- `latest["output_snapshot"] or control["snapshot"]`. -/
def previousState (latest : Run) (control : Control) : Json :=
  match latest.outputSnapshot with
  | some output => if output.truthy then output else control.snapshot
  | none => control.snapshot

/-- `{**result, "diagnosis_run_id": …, "deferred_until_write_checked": False}`. -/
def Receipt.started (child : String) : Receipt → Receipt
  | .control action parent _ _ => .control action parent false (some child)
  | receipt => receipt

/-- The checks that `activate_pending` makes before it calls `accept_round`: the latest
diagnosis is the parent of the control and has ended, and the incident has neither an
unresolved operation nor an active interaction. -/
def startable (db : Db) (control : Control) (latest : Run) : Prop :=
  latest.runId = control.parentRunId ∧ latest.status.terminal ∧
    ¬ db.unresolvedOperation control.incidentId ∧ ¬ db.activeInteraction control.incidentId

instance (db : Db) (control : Control) (latest : Run) :
    Decidable (startable db control latest) := by
  unfold startable
  infer_instance

/-- The call of `accept_round` that a pending control makes when it is startable. -/
def acceptForControl (env : Env) (tx : Tx) (control : Control) (latest : Run) (db : Db) :
    Except Failure (Run × Db) := do
  let message ← rowOr (db.lastUserMessage control.incidentId) (.keyError "message_id")
  acceptRound env tx control.incidentId message.messageId ("control-" ++ control.controlId)
    (some latest.runId) (previousState latest control) db

/-- One candidate of `ControlRepository.activate_pending`. -/
def activateControl (env : Env) (tx : Tx) (controlId : String) (db : Db) : Except Failure Db := do
  let control ← rowOr (db.control? controlId) (.keyError "status")
  if control.status ≠ .pending then pure db
  else
    let latest ← rowOr (db.latest control.incidentId) (.keyError "run_id")
    if latest.runId ≠ control.parentRunId then
      pure (db.updateControl controlId fun c => { c with status := .superseded })
    else if ¬ startable db control latest then pure db
    else
      let (child, db) ← acceptForControl env tx control latest db
      pure (db.updateControl controlId fun c =>
        { c with status := .started, result := c.result.started child.runId })

/-! ### Answers -/

/-- `AnswerQuestion`. -/
structure AnswerQuestion where
  clientMessageId : String
  content : String
  questionId : String
  version : Nat
  answers : List (String × String)
  skip : Bool
  changedResourceRefs : List String
  deriving DecidableEq, Inhabited

/-- The payload whose digest identifies an answer. An empty `changed_resource_refs` is
left out, to preserve old digests. -/
def AnswerQuestion.dump (runId : String) (body : AnswerQuestion) : Json :=
  .obj ([("action", .str "answer"), ("run_id", .str runId),
      ("client_message_id", .str body.clientMessageId), ("content", .str body.content),
      ("question_id", .str body.questionId), ("version", .num body.version),
      ("answers", .obj (body.answers.map fun a => (a.1, .str a.2))), ("skip", .bool body.skip)] ++
    if body.changedResourceRefs.isEmpty then []
    else [("changed_resource_refs", .arr (body.changedResourceRefs.map .str))])

/-- The text of the message of an answer. -/
def AnswerQuestion.message (env : Env) (body : AnswerQuestion) : String :=
  body.content ++ "\n" ++ env.dumps (.obj ([("answers",
      .obj (body.answers.map fun a => (a.1, .str a.2))), ("skip", .bool body.skip)] ++
    if body.changedResourceRefs.isEmpty then []
    else [("changed_resource_refs", .arr (body.changedResourceRefs.map .str))]))

/-- The checks of `answer` on the question that the run waits with. -/
def answerAccepted (row : Run) (body : AnswerQuestion) : Except Failure Question := do
  raiseIf (row.status ≠ .waitingUser ∨ row.stopRequested) .roundConflict
  let question ← rowOr row.questionPayload .roundConflict
  raiseIf (question.questionId ≠ body.questionId ∨ question.version ≠ body.version) .roundConflict
  raiseIf (body.skip = false ∧
    ¬ ((∀ a ∈ body.answers, a.1 ∈ question.questions.map (·.slot)) ∧
      ∀ q ∈ question.questions, q.slot ∈ body.answers.map (·.1))) .roundConflict
  raiseIf (body.changedResourceRefs ≠ [] ∧
    (row.workflowVersion ≠ investigationWorkflow ∨
      ¬ ∀ ref ∈ body.changedResourceRefs, ref ∈ question.changeCandidates)) .roundConflict
  pure question

/-- The value of `answer_payload` for an answer. -/
def Answer.of (question : Question) (row : Run) (body : AnswerQuestion) (message : Message) :
    Answer where
  questionId := body.questionId
  version := body.version
  answers := body.answers
  skip := body.skip
  messageId := message.messageId
  sequence := message.sequence
  evidenceRevision := question.evidenceRevision
  acceptedAt := message.createdAt
  questions := question.questions
  questionSource := question.source
  changedResourceRefs :=
    if row.workflowVersion = investigationWorkflow then some body.changedResourceRefs else none

/-- The columns that `answer` sets in the run. -/
def Run.answered (answer : Answer) (revision : Nat) (r : Run) : Run :=
  { r with
    answerPayload := some answer
    status := .queued
    eventRevision := revision
    attemptBase := r.attempt }

/-- The receipt of an answer. -/
def Control.receipt (env : Env) (tx : Tx) (incidentId : String) (row : Run)
    (body : AnswerQuestion) (message : Message) : Control where
  controlId := tx.controlId
  incidentId := incidentId
  clientMessageId := body.clientMessageId
  requestSha256 := env.requestDigest (body.dump row.runId)
  request := body.dump row.runId
  messageId := message.messageId
  parentRunId := row.runId
  snapshot := .obj []
  status := .saved
  result := .answer row.runId row.threadId body.questionId body.version
  createdAt := tx.now

/-- `ControlRepository.answer`. -/
def answer (env : Env) (tx : Tx) (incidentId runId : String) (body : AnswerQuestion) (db : Db) :
    Except Failure (ControlView × Db) := do
  let incident ← rowOr (db.incident? incidentId) .roundNotFound
  match db.controlByClient? incidentId body.clientMessageId with
  | some replay =>
    let view ← replayControl replay (env.requestDigest (body.dump runId))
    pure (view, db)
  | none =>
    let row ← rowOr (db.runs.find? fun r => r.incidentId = incidentId ∧ r.runId = runId)
      .roundNotFound
    let question ← answerAccepted row body
    let (message, db) ← messageInTransaction tx incidentId body.clientMessageId
      (body.message env) db
    let db := db.updateIncident incidentId fun i => { i with eventRevision := i.eventRevision + 1 }
    let db := db.updateRun runId
      (Run.answered (Answer.of question row body message) (incident.eventRevision + 1))
    let receipt := Control.receipt env tx incidentId row body message
    let db ← db.insertControl receipt
    pure (receipt.view, db)

/-! ### What a committed transaction did -/

section Inversion

variable {env : Env} {tx : Tx} {db db' : Db}

/-- The message of a control is a message of the user of the incident, saved before or
appended. -/
theorem messageInTransaction_eq_ok {incidentId key content : String} {m : Message}
    (h : messageInTransaction tx incidentId key content db = .ok (m, db')) :
    Appends tx incidentId db db' ∧ m ∈ db'.messages ∧ m.incidentId = incidentId ∧
      m.role = .user := by
  unfold messageInTransaction at h
  split at h
  · rename_i row hrow
    simp only [bind_eq_ok, raiseIf_eq_ok, pure_eq_ok] at h
    obtain ⟨-, -, h⟩ := h
    obtain ⟨rfl, rfl⟩ := Prod.mk.inj h
    have hp := List.find?_some hrow
    simp only [decide_eq_true_eq] at hp
    exact ⟨Or.inl rfl, List.mem_of_find?_eq_some hrow, hp.1, hp.2.1⟩
  · simp only [bind_eq_ok, pure_eq_ok] at h
    obtain ⟨db₁, hinsert, h⟩ := h
    obtain ⟨rfl, rfl⟩ := Prod.mk.inj h
    obtain ⟨hc, rfl⟩ := Db.insertMessage_eq_ok hinsert
    exact ⟨Or.inr ⟨_, hc, rfl⟩, by simp, rfl, rfl⟩

theorem replayControl_eq_ok {row : Control} {digest : String} {view : ControlView}
    (h : replayControl row digest = .ok view) : row.requestSha256 = digest ∧ view = row.view := by
  simp only [replayControl, bind_eq_ok, raiseIf_eq_ok, pure_eq_ok, not_not] at h
  obtain ⟨-, hsha, rfl⟩ := h
  exact ⟨hsha, rfl⟩

/-- **What `control` does**: it returns the recorded receipt, or arbitrates between the
human and the latest diagnosis and records a new control on that. -/
theorem control_eq_ok {incidentId : String} {body : ControlRequest}
    {expectedParent : Option String} {snapshot : Json} {view : ControlView}
    (h : control env tx incidentId body expectedParent snapshot db = .ok (view, db')) :
    (∃ row, db.controlByClient? incidentId body.clientMessageId = some row ∧
      row.requestSha256 = env.requestDigest body.dump ∧ view = row.view ∧ db' = db) ∨
    (∃ latest message db₁ row,
      db.controlByClient? incidentId body.clientMessageId = none ∧
      db.latest incidentId = some latest ∧
      messageInTransaction tx incidentId body.clientMessageId body.content db =
        .ok (message, db₁) ∧
      latest.inputMessageSequence.getD 0 < message.sequence ∧
      row = Control.initial env tx incidentId body latest (db₁.operation? latest.runId) message
        snapshot ∧
      view = row.view ∧
      (arbitrate tx incidentId latest (writeDispatched (db₁.operation? latest.runId)) body.action
        snapshot db₁).insertControl row = .ok db') := by
  simp only [control, bind_eq_ok, rowOr_eq_ok] at h
  obtain ⟨incident, -, h⟩ := h
  split at h
  · rename_i replay hreplay
    simp only [bind_eq_ok, pure_eq_ok] at h
    obtain ⟨v, hv, h⟩ := h
    obtain ⟨rfl, rfl⟩ := Prod.mk.inj h
    obtain ⟨hsha, rfl⟩ := replayControl_eq_ok hv
    exact Or.inl ⟨replay, hreplay, hsha, rfl, rfl⟩
  · rename_i hnone
    simp only [bind_eq_ok, raiseIf_eq_ok, rowOr_eq_ok, pure_eq_ok, not_or, not_le] at h
    obtain ⟨-, -, latest, hlatest, ⟨message, db₁⟩, hmessage, -, ⟨hseq, -⟩, db₂, hinsert, h⟩ := h
    obtain ⟨rfl, rfl⟩ := Prod.mk.inj h
    exact Or.inr ⟨latest, message, db₁, _, hnone, hlatest, hmessage, hseq, rfl, rfl, hinsert⟩

theorem acceptForControl_eq_ok {c : Control} {latest child : Run}
    (h : acceptForControl env tx c latest db = .ok (child, db')) :
    ∃ message, db.lastUserMessage c.incidentId = some message ∧
      acceptRound env tx c.incidentId message.messageId ("control-" ++ c.controlId)
        (some latest.runId) (previousState latest c) db = .ok (child, db') := by
  simpa only [acceptForControl, bind_eq_ok, rowOr_eq_ok] using h

/-- **What `activate_pending` does to a control**: nothing, or it supersedes a pending control
that another round has overtaken, or it starts a pending control by a round of its own. -/
theorem activateControl_eq_ok {controlId : String}
    (h : activateControl env tx controlId db = .ok db') :
    ∃ c, db.control? controlId = some c ∧
      (db' = db ∨
      (c.status = .pending ∧
        db' = db.updateControl controlId fun c => { c with status := .superseded }) ∨
      (∃ latest child db₁, c.status = .pending ∧ db.latest c.incidentId = some latest ∧
        startable db c latest ∧ acceptForControl env tx c latest db = .ok (child, db₁) ∧
        db' = db₁.updateControl controlId fun c =>
          { c with status := .started, result := c.result.started child.runId })) := by
  simp only [activateControl, bind_eq_ok, rowOr_eq_ok] at h
  obtain ⟨c, hc, h⟩ := h
  refine ⟨c, hc, ?_⟩
  split at h
  · exact Or.inl (pure_eq_ok.1 h).symm
  · rename_i hpending
    have hpending : c.status = .pending := by simpa using hpending
    simp only [bind_eq_ok, rowOr_eq_ok] at h
    obtain ⟨latest, hlatest, h⟩ := h
    split at h
    · exact Or.inr (Or.inl ⟨hpending, (pure_eq_ok.1 h).symm⟩)
    · split at h
      · exact Or.inl (pure_eq_ok.1 h).symm
      · rename_i hstart
        simp only [bind_eq_ok, pure_eq_ok] at h
        obtain ⟨⟨child, db₁⟩, hchild, rfl⟩ := h
        exact Or.inr (Or.inr ⟨latest, child, db₁, hpending, hlatest, by simpa using hstart, hchild, rfl⟩)

theorem answerAccepted_eq_ok {row : Run} {body : AnswerQuestion} {question : Question}
    (h : answerAccepted row body = .ok question) :
    row.status = .waitingUser ∧ row.stopRequested = false ∧
      row.questionPayload = some question := by
  simp only [answerAccepted, bind_eq_ok, raiseIf_eq_ok, rowOr_eq_ok, pure_eq_ok, not_or,
    not_not] at h
  obtain ⟨-, ⟨hstatus, hstop⟩, _, hq, -, -, -, -, -, -, rfl⟩ := h
  exact ⟨hstatus, by simpa using hstop, hq⟩

/-- **What `answer` does**: it returns the recorded receipt, or queues the run that waits
with the question, at the new revision of the incident. -/
theorem answer_eq_ok {incidentId runId : String} {body : AnswerQuestion} {view : ControlView}
    (h : answer env tx incidentId runId body db = .ok (view, db')) :
    (∃ row, db.controlByClient? incidentId body.clientMessageId = some row ∧ view = row.view ∧
      db' = db) ∨
    (∃ incident row question message db₁,
      db.controlByClient? incidentId body.clientMessageId = none ∧
      db.incident? incidentId = some incident ∧
      row ∈ db.runs ∧ row.incidentId = incidentId ∧ row.runId = runId ∧
      row.status = .waitingUser ∧ row.stopRequested = false ∧
      row.questionPayload = some question ∧
      messageInTransaction tx incidentId body.clientMessageId (body.message env) db =
        .ok (message, db₁) ∧
      ((db₁.updateIncident incidentId fun i =>
        { i with eventRevision := i.eventRevision + 1 }).updateRun runId
          (Run.answered (Answer.of question row body message)
            (incident.eventRevision + 1))).insertControl
        (Control.receipt env tx incidentId row body message) = .ok db') := by
  simp only [answer, bind_eq_ok, rowOr_eq_ok] at h
  obtain ⟨incident, hincident, h⟩ := h
  split at h
  · rename_i replay hreplay
    simp only [bind_eq_ok, pure_eq_ok] at h
    obtain ⟨v, hv, h⟩ := h
    obtain ⟨rfl, rfl⟩ := Prod.mk.inj h
    exact Or.inl ⟨replay, hreplay, (replayControl_eq_ok hv).2, rfl⟩
  · rename_i hnone
    simp only [bind_eq_ok, rowOr_eq_ok, pure_eq_ok] at h
    obtain ⟨row, hrow, question, hq, ⟨message, db₁⟩, hmessage, db₂, hinsert, h⟩ := h
    obtain ⟨-, rfl⟩ := Prod.mk.inj h
    have hp := List.find?_some hrow
    simp only [decide_eq_true_eq] at hp
    obtain ⟨hstatus, hstop, hquestion⟩ := answerAccepted_eq_ok hq
    exact Or.inr ⟨incident, row, question, message, db₁, hnone, hincident,
      List.mem_of_find?_eq_some hrow, hp.1, hp.2, hstatus, hstop, hquestion, hmessage, hinsert⟩

end Inversion

end IncidentAgent
