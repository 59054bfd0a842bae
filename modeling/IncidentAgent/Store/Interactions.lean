import IncidentAgent.Store.Rounds

/-!
# Messages and interactions

An interaction is a run of the second lane of an incident: it answers a message of the
user without touching the cluster. It is accepted on the latest diagnosis, and its
publication, `complete`, ends it, may append the reply of the assistant, and may open a
round – in one transaction.
-/

namespace IncidentAgent

/-! ### Messages -/

/-- `MessageDraft`. -/
structure MessageDraft where
  clientMessageId : String
  content : String
  role : Role
  relatedRunId : Option String
  evidenceRefs : List String
  deriving DecidableEq, Inhabited

/-- The row that a transaction inserts for a draft. -/
def Message.initial (tx : Tx) (db : Db) (incidentId : String) (draft : MessageDraft) :
    Message where
  messageId := tx.messageId
  incidentId := incidentId
  sequence := db.nextSequence incidentId
  clientMessageId := draft.clientMessageId
  role := draft.role
  content := draft.content
  relatedRunId := draft.relatedRunId
  evidenceRefs := draft.evidenceRefs
  createdAt := tx.now

/-- The draft of a message of the user. -/
def userDraft (clientMessageId content : String) : MessageDraft :=
  ⟨clientMessageId, content, .user, none, []⟩

/-- The phases in which `append` takes no message of the user. -/
def busyPhases : List String :=
  ["awaiting_approval", "approved", "approval_approved", "executing_remediation"]

/-- `PostgresMessageRepository.append`. -/
def appendMessage (tx : Tx) (incidentId : String) (draft : MessageDraft) (db : Db) :
    Except Failure (Message × Db) := do
  let incident ← rowOr (db.incident? incidentId) (.messageError "INCIDENT_NOT_FOUND")
  match db.message? incidentId draft.role draft.clientMessageId with
  | some existing =>
    raiseIf (existing.content ≠ draft.content ∨ existing.relatedRunId ≠ draft.relatedRunId ∨
      existing.evidenceRefs ≠ draft.evidenceRefs) (.messageError "MESSAGE_ID_CONFLICT")
    pure (existing, db)
  | none =>
    raiseIf (draft.role = .user ∧
      ((∃ r ∈ db.runs, r.incidentId = incidentId ∧ r.active) ∨
        db.unresolvedOperation incidentId ∨ incident.phase ∈ busyPhases))
      (.messageError "MESSAGE_WORKFLOW_BUSY")
    raiseIf (∃ run ∈ draft.relatedRunId, ¬ ∃ r ∈ db.runs, r.runId = run ∧ r.incidentId = incidentId)
      (.messageError "MESSAGE_RUN_MISMATCH")
    let row := Message.initial tx db incidentId draft
    let db ← db.insertMessage row
    pure (row, db)

/-! ### Accepting an interaction -/

/-- `CreateInteraction.intent`. -/
inductive Intent
  | auto
  | status
  | explain
  | compare
  | supplement
  | investigate
  | recheck
  | observe
  | stop
  deriving DecidableEq, Inhabited

/-- The text of an intent. -/
def Intent.text : Intent → String
  | .auto => "auto"
  | .status => "status"
  | .explain => "explain"
  | .compare => "compare"
  | .supplement => "supplement"
  | .investigate => "investigate"
  | .recheck => "recheck"
  | .observe => "observe"
  | .stop => "stop"

/-- `CreateInteraction`. -/
structure CreateInteraction where
  clientMessageId : String
  content : String
  intent : Intent
  referenceRunId : Option String
  compareRunId : Option String
  deriving DecidableEq, Inhabited

/-- `body.model_dump()`. -/
def CreateInteraction.dump (body : CreateInteraction) : Json :=
  .obj [("client_message_id", .str body.clientMessageId), ("content", .str body.content),
    ("intent", .str body.intent.text),
    ("reference_run_id", body.referenceRunId.elim .null .str),
    ("compare_run_id", body.compareRunId.elim .null .str)]

/-- `intent in {"explain", "compare"}`: the interactions that only read history. -/
def Intent.historical : Intent → Bool
  | .explain | .compare => true
  | _ => false

/-- `TERMINAL_PHASES`. -/
def terminalPhases : List String :=
  ["diagnosis_failed", "remediation_failed", "remediation_skipped", "approval_rejected",
    "approval_failed", "remediation_execution_failed", "remediation_execution_conflict",
    "verification_failed", "verification_succeeded", "verification_skipped", "failed"]

/-- `"interaction:" + incident_id`. -/
def interactionScope (incidentId : String) : String := "interaction:" ++ incidentId

/-- `INTERACTION_WORKFLOW`. -/
def interactionWorkflow : String := "interaction-v1"

/-- `references[0]["state"]`. -/
def firstReferenceState (references : List Json) : Option Json :=
  references.head?.bind fun reference => reference.get? "state"

/-- The checks of `accept_interaction` on the lane of diagnoses and on the saved state. -/
def interactionAvailable (incident : Incident) (latest : Option Run) (intent : Intent)
    (references : List Json) (db : Db) : Except Failure PUnit := do
  raiseIf (∃ r ∈ latest, r.active ∧
    ¬ (intent.historical ∧ (r.status = .waitingApproval ∨ r.status = .waitingUser)))
    .roundConflict
  raiseIf (db.activeInteraction incident.incidentId) .roundConflict
  if intent.historical then
    raiseIf (latest.isNone ∧
      incident.phase ∉ terminalPhases ++ ["awaiting_approval", "remediation_planned"])
      .roundConflict
  else
    let state ← rowOr (firstReferenceState references) (.keyError "state")
    let manual := state.hasText "phase" "remediation_planned" && !state.flag "requires_approval"
    raiseIf ((phaseText state ∉ terminalPhases ∧ manual = false) ∨
      state.hasText "approval_status" "pending") .roundConflict
    raiseIf (latest.isNone ∧ state.flag "approved" ∧
      state.hasText "phase" "verification_succeeded" = false) .roundConflict
    raiseIf (db.unresolvedOperation incident.incidentId) .roundConflict

/-- The row that `accept_interaction` inserts. -/
def Run.interaction (env : Env) (tx : Tx) (incidentId : String) (parentId : Option String)
    (body : CreateInteraction) (context : Json) : Run :=
  let digest := env.requestDigest body.dump
  { Run.default tx tx.runId incidentId tx.threadId body.dump digest digest with
    runKind := .interaction
    parentRunId := parentId
    workflowVersion := interactionWorkflow
    idempotency := some (interactionScope incidentId, body.clientMessageId)
    contextSnapshot := some context
    contextSha256 := some (env.requestDigest context) }

/-- The message of an interaction: the saved one of the client, or a new one. -/
def interactionMessage (tx : Tx) (incidentId : String) (body : CreateInteraction) (db : Db) :
    Except Failure (Message × Db) :=
  match db.message? incidentId .user body.clientMessageId with
  | some message => do
    raiseIf (message.content ≠ body.content ∨ message.relatedRunId.isSome) .idempotencyConflict
    pure (message, db)
  | none => do
    let message := Message.initial tx db incidentId (userDraft body.clientMessageId body.content)
    let db ← db.insertMessage message
    pure (message, db)

/-- `InteractionRepository.accept_interaction`. -/
def acceptInteraction (env : Env) (tx : Tx) (incidentId : String) (body : CreateInteraction)
    (parentId : Option String) (references : List Json) (db : Db) :
    Except Failure (Run × Db) := do
  let digest := env.requestDigest body.dump
  let incident ← rowOr (db.incident? incidentId) .roundNotFound
  match db.runByKey? (interactionScope incidentId) body.clientMessageId with
  | some replay =>
    let row ← replayRun replay digest
    pure (row, db)
  | none =>
    let latest := db.latest incidentId
    raiseIf (latest.map (·.runId) ≠ parentId) .roundConflict
    interactionAvailable incident latest body.intent references db
    let (message, db) ← interactionMessage tx incidentId body db
    let context := Json.obj [("message_id", .str message.messageId),
      ("references", .arr references)]
    let row := Run.interaction env tx incidentId parentId body context
    let db ← db.insertRun row
    pure (row, db)

/-! ### Publication -/

/-- `InteractionRepository.save_progress`. -/
def saveProgress (tx : Tx) (lease : Lease) (progress : Json) (db : Db) : Except Failure Db := do
  let _ ← fence tx lease db
  pure (db.updateRun lease.row.runId fun r => { r with interactionProgress := progress })

/-- `InteractionRepository.save_recheck`. -/
def saveRecheck (tx : Tx) (lease : Lease) (recheckId : String) (result : Json) (db : Db) :
    Except Failure Db := do
  let _ ← fence tx lease db
  if db.rechecks.any (fun c => c.runId = some lease.row.runId) then pure db
  else
    raiseIf (∃ c ∈ db.rechecks, c.recheckId = recheckId) .runError
    pure { db with
      rechecks := db.rechecks ++ [⟨recheckId, lease.row.incidentId, some lease.row.runId, result⟩] }

/-- `lease["context_snapshot"]["message_id"]`. -/
def Lease.contextMessageId (lease : Lease) : Option String :=
  match lease.row.contextSnapshot.bind (·.get? "message_id") with
  | some (.str id) => some id
  | _ => none

/-- `lease["context_snapshot"]["references"][0]["state"]`. -/
def Lease.contextState (lease : Lease) : Option Json :=
  match lease.row.contextSnapshot.bind (·.get? "references") with
  | some (.arr references) => firstReferenceState references
  | _ => none

/-- `[c["citation_id"] for c in output.get("citations", [])]`. -/
def citationIds (output : Json) : List String :=
  match output.get? "citations" with
  | some (.arr citations) => citations.filterMap fun c =>
      match c.get? "citation_id" with
      | some (.str id) => some id
      | _ => none
  | _ => []

/-- `{**value, key: item}`. -/
def Json.withMember (value : Json) (key : String) (item : Json) : Json :=
  match value with
  | .obj members => .obj (members.filter (fun m => m.1 != key) ++ [(key, item)])
  | other => other

/-- The reply that the publication of an interaction appends. -/
def replyDraft (runId content : String) (citations : List String) : MessageDraft :=
  ⟨"reply:" ++ runId, content, .assistant, some runId, citations⟩

/-- The columns that `complete` sets when it releases the lane. -/
def Run.released (now : Nat) (r : Run) : Run :=
  { r with
    status := .succeeded
    finishedAt := some now
    leaseOwner := none
    leaseExpiresAt := none
    lastError := none }

/-- The round that the publication of an interaction opens when it is to investigate,
named in its output. -/
def openRound (env : Env) (tx : Tx) (lease : Lease) (investigate : Bool) (output : Json)
    (db : Db) : Except Failure (Json × Db) :=
  if investigate = false then pure (output, db)
  else do
    let messageId ← rowOr lease.contextMessageId (.keyError "message_id")
    let previous ← rowOr lease.contextState (.keyError "references")
    let (child, db) ← acceptRound env tx lease.row.incidentId messageId
      ("interaction-" ++ lease.row.runId) lease.row.parentRunId previous db
    pure (output.withMember "diagnosis_run_id" (.str child.runId), db)

/-- The reply that the publication of an interaction appends, if there is one. -/
def appendReply (tx : Tx) (lease : Lease) (output : Json) (assistant : Option String) (db : Db) :
    Except Failure Db :=
  match assistant.filter (· ≠ "") with
  | none => pure db
  | some content => do
    let (_, db) ← appendMessage tx lease.row.incidentId
      (replyDraft lease.row.runId content (citationIds output)) db
    pure db

/-- `InteractionRepository.complete`: the lane is released inside the transaction, and the
child, the reply and the output commit with it. -/
def complete (env : Env) (tx : Tx) (lease : Lease) (output : Json) (assistant : Option String)
    (investigate : Bool) (db : Db) : Except Failure Db := do
  let _ ← fence tx lease db
  let db := db.updateRun lease.row.runId (Run.released tx.now)
  let (output, db) ← openRound env tx lease investigate output db
  let db ← appendReply tx lease output assistant db
  pure (db.updateRun lease.row.runId fun r => { r with outputSnapshot := some output })

/-! ### What a committed transaction did -/

section Inversion

variable {env : Env} {tx : Tx} {lease : Lease} {db db' : Db}

/-- `db'` is `db`, with a message of its incident appended or not. -/
def Appends (tx : Tx) (incidentId : String) (db db' : Db) : Prop :=
  db' = db ∨ ∃ draft, db.MessageConstraints (Message.initial tx db incidentId draft) ∧
    db' = { db with messages := db.messages ++ [Message.initial tx db incidentId draft] }

theorem appendMessage_eq_ok {incidentId : String} {draft : MessageDraft} {m : Message}
    (h : appendMessage tx incidentId draft db = .ok (m, db')) : Appends tx incidentId db db' := by
  simp only [appendMessage, bind_eq_ok, rowOr_eq_ok] at h
  obtain ⟨incident, -, h⟩ := h
  split at h
  · simp only [bind_eq_ok, raiseIf_eq_ok, pure_eq_ok] at h
    obtain ⟨-, -, h⟩ := h
    exact Or.inl (Prod.mk.inj h).2.symm
  · simp only [bind_eq_ok, raiseIf_eq_ok, pure_eq_ok] at h
    obtain ⟨-, -, -, -, db₁, hinsert, h⟩ := h
    obtain ⟨-, rfl⟩ := Prod.mk.inj h
    obtain ⟨hc, rfl⟩ := Db.insertMessage_eq_ok hinsert
    exact Or.inr ⟨draft, hc, rfl⟩

/-- The message of an interaction is a saved message of the user, or the one appended. -/
theorem interactionMessage_eq_ok {incidentId : String} {body : CreateInteraction} {m : Message}
    (h : interactionMessage tx incidentId body db = .ok (m, db')) :
    Appends tx incidentId db db' := by
  unfold interactionMessage at h
  split at h
  · simp only [bind_eq_ok, raiseIf_eq_ok, pure_eq_ok] at h
    obtain ⟨-, -, h⟩ := h
    exact Or.inl (Prod.mk.inj h).2.symm
  · simp only [bind_eq_ok, pure_eq_ok] at h
    obtain ⟨db₁, hinsert, h⟩ := h
    obtain ⟨-, rfl⟩ := Prod.mk.inj h
    obtain ⟨hc, rfl⟩ := Db.insertMessage_eq_ok hinsert
    exact Or.inr ⟨_, hc, rfl⟩

/-- What `accept_interaction` has checked when it goes on: no interaction of the incident is
active, and unless it only reads history, neither is the latest diagnosis. -/
theorem interactionAvailable_eq_ok {incident : Incident} {latest : Option Run} {intent : Intent}
    {references : List Json} {u : PUnit}
    (h : interactionAvailable incident latest intent references db = .ok u) :
    ¬ db.activeInteraction incident.incidentId ∧
      (intent.historical = false → ∀ r ∈ latest, r.active = false) := by
  simp only [interactionAvailable, bind_eq_ok, raiseIf_eq_ok] at h
  obtain ⟨-, hlatest, -, hidle, -⟩ := h
  refine ⟨hidle, fun hintent r hr => ?_⟩
  by_contra hactive
  exact hlatest ⟨r, hr, by simpa using hactive, by simp [hintent]⟩

/-- **What `accept_interaction` does**: it returns the recorded interaction, or inserts one
after the message it answers. -/
theorem acceptInteraction_eq_ok {incidentId : String} {body : CreateInteraction}
    {parentId : Option String} {references : List Json} {row : Run}
    (h : acceptInteraction env tx incidentId body parentId references db = .ok (row, db')) :
    db' = db ∨ ∃ db₁ context, Appends tx incidentId db db₁ ∧
      (db.latest incidentId).map (·.runId) = parentId ∧
      (body.intent.historical = false → ∀ r ∈ db.latest incidentId, r.active = false) ∧
      row = Run.interaction env tx incidentId parentId body context ∧
      db₁.insertRun row = .ok db' := by
  simp only [acceptInteraction, bind_eq_ok, rowOr_eq_ok] at h
  obtain ⟨incident, -, h⟩ := h
  split at h
  · simp only [bind_eq_ok, pure_eq_ok] at h
    obtain ⟨_, -, h⟩ := h
    exact Or.inl (Prod.mk.inj h).2.symm
  · simp only [bind_eq_ok, raiseIf_eq_ok, pure_eq_ok, not_not] at h
    obtain ⟨-, hparent, _, havail, ⟨message, db₁⟩, hmessage, db₂, hinsert, h⟩ := h
    obtain ⟨rfl, rfl⟩ := Prod.mk.inj h
    exact Or.inr ⟨db₁, _, interactionMessage_eq_ok hmessage, hparent,
      (interactionAvailable_eq_ok havail).2, rfl, hinsert⟩

theorem openRound_eq_ok {investigate : Bool} {output output' : Json}
    (h : openRound env tx lease investigate output db = .ok (output', db')) :
    (investigate = false ∧ output' = output ∧ db' = db) ∨
    (investigate = true ∧ ∃ messageId previous child, lease.contextMessageId = some messageId ∧
      acceptRound env tx lease.row.incidentId messageId ("interaction-" ++ lease.row.runId)
        lease.row.parentRunId previous db = .ok (child, db') ∧
      output' = output.withMember "diagnosis_run_id" (.str child.runId) ∧
      lease.contextState = some previous) := by
  unfold openRound at h
  split at h
  · rename_i hfalse
    obtain ⟨rfl, rfl⟩ := Prod.mk.inj (pure_eq_ok.1 h)
    exact Or.inl ⟨hfalse, rfl, rfl⟩
  · rename_i htrue
    simp only [bind_eq_ok, rowOr_eq_ok, pure_eq_ok] at h
    obtain ⟨messageId, hm, previous, hstate, ⟨child, db₁⟩, hround, h⟩ := h
    obtain ⟨rfl, rfl⟩ := Prod.mk.inj h
    exact Or.inr ⟨by simpa using htrue, messageId, previous, child, hm, hround, rfl, hstate⟩

theorem appendReply_eq_ok {output : Json} {assistant : Option String}
    (h : appendReply tx lease output assistant db = .ok db') :
    Appends tx lease.row.incidentId db db' := by
  unfold appendReply at h
  split at h
  · exact Or.inl (pure_eq_ok.1 h).symm
  · simp only [bind_eq_ok, pure_eq_ok] at h
    obtain ⟨⟨m, db₁⟩, hm, rfl⟩ := h
    exact appendMessage_eq_ok hm

/-- **What `complete` does**: it ends the interaction, may open the round it names, and may
append the reply. -/
theorem complete_eq_ok {output : Json} {assistant : Option String} {investigate : Bool}
    (h : complete env tx lease output assistant investigate db = .ok db') :
    ∃ row db₁ db₂ output', fence tx lease db = .ok row ∧
      openRound env tx lease investigate output
        (db.updateRun lease.row.runId (Run.released tx.now)) = .ok (output', db₁) ∧
      Appends tx lease.row.incidentId db₁ db₂ ∧
      db' = db₂.updateRun lease.row.runId fun r => { r with outputSnapshot := some output' } := by
  simp only [complete, bind_eq_ok, pure_eq_ok] at h
  obtain ⟨row, hrow, ⟨output', db₁⟩, hround, db₂, hreply, rfl⟩ := h
  exact ⟨row, db₁, db₂, output', hrow, hround, appendReply_eq_ok hreply, rfl⟩

theorem saveProgress_eq_ok {progress : Json} (h : saveProgress tx lease progress db = .ok db') :
    (∃ row, fence tx lease db = .ok row) ∧
      db' = db.updateRun lease.row.runId fun r => { r with interactionProgress := progress } := by
  simp only [saveProgress, bind_eq_ok, pure_eq_ok] at h
  obtain ⟨row, hrow, rfl⟩ := h
  exact ⟨⟨row, hrow⟩, rfl⟩

theorem saveRecheck_eq_ok {recheckId : String} {result : Json}
    (h : saveRecheck tx lease recheckId result db = .ok db') :
    (∃ row, fence tx lease db = .ok row) ∧ ∃ rechecks, db' = { db with rechecks := rechecks } := by
  simp only [saveRecheck, bind_eq_ok] at h
  obtain ⟨row, hrow, h⟩ := h
  refine ⟨⟨row, hrow⟩, ?_⟩
  split at h
  · exact ⟨db.rechecks, (pure_eq_ok.1 h).symm⟩
  · simp only [bind_eq_ok, pure_eq_ok] at h
    obtain ⟨-, -, rfl⟩ := h
    exact ⟨_, rfl⟩

end Inversion

end IncidentAgent
