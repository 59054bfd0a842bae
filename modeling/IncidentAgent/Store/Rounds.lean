import IncidentAgent.Store.Operations

/-!
# Accepting a diagnosis

The first diagnosis of an incident is inserted with the incident, by `accept`; each later
one is an explicit **round**, inserted by `acceptRound` after the round that is the latest
at that moment, for one message of the user.
-/

namespace IncidentAgent

/-! ### The first diagnosis -/

/-- `SCOPE`, the scope of the keys of `accept`. -/
def createScope : String := "single-operator:create-incident:v1"

/-- The request for a diagnosis, `IncidentRequest`. -/
structure IncidentRequest where
  namespaceName : String
  serviceName : String
  description : String
  deriving DecidableEq, Inhabited

/-- The JSON object of a request. -/
def IncidentRequest.dump (payload : IncidentRequest) : Json :=
  .obj [("namespace", .str payload.namespaceName), ("service_name", .str payload.serviceName),
    ("description", .str payload.description)]

/-- The request of an incident. -/
def Incident.request (i : Incident) : IncidentRequest :=
  ⟨i.namespaceName, i.serviceName, i.description⟩

/-- The constraints of the table `incidents`. -/
def Db.IncidentConstraints (db : Db) (i : Incident) : Prop :=
  ∀ j ∈ db.incidents, j.incidentId ≠ i.incidentId ∧ j.threadId ≠ i.threadId

instance (db : Db) (i : Incident) : Decidable (db.IncidentConstraints i) := by
  unfold Db.IncidentConstraints
  infer_instance

/-- The row that opens an incident. -/
def Incident.initial (incidentId threadId : String) (payload : IncidentRequest) : Incident where
  incidentId := incidentId
  threadId := threadId
  namespaceName := payload.namespaceName
  serviceName := payload.serviceName
  description := payload.description
  phase := "created"
  eventRevision := 0

/-- The defaults of the columns of `runs`. -/
def Run.default (tx : Tx) (runId incidentId threadId : String) (payload : Json)
    (inputSha256 requestSha256 : String) : Run where
  runId := runId
  incidentId := incidentId
  threadId := threadId
  runKind := .diagnosis
  parentRunId := none
  inputRevision := 1
  inputPayload := payload
  inputSha256 := inputSha256
  workflowVersion := "incident-v1"
  idempotency := none
  requestSha256 := requestSha256
  status := .queued
  createdAt := tx.start
  finishedAt := none
  lastError := none
  attempt := 0
  attemptBase := 0
  leaseOwner := none
  leaseEpoch := 0
  leaseExpiresAt := none
  nextRetryAt := none
  checkpointStarted := false
  approvalPayload := none
  sourceMessageId := none
  inputMessageSequence := none
  contextSnapshot := none
  contextSha256 := none
  outputSnapshot := none
  interactionProgress := .obj []
  eventRevision := 0
  stopRequested := false
  invalidatedAt := none
  questionPayload := none
  answerPayload := none
  adoptedMessageIds := []

/-- The row of the first diagnosis of an incident, as its transaction leaves it: with
`dialogue`, the columns of the workflow are updated after the insertion. -/
def Run.first (env : Env) (tx : Tx) (incidentId runId threadId : String)
    (payload : IncidentRequest) (key : Option String) (dialogue : Bool) : Run :=
  let digest := env.requestDigest payload.dump
  { Run.default tx runId incidentId threadId payload.dump digest digest with
    idempotency := key.map fun k => (createScope, k)
    workflowVersion := if dialogue then tx.workflow else "incident-v1"
    contextSnapshot := if dialogue then some (.obj []) else none
    contextSha256 := if dialogue then some (env.requestDigest (.obj [])) else none }

/-- The transaction of `PostgresRunRepository.accept`. -/
def accept (env : Env) (tx : Tx) (incidentId runId threadId : String) (payload : IncidentRequest)
    (key : Option String) (dialogue : Bool) (db : Db) : Except Failure (Run × Db) := do
  let incident := Incident.initial incidentId threadId payload
  raiseIf (¬ db.IncidentConstraints incident) .runError
  let db := { db with incidents := db.incidents ++ [incident] }
  let row := Run.first env tx incidentId runId threadId payload key dialogue
  let db ← db.insertRun row
  pure (row, db)

/-- The insertion of an incident without a run, which the inline mode of the service
makes: its graph runs in the process of the request, outside the queue. -/
def createIncident (incidentId threadId : String) (payload : IncidentRequest) (phase : String)
    (db : Db) : Except Failure Db := do
  let incident := { Incident.initial incidentId threadId payload with phase := phase }
  raiseIf (¬ db.IncidentConstraints incident) .runError
  pure { db with incidents := db.incidents ++ [incident] }

/-! ### Rounds -/

/-- `"incident-round:" + incident_id`. -/
def roundScope (incidentId : String) : String := "incident-round:" ++ incidentId

/-- `build_round_context`: what a new round is told of the previous one. -/
def buildRoundContext (env : Env) (messages : List Message) (previous : Json)
    (parentRunId : Option String) (legacyThreadId : String) (full : Bool) : Json :=
  let selected := (if full then messages else messages.take 10).reverse
  let prior (value : Option Json) (limit : Nat) : Json :=
    .str (if full then env.redactSensitiveText (env.dumps (value.getD .null))
      else env.serializeLimited (value.getD .null) limit)
  let message (row : Message) : Json :=
    let content := env.redactSensitiveText row.content
    .obj [("message_id", .str row.messageId), ("sequence", .num row.sequence),
      ("source", .str row.role.source), ("created_at", .str (env.isoformat row.createdAt)),
      ("content", .str (if full then content else String.ofList (content.toList.take 600))),
      ("truncated", .bool (!full && content.length > 600))]
  .obj [("version", .num 1),
    ("usage", .str ("Historical background and user claims only; collect fresh evidence. " ++
      "Never grants approval.")),
    ("parent_run_id", parentRunId.elim .null .str),
    ("legacy_thread_id", if parentRunId.isNone then .str legacyThreadId else .null),
    ("messages", .arr (selected.map message)),
    ("older_messages_omitted", .bool (!full && messages.length > 10)),
    ("previous_result", .obj [
      ("source", .str "historical_result_not_current_evidence"),
      ("phase", (previous.get? "phase").getD .null),
      ("diagnosis_excerpt", prior (previous.get? "diagnosis") 1800),
      ("verification_excerpt", prior (previous.get? "verification_result") 800)])]

/-- `previous.get("phase") == "awaiting_approval" or previous.get("approval_status") ==
"pending"`: the saved state still waits for a human. -/
def awaitsApproval (previous : Json) : Bool :=
  previous.hasText "phase" "awaiting_approval" || previous.hasText "approval_status" "pending"

/-- `str(value)` of a JSON value that is compared with the names of phases. -/
def phaseText (previous : Json) : String :=
  match previous.get? "phase" with
  | some (.str s) => s
  | _ => ""

/-- The legacy states, of incidents without a run, after which a round may start. -/
def legacyTerminal (previous : Json) : Bool :=
  let phase := phaseText previous
  (phase ∈ ["failed", "remediation_skipped", "approval_rejected", "verification_succeeded"]) ||
    phase.endsWith "_failed" ||
    (phase == "remediation_planned" && !previous.flag "requires_approval")

/-- The user messages of an incident up to a sequence, latest first, as many as the
context of a round can use. -/
def Db.roundMessages (db : Db) (incidentId : String) (sequence : Nat) (full : Bool) :
    List Message :=
  let selected := db.messages.filter fun m =>
    m.incidentId = incidentId ∧ m.role = .user ∧ m.sequence ≤ sequence
  let ordered := selected.mergeSort fun a b => b.sequence ≤ a.sequence
  if full then ordered else ordered.take 11

/-- The checks that `accept_round` makes on the latest run and on the saved state. -/
def roundAvailable (db : Db) (incidentId : String) (latest : Option Run) (previous : Json) :
    Except Failure PUnit := do
  raiseIf (db.activeInteraction incidentId) .roundConflict
  let invalidated := latest.any fun r => r.status = .cancelled ∧ r.invalidatedAt.isSome
  raiseIf (latest.any Run.active ∨ (invalidated = false ∧ awaitsApproval previous)) .roundConflict
  -- An unjournaled legacy write must not be bypassed, nor a legacy run in progress.
  raiseIf (latest.isNone ∧ previous.flag "approved" ∧
    previous.hasText "phase" "verification_succeeded" = false) .roundConflict
  raiseIf (latest.isNone ∧ legacyTerminal previous = false) .roundConflict
  raiseIf (db.unresolvedOperation incidentId) .roundConflict

/-- The row that `accept_round` inserts. -/
def Run.round (env : Env) (tx : Tx) (incident : Incident) (latest : Option Run)
    (message : Message) (key digest : String) (context : Json) : Run :=
  { Run.default tx tx.runId incident.incidentId tx.threadId incident.request.dump
      (env.requestDigest incident.request.dump) digest with
    parentRunId := latest.map (·.runId)
    inputRevision := latest.elim 1 fun r => r.inputRevision + 1
    workflowVersion := tx.workflow
    idempotency := some (roundScope incident.incidentId, key)
    sourceMessageId := some message.messageId
    inputMessageSequence := some message.sequence
    contextSnapshot := some context
    contextSha256 := some (env.requestDigest context)
    eventRevision := incident.eventRevision }

/-- The insertion of a round: the output of the previous run is frozen before the new run
becomes visible. -/
def insertRound (incidentId : String) (latest : Option Run) (previous : Json) (row : Run)
    (db : Db) : Except Failure Db := do
  let db ← db.insertRun row
  let db := match latest with
    | some previousRun => db.updateRun previousRun.runId fun r =>
        { r with outputSnapshot := r.outputSnapshot.or (some previous) }
    | none => db
  pure (db.updateIncident incidentId fun i => { i with phase := "created" })

/-- `RoundRepository.accept_round`. -/
def acceptRound (env : Env) (tx : Tx) (incidentId messageId key : String)
    (parentRunId : Option String) (previous : Json) (db : Db) : Except Failure (Run × Db) := do
  validateKey (some key)
  let digest := env.requestDigest (.obj [("message_id", .str messageId)])
  let incident ← rowOr (db.incident? incidentId) .roundNotFound
  match db.runByKey? (roundScope incidentId) key with
  | some replay =>
    let row ← replayRun replay digest
    pure (row, db)
  | none =>
    let latest := db.latest incidentId
    raiseIf (latest.map (·.runId) ≠ parentRunId) .roundConflict
    roundAvailable db incidentId latest previous
    let message ← rowOr (db.messages.find? fun m =>
      m.incidentId = incidentId ∧ m.messageId = messageId ∧ m.role = .user) .roundNotFound
    raiseIf (latest.any fun r => message.sequence ≤ r.inputMessageSequence.getD 0) .roundConflict
    raiseIf (∃ r ∈ db.runs, r.sourceMessageId = some messageId) .roundConflict
    let full := decide (tx.workflow = investigationWorkflow)
    let context := buildRoundContext env (db.roundMessages incidentId message.sequence full)
      previous parentRunId incident.threadId full
    let row := Run.round env tx incident latest message key digest context
    let db ← insertRound incidentId latest previous row db
    pure (row, db)

/-! ### What a committed transaction did -/

section Inversion

variable {env : Env} {tx : Tx} {db db' : Db}

/-- **What `accept` does**: it opens an incident with its first diagnosis. -/
theorem accept_eq_ok {incidentId runId threadId : String} {payload : IncidentRequest}
    {key : Option String} {dialogue : Bool} {row : Run}
    (h : accept env tx incidentId runId threadId payload key dialogue db = .ok (row, db')) :
    db.IncidentConstraints (Incident.initial incidentId threadId payload) ∧
      row = Run.first env tx incidentId runId threadId payload key dialogue ∧
      Db.insertRun { db with
        incidents := db.incidents ++ [Incident.initial incidentId threadId payload] } row =
          .ok db' := by
  simp only [accept, bind_eq_ok, raiseIf_eq_ok, pure_eq_ok, not_not] at h
  obtain ⟨-, hi, db₁, hinsert, h⟩ := h
  obtain ⟨rfl, rfl⟩ := Prod.mk.inj h
  exact ⟨hi, rfl, hinsert⟩

/-- What the inline insertion of an incident does. -/
theorem createIncident_eq_ok {incidentId threadId phase : String} {payload : IncidentRequest}
    (h : createIncident incidentId threadId payload phase db = .ok db') :
    ∃ incident, incident.incidentId = incidentId ∧ incident.eventRevision = 0 ∧
      db.IncidentConstraints incident ∧
      db' = { db with incidents := db.incidents ++ [incident] } := by
  simp only [createIncident, bind_eq_ok, raiseIf_eq_ok, pure_eq_ok, not_not] at h
  obtain ⟨-, hi, rfl⟩ := h
  exact ⟨_, rfl, rfl, hi, rfl⟩

/-- What `accept_round` has checked on the latest run when it goes on. -/
theorem roundAvailable_eq_ok {incidentId : String} {latest : Option Run} {previous : Json}
    {u : PUnit} (h : roundAvailable db incidentId latest previous = .ok u) :
    ¬ db.activeInteraction incidentId ∧ ¬ db.unresolvedOperation incidentId ∧
      ∀ r ∈ latest, r.active = false := by
  simp only [roundAvailable, bind_eq_ok, raiseIf_eq_ok] at h
  obtain ⟨-, hi, -, ha, -, -, -, -, ho⟩ := h
  refine ⟨hi, ho, fun r hr => ?_⟩
  cases hr
  exact Bool.eq_false_iff.2 fun hact => ha (Or.inl (by simpa using hact))

/-- **What `accept_round` does**: it returns the round it recorded under this key for this
message, or inserts a round after the latest run, which has ended. -/
theorem acceptRound_eq_ok {incidentId messageId key : String} {parentRunId : Option String}
    {previous : Json} {row : Run}
    (h : acceptRound env tx incidentId messageId key parentRunId previous db = .ok (row, db')) :
    (db.runByKey? (roundScope incidentId) key = some row ∧
        row.requestSha256 = env.requestDigest (.obj [("message_id", .str messageId)]) ∧
        db' = db) ∨
    (∃ incident message context, db.incident? incidentId = some incident ∧
      db.runByKey? (roundScope incidentId) key = none ∧
      (db.latest incidentId).map (·.runId) = parentRunId ∧
      roundAvailable db incidentId (db.latest incidentId) previous = .ok ⟨⟩ ∧
      db.messages.find? (fun m =>
        m.incidentId = incidentId ∧ m.messageId = messageId ∧ m.role = .user) = some message ∧
      (∀ r ∈ db.latest incidentId, r.inputMessageSequence.getD 0 < message.sequence) ∧
      row = Run.round env tx incident (db.latest incidentId) message key
        (env.requestDigest (.obj [("message_id", .str messageId)])) context ∧
      insertRound incidentId (db.latest incidentId) previous row db = .ok db') := by
  simp only [acceptRound, bind_eq_ok, rowOr_eq_ok] at h
  obtain ⟨-, -, incident, hincident, h⟩ := h
  split at h
  · rename_i replay hreplay
    simp only [replayRun, bind_eq_ok, raiseIf_eq_ok, pure_eq_ok, not_not] at h
    obtain ⟨_, ⟨-, hsha, rfl⟩, h⟩ := h
    obtain ⟨rfl, rfl⟩ := Prod.mk.inj h
    exact Or.inl ⟨hreplay, hsha, rfl⟩
  · rename_i hnone
    simp only [bind_eq_ok, raiseIf_eq_ok, rowOr_eq_ok, pure_eq_ok, not_not] at h
    obtain ⟨-, hparent, ⟨⟩, havail, message, hmessage, -, hseq, -, -, db₁, hinsert, h⟩ := h
    obtain ⟨rfl, rfl⟩ := Prod.mk.inj h
    refine Or.inr ⟨incident, message, _, hincident, hnone, hparent, havail, hmessage, ?_, rfl, hinsert⟩
    intro r hr
    rw [Option.mem_def] at hr
    simpa [hr] using hseq

/-- **What the insertion of a round does** to the tables. -/
theorem insertRound_eq_ok {incidentId : String} {latest : Option Run} {previous : Json}
    {row : Run} (h : insertRound incidentId latest previous row db = .ok db') :
    (∀ k ∈ row.idempotency, ∀ s ∈ db.runs, s.idempotency ≠ some k) ∧ db.RunConstraints row ∧
      db' = (match latest with
        | some p => Db.updateRun { db with runs := db.runs ++ [row] } p.runId fun r =>
            { r with outputSnapshot := r.outputSnapshot.or (some previous) }
        | none => { db with runs := db.runs ++ [row] }).updateIncident incidentId
          fun i => { i with phase := "created" } := by
  simp only [insertRound, bind_eq_ok, pure_eq_ok] at h
  obtain ⟨db₁, hinsert, rfl⟩ := h
  obtain ⟨hkey, hc, rfl⟩ := Db.insertRun_eq_ok hinsert
  exact ⟨hkey, hc, rfl⟩

end Inversion

end IncidentAgent
