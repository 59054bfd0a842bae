import IncidentAgent.Lib.Outcome
import IncidentAgent.Store.Rows

/-!
# Sessions on the store

What the repository methods share: the errors they raise, what a transaction reads
besides the database, the queries that come back in method after method, and the two
insertions whose table has constraints that other methods rely on.

A transaction is a function of a `Tx` – the moments and the identifiers it draws – and of
the database. It is evaluated at one point, where it holds the row locks it waits for:
`Tx.start` is `CURRENT_TIMESTAMP`, the moment at which the transaction began, *before* it
obtained its locks, and `Tx.now` is `clock_timestamp()` afterwards.
-/

namespace IncidentAgent

/-! ### Errors -/

/-- The errors that a repository method raises. -/
inductive Failure
  /-- `RunError`, which stands for every error of the database driver. -/
  | runError
  /-- The violation of `runs_idempotency_unique`. -/
  | uniqueViolation
  | idempotencyConflict
  | invalidRunQuery
  | roundConflict
  | roundNotFound
  | approvalConflict
  | leaseLost
  | unsafeRetry
  | messageError (code : String)
  | valueError (message : String)
  /-- A key or an index that a payload does not have. -/
  | keyError (key : String)
  deriving DecidableEq, Inhabited

/-! ### What a transaction reads besides the database -/

/-- What the process computes with functions of its libraries: digests, and the redaction
of texts. -/
structure Env where
  /-- `request_digest`. -/
  requestDigest : Json → String
  /-- `redact_sensitive_text`. -/
  redactSensitiveText : String → String
  /-- `serialize_limited`. -/
  serializeLimited : Json → Nat → String
  /-- `json.dumps(value, ensure_ascii=False, sort_keys=True, default=str)`. -/
  dumps : Json → String
  /-- `timestamp.isoformat()`. -/
  isoformat : Nat → String

/-- An environment in which a digest is the text of its value. -/
def Env.plain : Env where
  requestDigest := Json.text
  redactSensitiveText := id
  serializeLimited value limit := String.ofList ((value.code []).take limit)
  dumps := Json.text
  isoformat moment := (Json.num moment).text

/-- The moments of a transaction, the identifiers that `uuid4()` draws for the rows it may
insert, and the setting it reads. -/
structure Tx where
  /-- `CURRENT_TIMESTAMP`. -/
  start : Nat
  /-- `clock_timestamp()` in the first statement of a fence. -/
  asked : Nat
  /-- `clock_timestamp()` once the locks are held. -/
  now : Nat
  runId : String
  threadId : String
  messageId : String
  controlId : String
  /-- `selected_workflow()`. -/
  workflow : String
  deriving DecidableEq, Inhabited

/-- One second of the database clock, whose readings are in microseconds. -/
def second : Nat := 1000000

/-- `INVESTIGATION_WORKFLOW`. -/
def investigationWorkflow : String := "incident-investigation-v1"

/-- `DIALOGUE_WORKFLOW`. -/
def dialogueWorkflow : String := "incident-dialogue-v1"

/-- `ROUND_WORKFLOW`. -/
def roundWorkflow : String := "incident-round-v1"

/-- `ROUND_WORKFLOWS`. -/
def roundWorkflows : List String := [roundWorkflow, dialogueWorkflow, investigationWorkflow]

/-! ### Queries -/

namespace Db

/-- `SELECT * FROM incidents WHERE incident_id=…`. -/
def incident? (db : Db) (incidentId : String) : Option Incident :=
  db.incidents.find? fun i => i.incidentId = incidentId

/-- `SELECT * FROM runs WHERE run_id=…`. -/
def run? (db : Db) (runId : String) : Option Run :=
  db.runs.find? fun r => r.runId = runId

/-- `SELECT * FROM runs WHERE idempotency_scope=… AND idempotency_key=…`. -/
def runByKey? (db : Db) (scope key : String) : Option Run :=
  db.runs.find? fun r => r.idempotency = some (scope, key)

/-- The diagnosis run of an incident that `ORDER BY created_at DESC,run_id DESC LIMIT 1`
returns. -/
def latest (db : Db) (incidentId : String) : Option Run :=
  Table.latestBy (Run.diagnosisOf incidentId) Run.rank db.runs

/-- `SELECT * FROM operations WHERE run_id=…`. -/
def operation? (db : Db) (runId : String) : Option Operation :=
  db.operations.find? fun o => o.runId = runId

/-- Whether the incident has an operation in `prepared`, `dispatching`, `outcome_unknown`
or `manual_required`. -/
def unresolvedOperation (db : Db) (incidentId : String) : Prop :=
  ∃ o ∈ db.operations, o.incidentId = incidentId ∧ o.state.unresolved

instance (db : Db) (incidentId : String) : Decidable (db.unresolvedOperation incidentId) :=
  inferInstanceAs (Decidable (∃ o ∈ db.operations, _))

/-- Whether the incident has an interaction that has not ended. -/
def activeInteraction (db : Db) (incidentId : String) : Prop :=
  ∃ r ∈ db.runs, r.incidentId = incidentId ∧ r.runKind = .interaction ∧ r.active

instance (db : Db) (incidentId : String) : Decidable (db.activeInteraction incidentId) :=
  inferInstanceAs (Decidable (∃ r ∈ db.runs, _))

/-- The message of an incident with a role and a client identifier. -/
def message? (db : Db) (incidentId : String) (role : Role) (clientMessageId : String) :
    Option Message :=
  db.messages.find? fun m =>
    m.incidentId = incidentId ∧ m.role = role ∧ m.clientMessageId = clientMessageId

/-- `COALESCE(MAX(sequence),0)+1` over the messages of an incident. -/
def nextSequence (db : Db) (incidentId : String) : Nat :=
  ((db.messages.filter fun m => m.incidentId = incidentId).map (·.sequence)).foldr max 0 + 1

/-- The control of an incident with a client identifier. -/
def controlByClient? (db : Db) (incidentId clientMessageId : String) : Option Control :=
  db.controls.find? fun c => c.incidentId = incidentId ∧ c.clientMessageId = clientMessageId

/-- `SELECT * FROM controls WHERE control_id=…`. -/
def control? (db : Db) (controlId : String) : Option Control :=
  db.controls.find? fun c => c.controlId = controlId

/-! ### Updates -/

/-- `UPDATE incidents SET … WHERE incident_id=…`. -/
def updateIncident (db : Db) (incidentId : String) (f : Incident → Incident) : Db :=
  { db with incidents := Table.updateWhere (fun i => i.incidentId = incidentId) f db.incidents }

/-- `UPDATE runs SET … WHERE run_id=…`. -/
def updateRun (db : Db) (runId : String) (f : Run → Run) : Db :=
  { db with runs := Table.updateWhere (fun r => r.runId = runId) f db.runs }

/-- `UPDATE operations SET … WHERE run_id=…`. -/
def updateOperation (db : Db) (runId : String) (f : Operation → Operation) : Db :=
  { db with operations := Table.updateWhere (fun o => o.runId = runId) f db.operations }

/-- `UPDATE controls SET … WHERE control_id=…`. -/
def updateControl (db : Db) (controlId : String) (f : Control → Control) : Db :=
  { db with controls := Table.updateWhere (fun c => c.controlId = controlId) f db.controls }

/-! ### Looking up after an update -/

section Lookup

variable (db : Db) (id id' : String)

/-- An update of a run changes what is found under its identifier, and nothing else. -/
@[simp] theorem run?_updateRun {f : Run → Run} (hf : ∀ r, (f r).runId = r.runId) :
    (db.updateRun id' f).run? id = if id = id' then (db.run? id).map f else db.run? id := by
  unfold run? updateRun
  rw [Table.find?_updateWhere (by simp [hf])]
  cases h : db.runs.find? (fun r => r.runId = id) with
  | none => simp
  | some r =>
    have hr : r.runId = id := by simpa using List.find?_some h
    simp only [Option.map_some, hr, decide_eq_true_eq]
    split <;> rfl

@[simp] theorem run?_updateIncident (f : Incident → Incident) :
    (db.updateIncident id' f).run? id = db.run? id := rfl

@[simp] theorem run?_updateOperation (f : Operation → Operation) :
    (db.updateOperation id' f).run? id = db.run? id := rfl

@[simp] theorem run?_updateControl (f : Control → Control) :
    (db.updateControl id' f).run? id = db.run? id := rfl

@[simp] theorem operation?_updateRun (f : Run → Run) :
    (db.updateRun id' f).operation? id = db.operation? id := rfl

@[simp] theorem operation?_updateIncident (f : Incident → Incident) :
    (db.updateIncident id' f).operation? id = db.operation? id := rfl

@[simp] theorem operation?_updateControl (f : Control → Control) :
    (db.updateControl id' f).operation? id = db.operation? id := rfl

/-- An update of the operation of a run changes that operation only. -/
@[simp] theorem operation?_updateOperation {f : Operation → Operation}
    (hf : ∀ o, (f o).runId = o.runId) :
    (db.updateOperation id' f).operation? id =
      if id = id' then (db.operation? id).map f else db.operation? id := by
  unfold operation? updateOperation
  rw [Table.find?_updateWhere (by simp [hf])]
  cases h : db.operations.find? (fun o => o.runId = id) with
  | none => simp
  | some o =>
    have ho : o.runId = id := by simpa using List.find?_some h
    simp only [Option.map_some, ho, decide_eq_true_eq]
    split <;> rfl

@[simp] theorem incident?_updateRun (f : Run → Run) :
    (db.updateRun id' f).incident? id = db.incident? id := rfl

@[simp] theorem incident?_updateOperation (f : Operation → Operation) :
    (db.updateOperation id' f).incident? id = db.incident? id := rfl

@[simp] theorem incident?_updateControl (f : Control → Control) :
    (db.updateControl id' f).incident? id = db.incident? id := rfl

/-- An update of an incident changes what is found under its identifier only. -/
@[simp] theorem incident?_updateIncident {f : Incident → Incident}
    (hf : ∀ i, (f i).incidentId = i.incidentId) :
    (db.updateIncident id' f).incident? id =
      if id = id' then (db.incident? id).map f else db.incident? id := by
  unfold incident? updateIncident
  rw [Table.find?_updateWhere (by simp [hf])]
  cases h : db.incidents.find? (fun i => i.incidentId = id) with
  | none => simp
  | some i =>
    have hi : i.incidentId = id := by simpa using List.find?_some h
    simp only [Option.map_some, hi, decide_eq_true_eq]
    split <;> rfl

end Lookup

/-! ### Insertions under constraints -/

/-- The constraints of the table `runs` that an insertion has to meet: the primary key, the
unique thread and source message, one active run for each incident and kind, and the rows
it refers to. -/
def RunConstraints (db : Db) (r : Run) : Prop :=
  (∀ s ∈ db.runs, s.runId ≠ r.runId ∧ s.threadId ≠ r.threadId) ∧
  (∀ m ∈ r.sourceMessageId, ∀ s ∈ db.runs, s.sourceMessageId ≠ some m) ∧
  (r.active → ∀ s ∈ db.runs, s.incidentId = r.incidentId → s.runKind = r.runKind → ¬ s.active) ∧
  (∃ i ∈ db.incidents, i.incidentId = r.incidentId) ∧
  (∀ p ∈ r.parentRunId, ∃ s ∈ db.runs, s.runId = p) ∧
  ∀ m ∈ r.sourceMessageId, ∃ n ∈ db.messages, n.messageId = m

instance (db : Db) (r : Run) : Decidable (db.RunConstraints r) := by
  unfold RunConstraints
  infer_instance

/-- `INSERT INTO runs`. -/
def insertRun (db : Db) (r : Run) : Except Failure Db := do
  raiseIf (∃ k ∈ r.idempotency, ∃ s ∈ db.runs, s.idempotency = some k) .uniqueViolation
  raiseIf (¬ db.RunConstraints r) .runError
  pure { db with runs := db.runs ++ [r] }

theorem insertRun_eq_ok {db db' : Db} {r : Run} (h : db.insertRun r = .ok db') :
    (∀ k ∈ r.idempotency, ∀ s ∈ db.runs, s.idempotency ≠ some k) ∧ db.RunConstraints r ∧
      db' = { db with runs := db.runs ++ [r] } := by
  simp only [insertRun, bind_eq_ok, raiseIf_eq_ok, pure_eq_ok, not_not] at h
  obtain ⟨-, hkey, -, hc, rfl⟩ := h
  exact ⟨fun k hk s hs he => hkey ⟨k, hk, s, hs, he⟩, hc, rfl⟩

/-- `length(btrim(content)) BETWEEN 1 AND 16000`. -/
def contentCheck (content : String) : Bool :=
  let trimmed := ((content.toList.dropWhile (· == ' ')).reverse.dropWhile (· == ' ')).length
  1 ≤ trimmed && trimmed ≤ 16000

/-- The constraints of the table `messages`: the primary key, the unique sequence and the
unique message of a client for each incident and role, and the checks on the texts. -/
def MessageConstraints (db : Db) (m : Message) : Prop :=
  contentCheck m.content ∧ m.clientMessageId.length ≤ 128 ∧
  (∀ n ∈ db.messages, n.messageId ≠ m.messageId) ∧
  (∀ n ∈ db.messages, n.incidentId = m.incidentId →
    n.sequence ≠ m.sequence ∧ (n.role = m.role → n.clientMessageId ≠ m.clientMessageId)) ∧
  (∃ i ∈ db.incidents, i.incidentId = m.incidentId) ∧
  ∀ r ∈ m.relatedRunId, ∃ s ∈ db.runs, s.runId = r

instance (db : Db) (m : Message) : Decidable (db.MessageConstraints m) := by
  unfold MessageConstraints
  infer_instance

/-- `INSERT INTO messages`. -/
def insertMessage (db : Db) (m : Message) : Except Failure Db := do
  raiseIf (¬ db.MessageConstraints m) .runError
  pure { db with messages := db.messages ++ [m] }

theorem insertMessage_eq_ok {db db' : Db} {m : Message} (h : db.insertMessage m = .ok db') :
    db.MessageConstraints m ∧ db' = { db with messages := db.messages ++ [m] } := by
  simp only [insertMessage, bind_eq_ok, raiseIf_eq_ok, pure_eq_ok, not_not] at h
  obtain ⟨-, hc, rfl⟩ := h
  exact ⟨hc, rfl⟩

/-- The constraints of the table `controls`. -/
def ControlConstraints (db : Db) (c : Control) : Prop :=
  (∀ d ∈ db.controls, d.controlId ≠ c.controlId ∧
    (d.incidentId = c.incidentId → d.clientMessageId ≠ c.clientMessageId)) ∧
  (∃ i ∈ db.incidents, i.incidentId = c.incidentId) ∧
  (∃ m ∈ db.messages, m.messageId = c.messageId) ∧
  ∃ r ∈ db.runs, r.runId = c.parentRunId

instance (db : Db) (c : Control) : Decidable (db.ControlConstraints c) := by
  unfold ControlConstraints
  infer_instance

/-- `INSERT INTO controls`. -/
def insertControl (db : Db) (c : Control) : Except Failure Db := do
  raiseIf (¬ db.ControlConstraints c) .runError
  pure { db with controls := db.controls ++ [c] }

theorem insertControl_eq_ok {db db' : Db} {c : Control} (h : db.insertControl c = .ok db') :
    db.ControlConstraints c ∧ db' = { db with controls := db.controls ++ [c] } := by
  simp only [insertControl, bind_eq_ok, raiseIf_eq_ok, pure_eq_ok, not_not] at h
  obtain ⟨-, hc, rfl⟩ := h
  exact ⟨hc, rfl⟩

/-- The constraints of the table `operations`: the primary key, and one operation for each
run. -/
def OperationConstraints (db : Db) (o : Operation) : Prop :=
  (∀ p ∈ db.operations, p.operationId ≠ o.operationId ∧ p.runId ≠ o.runId) ∧
  (∃ i ∈ db.incidents, i.incidentId = o.incidentId) ∧
  ∃ r ∈ db.runs, r.runId = o.runId

instance (db : Db) (o : Operation) : Decidable (db.OperationConstraints o) := by
  unfold OperationConstraints
  infer_instance

/-- `INSERT INTO operations`. -/
def insertOperation (db : Db) (o : Operation) : Except Failure Db := do
  raiseIf (¬ db.OperationConstraints o) .runError
  pure { db with operations := db.operations ++ [o] }

end Db

/-! ### Keys -/

/-- A character that `KEY_PATTERN` allows. -/
def keyCharacter (c : Char) : Bool :=
  c.isAlphanum || c == '.' || c == '_' || c == ':' || c == '-'

/-- `re.fullmatch(KEY_PATTERN, key)`: between 1 and 128 of the allowed characters. -/
def keyPattern (key : String) : Bool :=
  1 ≤ key.length && key.length ≤ 128 && key.toList.all keyCharacter

/-- `validate_key(key)`. -/
def validateKey (key : Option String) : Except Failure PUnit :=
  raiseIf (∃ k ∈ key, keyPattern k = false) .invalidRunQuery

/-- `PostgresRunRepository._replay`: a saved row answers the same request again, and
refuses another one. -/
def replayRun (row : Run) (digest : String) : Except Failure Run := do
  raiseIf (row.requestSha256 ≠ digest) .idempotencyConflict
  pure row

end IncidentAgent
