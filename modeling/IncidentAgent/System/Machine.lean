import IncidentAgent.Lib.Transition
import IncidentAgent.Store.Observations

/-!
# The system: clients, workers and the store

Any number of clients and workers send requests to the store. A request is a transaction
of one repository method, with the arguments that its caller has read before. The
transaction **begins** at a moment, its start, and is evaluated later, when it holds the
locks it waits for: in between, others commit. It either commits, raises and changes
nothing, or is lost with its client.

The machine of this file makes all of that explicit. Its state holds the database, the
checkpoints that the graph saver writes on a connection of its own, the clock, the open
transactions, the leases granted so far and the fences that are held during a write of
the saver. Its events carry every choice: which transaction is evaluated, how much time
passes, which identifiers `uuid4()` draws, which rows `SKIP LOCKED` passes over. A crash
of a worker is the loss of its open transactions; nothing makes a worker come back.

What a caller has to know before it opens a transaction is `Sys.Admits`: a lease it was
granted, a run or a control it has read. The callers of the source also choose among the
statuses they may publish, `Request.Proper`.
-/

namespace IncidentAgent

/-! ### Requests -/

/-- A transaction of a repository method. -/
inductive Request
  | accept (incidentId runId threadId : String) (payload : IncidentRequest) (key : Option String)
      (dialogue : Bool)
  | createIncident (incidentId threadId : String) (payload : IncidentRequest) (phase : String)
  | updatePhase (incidentId phase : String)
  | claim (owner : String) (seconds maxAttempts : Nat)
  | assertOwned (lease : Lease)
  | heartbeat (lease : Lease) (seconds : Nat)
  | markCheckpointStarted (lease : Lease)
  | finish (lease : Lease) (status : RunStatus) (args : FinishArgs)
  | queueApproval (runId : String) (decision : ApprovalDecision) (binding : String)
  | prepare (lease : Lease) (args : PrepareArgs)
  | dispatch (lease : Lease) (operationId : String)
  | record (lease : Lease) (state : OperationState) (args : RecordArgs)
  | acceptRound (incidentId messageId key : String) (parentRunId : Option String)
      (previous : Json)
  | acceptInteraction (incidentId : String) (body : CreateInteraction)
      (parentId : Option String) (references : List Json)
  | saveProgress (lease : Lease) (progress : Json)
  | saveRecheck (lease : Lease) (recheckId : String) (result : Json)
  | complete (lease : Lease) (output : Json) (assistant : Option String) (investigate : Bool)
  | control (incidentId : String) (body : ControlRequest) (expectedParent : Option String)
      (snapshot : Json)
  | activateControl (controlId : String)
  | answer (incidentId runId : String) (body : AnswerQuestion)
  | appendMessage (incidentId : String) (draft : MessageDraft)
  | activateDue (delayedId : String)
  | inspectDelayed (lease : Lease)
  | exhaustDelayed (lease : Lease)
  | publishDelayed (lease : Lease) (sample : DelayedSample)
  | openWindow (lease : Option Lease) (key incidentId token : String) (initial : WindowPayload)
  | saveWindow (lease : Option Lease) (key incidentId token delayedId : String)
      (payload : WindowPayload)
  | editBudget (lease : Lease) (initial : Json) (edit : Json → Json)

/-- What a committed transaction returns. -/
inductive Response
  | done
  | run (row : Run)
  | lease (lease : Option Lease)
  | status (status : RunStatus)
  | operation (row : Operation)
  | view (view : ControlView)
  | message (row : Message)
  | window (payload : WindowPayload)
  | delayed (row : DelayedRecheck)
  deriving Inhabited

/-- `UPDATE incidents SET phase=… WHERE incident_id=…`, of the inline mode. -/
def updatePhase (incidentId phase : String) (db : Db) : Db :=
  db.updateIncident incidentId fun i => { i with phase := phase }

/-- The evaluation of a request on the database: the answer and the database to commit, or
the error with which it is rolled back. -/
def transact (env : Env) (tx : Tx) (skipped : List String) (request : Request) (db : Db) :
    Except Failure (Response × Db) :=
  match request with
  | .accept incidentId runId threadId payload key dialogue =>
    (accept env tx incidentId runId threadId payload key dialogue db).map
      fun a => (.run a.1, a.2)
  | .createIncident incidentId threadId payload phase =>
    (createIncident incidentId threadId payload phase db).map fun db => (.done, db)
  | .updatePhase incidentId phase => .ok (.done, updatePhase incidentId phase db)
  | .claim owner seconds maxAttempts =>
    let a := claim tx owner seconds maxAttempts skipped db
    .ok (.lease a.1, a.2)
  | .assertOwned lease => (assertOwned tx lease db).map fun _ => (.done, db)
  | .heartbeat lease seconds => (heartbeat tx lease seconds db).map fun db => (.done, db)
  | .markCheckpointStarted lease => (markCheckpointStarted tx lease db).map fun db => (.done, db)
  | .finish lease status args => (finish tx lease status args db).map fun a => (.status a.1, a.2)
  | .queueApproval runId decision binding =>
    (queueApproval runId decision binding db).map fun db => (.done, db)
  | .prepare lease args => (prepare env tx lease args db).map fun a => (.operation a.1, a.2)
  | .dispatch lease operationId => (dispatch tx lease operationId db).map fun db => (.done, db)
  | .record lease state args => (record tx lease state args db).map fun db => (.done, db)
  | .acceptRound incidentId messageId key parentRunId previous =>
    (acceptRound env tx incidentId messageId key parentRunId previous db).map
      fun a => (.run a.1, a.2)
  | .acceptInteraction incidentId body parentId references =>
    (acceptInteraction env tx incidentId body parentId references db).map
      fun a => (.run a.1, a.2)
  | .saveProgress lease progress => (saveProgress tx lease progress db).map fun db => (.done, db)
  | .saveRecheck lease recheckId result =>
    (saveRecheck tx lease recheckId result db).map fun db => (.done, db)
  | .complete lease output assistant investigate =>
    (complete env tx lease output assistant investigate db).map fun db => (.done, db)
  | .control incidentId body expectedParent snapshot =>
    (control env tx incidentId body expectedParent snapshot db).map fun a => (.view a.1, a.2)
  | .activateControl controlId => (activateControl env tx controlId db).map fun db => (.done, db)
  | .answer incidentId runId body =>
    (answer env tx incidentId runId body db).map fun a => (.view a.1, a.2)
  | .appendMessage incidentId draft =>
    (appendMessage tx incidentId draft db).map fun a => (.message a.1, a.2)
  | .activateDue delayedId => (activateDue env tx delayedId db).map fun db => (.done, db)
  | .inspectDelayed lease => (inspectDelayed tx lease db).map fun a => (.delayed a.1, a.2)
  | .exhaustDelayed lease => (exhaustDelayed tx lease db).map fun db => (.done, db)
  | .publishDelayed lease sample => (publishDelayed tx lease sample db).map fun db => (.done, db)
  | .openWindow lease key incidentId token initial =>
    (openWindow tx lease key incidentId token initial db).map fun a => (.window a.1, a.2)
  | .saveWindow lease key incidentId token delayedId payload =>
    (saveWindow tx lease key incidentId token delayedId payload db).map fun db => (.done, db)
  | .editBudget lease initial edit =>
    (editBudget tx lease initial edit db).map fun db => (.done, db)

/-- The lease a request is made under. -/
def Request.lease? : Request → Option Lease
  | .assertOwned lease | .heartbeat lease _ | .markCheckpointStarted lease
  | .finish lease _ _ | .prepare lease _ | .dispatch lease _ | .record lease _ _
  | .saveProgress lease _ | .saveRecheck lease _ _ | .complete lease _ _ _
  | .inspectDelayed lease | .exhaustDelayed lease | .publishDelayed lease _
  | .editBudget lease _ _ => some lease
  | .openWindow lease _ _ _ _ | .saveWindow lease _ _ _ _ _ => lease
  | _ => none

/-- The incident whose row a request locks for its duration. A claim locks no incident. -/
def Request.incident? (db : Db) (request : Request) : Option String :=
  match request with
  | .updatePhase incidentId _ | .acceptRound incidentId _ _ _ _
  | .acceptInteraction incidentId _ _ _ | .control incidentId _ _ _ | .answer incidentId _ _
  | .appendMessage incidentId _ => some incidentId
  | .openWindow none _ incidentId _ _ | .saveWindow none _ incidentId _ _ _ => some incidentId
  | .queueApproval runId _ _ => (db.run? runId).map (·.incidentId)
  | .activateControl controlId => (db.control? controlId).map (·.incidentId)
  | .activateDue delayedId =>
    (db.delayed.find? fun d => d.delayedId = delayedId).map (·.incidentId)
  | request => request.lease?.map fun lease => lease.row.incidentId

/-- The idempotency key of a round that a client chose. -/
def Request.roundKey? : Request → Option String
  | .acceptRound _ _ key _ _ => some key
  | _ => none

/-- **What the callers of the source send.** A worker publishes a result, a wait, a retry or
a reconciliation, never `cancelled`. An interaction does not wait for a human, and its output
is published by its completion alone, where the name of a child is for the store to add; only
an interaction is completed, and only a diagnosis prepares a write. What a client appends is a
message of the user. -/
def Request.Proper : Request → Prop
  | .finish lease status args => status ≠ .cancelled ∧
      (lease.row.runKind = .interaction →
        (status ≠ .waitingUser ∧ status ≠ .waitingApproval) ∧ args.outputSnapshot = none)
  | .complete lease output _ _ => lease.row.runKind = .interaction ∧
      output.isObject = true ∧ output.get? "diagnosis_run_id" = none
  | .prepare lease _ => lease.row.runKind = .diagnosis
  | .appendMessage _ draft => draft.role = .user
  | _ => True

instance (request : Request) : Decidable request.Proper := by
  unfold Request.Proper
  split <;> infer_instance

/-! ### States and events -/

/-- An open transaction. -/
structure OpenTx where
  start : Nat
  request : Request

/-- The identifiers and the setting that a transaction draws while it is evaluated. -/
structure Draw where
  runId : String
  threadId : String
  messageId : String
  controlId : String
  workflow : String
  deriving DecidableEq, Inhabited

/-- The state of the system. A checkpoint is a value of `σ`, under the identifier of its
thread. -/
structure Sys (σ : Type) where
  db : Db
  checkpoints : String → Option σ
  now : Nat
  transactions : List OpenTx
  leases : List Lease
  /-- The leases whose fence is held by a connection while the saver writes. -/
  held : List Lease

/-- An event of the system. -/
inductive Event (σ : Type)
  /-- Time passes. -/
  | elapse (duration : Nat)
  /-- A caller opens a transaction. -/
  | begin (request : Request)
  /-- An open transaction is evaluated, and commits or raises. -/
  | commit (index asked : Nat) (draw : Draw) (skipped : List String)
  /-- An open transaction is lost: its client crashed, or the store did. -/
  | abort (index : Nat)
  /-- The saver opens a fence around a write of a checkpoint. -/
  | hold (lease : Lease) (asked : Nat)
  /-- The saver commits a checkpoint, on its own connection. -/
  | write (lease : Lease) (value : σ)
  /-- The saver ends its fence. -/
  | release (lease : Lease)

namespace Sys

variable {σ : Type}

/-- The system after the migrations. -/
def start (σ : Type) : Sys σ where
  db := Db.empty
  checkpoints := fun _ => none
  now := 0
  transactions := []
  leases := []
  held := []

/-- **What a caller has read** before it opens a transaction: the lease it was granted, the
parent of the round it asks for, the control it wants to start. -/
def Admits (s : Sys σ) (request : Request) : Prop :=
  (∀ lease ∈ request.lease?, lease ∈ s.leases) ∧ request.Proper ∧
  match request with
  | .acceptRound _ _ _ parentRunId _ => ∀ p ∈ parentRunId, ∃ r ∈ s.db.runs, r.runId = p
  | .activateControl controlId => ∃ c ∈ s.db.controls, c.controlId = controlId
  | _ => True

instance (s : Sys σ) (request : Request) : Decidable (s.Admits request) := by
  unfold Admits
  have : Decidable (match request with
    | .acceptRound _ _ _ parentRunId _ => ∀ p ∈ parentRunId, ∃ r ∈ s.db.runs, r.runId = p
    | .activateControl controlId => ∃ c ∈ s.db.controls, c.controlId = controlId
    | _ => True) := by split <;> infer_instance
  infer_instance

/-- The identifiers drawn by `uuid4()` are nobody's key: no client has yet named the
control or the interaction that they will belong to. -/
def Fresh (s : Sys σ) (draw : Draw) : Prop :=
  (∀ r ∈ s.db.runs, ∀ k ∈ r.idempotency,
    k.2 ≠ "control-" ++ draw.controlId ∧ k.2 ≠ "interaction-" ++ draw.runId) ∧
  ∀ t ∈ s.transactions, ∀ key ∈ t.request.roundKey?,
    key ≠ "control-" ++ draw.controlId ∧ key ≠ "interaction-" ++ draw.runId

instance (s : Sys σ) (draw : Draw) : Decidable (s.Fresh draw) := by
  unfold Fresh
  infer_instance

/-- A transaction waits for the locks that a fence holds: the row of the incident, and for
a claim the row of the run, which it passes over. -/
def Unblocked (s : Sys σ) (request : Request) (skipped : List String) : Prop :=
  (∀ lease ∈ s.held, request.incident? s.db ≠ some lease.row.incidentId) ∧
  ∀ lease ∈ s.held, lease.row.runId ∈ skipped

instance (s : Sys σ) (request : Request) (skipped : List String) :
    Decidable (s.Unblocked request skipped) := by
  unfold Unblocked
  infer_instance

/-- The transaction that an open one becomes when it is evaluated. -/
def tx (s : Sys σ) (t : OpenTx) (asked : Nat) (draw : Draw) : Tx where
  start := t.start
  asked := asked
  now := s.now
  runId := draw.runId
  threadId := draw.threadId
  messageId := draw.messageId
  controlId := draw.controlId
  workflow := draw.workflow

/-- The state after a transaction, with the lease it may have granted. -/
def committed (s : Sys σ) (index : Nat) (response : Response) (db : Db) : Sys σ :=
  { s with
    db := db
    transactions := s.transactions.eraseIdx index
    leases := match response with
      | .lease (some lease) => lease :: s.leases
      | _ => s.leases }

/-- **One event of the system.** -/
def next (env : Env) (s : Sys σ) : Event σ → Option (Sys σ)
  | .elapse duration => some { s with now := s.now + duration }
  | .begin request =>
    if s.Admits request then
      some { s with now := s.now + 1, transactions := s.transactions ++ [⟨s.now, request⟩] }
    else none
  | .commit index asked draw skipped =>
    match s.transactions[index]? with
    | none => none
    | some t =>
      if t.start ≤ asked ∧ asked ≤ s.now ∧ s.Fresh draw ∧ s.Unblocked t.request skipped then
        match transact env (s.tx t asked draw) skipped t.request s.db with
        | .ok (response, db) => some (s.committed index response db)
        | .error _ => some { s with transactions := s.transactions.eraseIdx index }
      else none
  | .abort index => some { s with transactions := s.transactions.eraseIdx index }
  | .hold lease asked =>
    if lease ∈ s.leases ∧ asked ≤ s.now ∧
        (∀ other ∈ s.held, other.row.incidentId ≠ lease.row.incidentId) then
      match fence (s.tx ⟨asked, .assertOwned lease⟩ asked default) lease s.db with
      | .ok _ => some { s with held := lease :: s.held }
      | .error _ => none
    else none
  | .write lease value =>
    if lease ∈ s.held then
      some { s with
        checkpoints := Function.update s.checkpoints lease.row.threadId (some value) }
    else none
  | .release lease => some { s with held := s.held.erase lease }

/-- The reachable states of the system. -/
def Reachable (env : Env) (s : Sys σ) : Prop :=
  Transition.Reachable (next env) (start σ) s

/-! ### Clients one at a time -/

/-- A client opens a transaction and waits for it. -/
def ask (request : Sys σ → Request) (draw : Draw) (s : Sys σ) : List (Event σ) :=
  [.begin (request s), .commit s.transactions.length s.now draw []]

/-- The lease that was granted last. -/
def lease (s : Sys σ) : Lease := s.leases.head?.getD default

/-- An incident is opened, and its diagnosis is claimed. -/
def opening : List (Sys σ → List (Event σ)) :=
  [ask (fun _ => .accept "incident" "run-1" "thread-1" default none true) default,
    ask (fun _ => .claim "worker-1" 30 3) default]

end Sys

end IncidentAgent
