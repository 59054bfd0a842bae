import IncidentAgent.Store.Observations
import Mathlib.Logic.Relation

/-!
# How the store evolves

Every transaction of the repository is a sequence of *edits* of single tables, and each
edit changes rows in one direction only: a run keeps the columns it was inserted with, its
epoch never falls, and once it has ended it stays as it ended; an operation moves along
its life cycle and keeps a response and a result; a control that is no longer pending has
its last word. `Db.Edit` lists the edits with these side conditions, and the theorems
`…_edits` say that each transaction is made of them. What every edit preserves is then
proved by induction on edits, once, and not transaction by transaction.

An edit is **quiet** when it leaves alone what the arbitration between humans and workers
is about: the status, the stop request and the revision of the diagnoses, the revision of
the incidents and the operations. Most transactions are quiet.
-/

namespace IncidentAgent

/-! ### Rows that advance -/

/-- Two rows that agree once some columns are erased agree on every column that is not
erased. -/
theorem column_eq {α β : Type} {erase : α → α} {a b : α} (h : erase b = erase a) (f : α → β)
    (hf : ∀ r, f (erase r) = f r) : f b = f a := by
  rw [← hf b, ← hf a, h]

/-- The columns of a run that no statement updates: the others are erased. -/
def Run.fixed (r : Run) : Run :=
  { r with
    status := .queued
    finishedAt := none
    lastError := none
    attempt := 0
    attemptBase := 0
    leaseOwner := none
    leaseEpoch := 0
    leaseExpiresAt := none
    nextRetryAt := none
    checkpointStarted := false
    approvalPayload := none
    outputSnapshot := none
    interactionProgress := .null
    eventRevision := 0
    stopRequested := false
    invalidatedAt := none
    questionPayload := none
    answerPayload := none
    adoptedMessageIds := [] }

/-- The statuses of a run that waits for a human. -/
def RunStatus.waiting : RunStatus → Bool
  | .waitingUser | .waitingApproval => true
  | _ => false

/-- **How a run advances** in a transaction evaluated at `now`. A lease that no longer owns
its run does not come back: under one epoch, a run that runs was running before, for the
same owner, and its expiry moved only before it had passed. Only a diagnosis comes to wait
for a human, and what is published of a run is published once, when it has ended. -/
structure Run.Advances (now : Nat) (a b : Run) : Prop where
  fixed : b.fixed = a.fixed
  epoch : a.leaseEpoch ≤ b.leaseEpoch
  ended : a.status.terminal → b.status = a.status
  stopped : a.stopRequested → b.stopRequested
  invalidated : a.invalidatedAt.isSome → b.invalidatedAt.isSome
  approved : ∀ p ∈ a.approvalPayload, p ∈ b.approvalPayload
  held : b.leaseEpoch = a.leaseEpoch → b.status = .running → a.status = .running ∧
    b.leaseOwner = a.leaseOwner ∧
      (b.leaseExpiresAt = a.leaseExpiresAt ∨ ∃ e ∈ a.leaseExpiresAt, now < e)
  waits : b.status.waiting → b.status = a.status ∨ b.runKind = .diagnosis
  published : ∀ o ∈ a.outputSnapshot, o ∈ b.outputSnapshot
  unpublished : b.status.terminal = false → b.outputSnapshot = a.outputSnapshot

namespace Run.Advances

variable {now : Nat} {a b c : Run}

theorem refl (now : Nat) (a : Run) : a.Advances now a :=
  ⟨rfl, le_refl _, fun _ => rfl, id, id, fun _ h => h, fun _ h => ⟨h, rfl, Or.inl rfl⟩,
    fun _ => Or.inl rfl, fun _ h => h, fun _ => rfl⟩

theorem trans (h : a.Advances now b) (h' : b.Advances now c) : a.Advances now c where
  fixed := h'.fixed.trans h.fixed
  epoch := h.epoch.trans h'.epoch
  ended ha := by rw [h'.ended (by rwa [h.ended ha]), h.ended ha]
  stopped ha := h'.stopped (h.stopped ha)
  invalidated ha := h'.invalidated (h.invalidated ha)
  approved p hp := h'.approved p (h.approved p hp)
  held he hr := by
    have hbc : c.leaseEpoch = b.leaseEpoch := le_antisymm (he ▸ h.epoch) h'.epoch
    have hab : b.leaseEpoch = a.leaseEpoch := hbc.symm.trans he
    obtain ⟨hb, howner', hexp'⟩ := h'.held hbc hr
    obtain ⟨ha, howner, hexp⟩ := h.held hab hb
    refine ⟨ha, howner'.trans howner, ?_⟩
    rcases hexp' with hexp' | hnow
    · rcases hexp with hexp | hnow
      · exact Or.inl (hexp'.trans hexp)
      · exact Or.inr hnow
    · rcases hexp with hexp | hnow'
      · exact Or.inr (hexp ▸ hnow)
      · exact Or.inr hnow'
  waits hw := by
    rcases h'.waits hw with hsame | hkind
    · rcases h.waits (hsame ▸ hw) with hsame' | hkind
      · exact Or.inl (hsame.trans hsame')
      · exact Or.inr ((column_eq h'.fixed Run.runKind fun _ => rfl).trans hkind)
    · exact Or.inr hkind
  published o ho := h'.published o (h.published o ho)
  unpublished hc := by
    have hb : b.status.terminal = false := by
      by_contra hb
      rw [Bool.not_eq_false] at hb
      rw [h'.ended hb, hb] at hc
      cases hc
    exact (h'.unpublished hc).trans (h.unpublished hb)

theorem runId (h : a.Advances now b) : b.runId = a.runId := column_eq h.fixed Run.runId fun _ => rfl

theorem incidentId (h : a.Advances now b) : b.incidentId = a.incidentId :=
  column_eq h.fixed Run.incidentId fun _ => rfl

theorem runKind (h : a.Advances now b) : b.runKind = a.runKind :=
  column_eq h.fixed Run.runKind fun _ => rfl

theorem createdAt (h : a.Advances now b) : b.createdAt = a.createdAt :=
  column_eq h.fixed Run.createdAt fun _ => rfl

theorem idempotency (h : a.Advances now b) : b.idempotency = a.idempotency :=
  column_eq h.fixed Run.idempotency fun _ => rfl

/-- An update that keeps the fixed columns, the epoch, the status, the requests to stop,
the approval, the lease and the output is an advance. -/
theorem of_quiet (hfixed : b.fixed = a.fixed) (hepoch : b.leaseEpoch = a.leaseEpoch)
    (hstatus : b.status = a.status) (hstop : b.stopRequested = a.stopRequested)
    (hinv : b.invalidatedAt = a.invalidatedAt) (happ : b.approvalPayload = a.approvalPayload)
    (howner : b.leaseOwner = a.leaseOwner) (hexp : b.leaseExpiresAt = a.leaseExpiresAt)
    (hout : b.outputSnapshot = a.outputSnapshot) : a.Advances now b :=
  ⟨hfixed, hepoch.ge, fun _ => hstatus, by rw [hstop]; exact id, by rw [hinv]; exact id,
    by rw [happ]; exact fun _ h => h,
    fun _ h => ⟨hstatus ▸ h, howner, Or.inl hexp⟩, fun _ => Or.inl hstatus,
    by rw [hout]; exact fun _ h => h, fun _ => hout⟩

/-- An update of an active run that leaves it not running is an advance, if it keeps the
fixed columns, the epoch and the approval, forgets no request to stop, makes no
interaction wait, and publishes once and at the end. -/
theorem of_parked (hactive : a.status.terminal = false) (hfixed : b.fixed = a.fixed)
    (hepoch : b.leaseEpoch = a.leaseEpoch) (hstop : a.stopRequested → b.stopRequested)
    (hinv : a.invalidatedAt.isSome → b.invalidatedAt.isSome)
    (happ : ∀ p ∈ a.approvalPayload, p ∈ b.approvalPayload) (hrun : b.status ≠ .running)
    (hwait : b.status.waiting → b.runKind = .diagnosis)
    (hout : ∀ o ∈ a.outputSnapshot, o ∈ b.outputSnapshot)
    (hopen : b.status.terminal = false → b.outputSnapshot = a.outputSnapshot) :
    a.Advances now b :=
  ⟨hfixed, hepoch.ge, fun h => by simp [hactive] at h, hstop, hinv, happ,
    fun _ h => absurd h hrun, fun h => Or.inr (hwait h), hout, hopen⟩

/-- The output of a run that has ended is published. -/
theorem of_published (hended : a.status.terminal = true) {output : Option Json}
    (hout : ∀ o ∈ a.outputSnapshot, o ∈ output) :
    a.Advances now { a with outputSnapshot := output } :=
  { Run.Advances.refl now a with
    fixed := rfl
    published := hout
    unpublished := fun h => by simp [hended] at h }

end Run.Advances

/-- The columns of an incident that no statement updates. -/
def Incident.fixed (i : Incident) : Incident := { i with phase := "", eventRevision := 0 }

/-- How an incident advances. -/
structure Incident.Advances (a b : Incident) : Prop where
  fixed : b.fixed = a.fixed
  revision : a.eventRevision ≤ b.eventRevision

theorem Incident.Advances.refl (a : Incident) : a.Advances a := ⟨rfl, le_refl _⟩

theorem Incident.Advances.trans {a b c : Incident} (h : a.Advances b) (h' : b.Advances c) :
    a.Advances c :=
  ⟨h'.fixed.trans h.fixed, h.revision.trans h'.revision⟩

theorem Incident.Advances.incidentId {a b : Incident} (h : a.Advances b) :
    b.incidentId = a.incidentId :=
  column_eq h.fixed Incident.incidentId fun _ => rfl

/-- The life cycle of an operation: the states that a state may lead to. -/
def OperationState.leads : OperationState → OperationState → Bool
  | .prepared, _ => true
  | .dispatching, b => b ≠ .prepared
  | .rejected, b => b = .rejected
  | .outcomeUnknown, b => b = .outcomeUnknown ∨ b = .manualRequired
  | .succeeded, b => b = .succeeded ∨ b = .reconciled ∨ b = .manualRequired
  | .reconciled, b => b = .reconciled ∨ b = .manualRequired
  | .manualRequired, b => b = .manualRequired

theorem OperationState.leads_refl (a : OperationState) : a.leads a = true := by
  cases a <;> rfl

theorem OperationState.leads_trans {a b c : OperationState} (h : a.leads b = true)
    (h' : b.leads c = true) : a.leads c = true := by
  revert h h'
  cases a <;> cases b <;> cases c <;> decide

/-- What `record` allows is in the life cycle. -/
theorem recordAllowed_leads {state current : OperationState}
    (h : recordAllowed state current = true) : current.leads state = true := by
  revert h
  cases state <;> cases current <;> decide

/-- The columns of an operation that no statement updates. -/
def Operation.fixed (o : Operation) : Operation :=
  { o with
    state := .prepared
    leaseEpoch := 0
    responseSnapshot := none
    observedSnapshot := none
    result := none
    attribution := .notEstablished
    errorCode := none }

/-- How an operation advances. -/
structure Operation.Advances (a b : Operation) : Prop where
  fixed : b.fixed = a.fixed
  state : a.state.leads b.state
  response : ∀ r ∈ a.responseSnapshot, r ∈ b.responseSnapshot
  result : ∀ r ∈ a.result, r ∈ b.result

theorem Operation.Advances.refl (a : Operation) : a.Advances a :=
  ⟨rfl, a.state.leads_refl, fun _ h => h, fun _ h => h⟩

theorem Operation.Advances.trans {a b c : Operation} (h : a.Advances b) (h' : b.Advances c) :
    a.Advances c :=
  ⟨h'.fixed.trans h.fixed, OperationState.leads_trans h.state h'.state,
    fun r hr => h'.response r (h.response r hr), fun r hr => h'.result r (h.result r hr)⟩

theorem Operation.Advances.runId {a b : Operation} (h : a.Advances b) : b.runId = a.runId :=
  column_eq h.fixed Operation.runId fun _ => rfl

/-- The columns of a control that no statement updates. -/
def Control.fixed (c : Control) : Control :=
  { c with status := .saved, result := .control .stop "" false none }

/-- How a control advances: only a pending one does, and then it is pending no more. -/
structure Control.Advances (a b : Control) : Prop where
  fixed : b.fixed = a.fixed
  settled : a.status ≠ .pending → b = a
  pending : b.status = .pending → b = a

theorem Control.Advances.refl (a : Control) : a.Advances a := ⟨rfl, fun _ => rfl, fun _ => rfl⟩

theorem Control.Advances.trans {a b c : Control} (h : a.Advances b) (h' : b.Advances c) :
    a.Advances c where
  fixed := h'.fixed.trans h.fixed
  settled ha := by
    have hb := h.settled ha
    rw [h'.settled (by rwa [hb]), hb]
  pending hc := by
    have hcb := h'.pending hc
    rw [hcb, h.pending (by rwa [← hcb])]

theorem Control.Advances.controlId {a b : Control} (h : a.Advances b) :
    b.controlId = a.controlId :=
  column_eq h.fixed Control.controlId fun _ => rfl

/-- What the arbitration between humans and workers reads in a run. -/
def Run.core (r : Run) : RunStatus × Bool × Option Nat × Nat :=
  (r.status, r.stopRequested, r.invalidatedAt, r.eventRevision)

/-! ### Edits -/

/-- An interaction that only reads history: a question to explain or to compare. -/
def Run.historical (r : Run) : Bool :=
  r.inputPayload.hasText "intent" "explain" || r.inputPayload.hasText "intent" "compare"

/-- Whether a diagnosis of the incident has not ended. -/
def Db.activeDiagnosis (db : Db) (incidentId : String) : Prop :=
  ∃ r ∈ db.runs, r.incidentId = incidentId ∧ r.runKind = .diagnosis ∧ r.active

/-- What an accepted round has found: the incident, where no interaction is active, the
message it is for, and the latest diagnosis, which has ended, is older than the transaction,
and has no later message. -/
structure RoundInsert (tx : Tx) (db : Db) (incident : Incident) (message : Message) : Prop where
  found : db.incident? incident.incidentId = some incident
  idle : ¬ db.activeInteraction incident.incidentId
  saved : message ∈ db.messages
  ofIncident : message.incidentId = incident.incidentId
  ofUser : message.role = .user
  newer : ∀ p ∈ db.latest incident.incidentId, p.inputMessageSequence.getD 0 < message.sequence
  ended : ∀ p ∈ db.latest incident.incidentId, p.active = false
  older : ∀ p ∈ db.latest incident.incidentId, p.createdAt < tx.start
  resolved : ¬ db.unresolvedOperation incident.incidentId

/-- The condition under which an insertion into `runs` meets its constraints. -/
def Db.Insertable (db : Db) (r : Run) : Prop :=
  (∀ k ∈ r.idempotency, ∀ s ∈ db.runs, s.idempotency ≠ some k) ∧ db.RunConstraints r

/-- **How a run comes into being**: as the first diagnosis of a new incident, as a round, or
as an interaction. -/
inductive Db.Opens (env : Env) (tx : Tx) (db : Db) : Run → Prop
  | first {incidentId runId threadId : String} {payload : IncidentRequest}
      {key : Option String} {dialogue : Bool}
      (hi : db.IncidentConstraints (Incident.initial incidentId threadId payload)) :
      Db.Opens env tx db (Run.first env tx incidentId runId threadId payload key dialogue)
  | round {incident : Incident} {message : Message} {key : String} {context : Json}
      (h : RoundInsert tx db incident message) :
      Db.Opens env tx db (Run.round env tx incident (db.latest incident.incidentId) message key
        (env.requestDigest (.obj [("message_id", .str message.messageId)])) context)
  | interaction {r : Run} (hkind : r.runKind = .interaction) (hcreated : r.createdAt = tx.start)
      (hqueued : r.status = .queued) (hout : r.outputSnapshot = none) (hsource : r.sourceMessageId = none)
      (hscope : ∀ i k, r.idempotency ≠ some (roundScope i, k))
      (hlane : r.historical = false → ¬ db.activeDiagnosis r.incidentId)
      (hr : db.Insertable r) : Db.Opens env tx db r

/-- The key of the round that a control starts. -/
def Control.key (c : Control) : String × String :=
  (roundScope c.incidentId, "control-" ++ c.controlId)

/-- A control that waits to be started: it stands on a diagnosis of its incident, and the
user has said something since. -/
def Control.Stands (db : Db) (c : Control) : Prop :=
  (∃ action deferred, c.result = .control action c.parentRunId deferred none) ∧
  ∃ p ∈ db.runs, p.runId = c.parentRunId ∧ p.incidentId = c.incidentId ∧
    p.runKind = .diagnosis ∧
    ∃ m ∈ db.messages, m.incidentId = c.incidentId ∧ m.role = .user ∧
      p.inputMessageSequence.getD 0 < m.sequence

/-- What the insertion of a control has found: an identifier that no key of a round names
yet, and for a control that waits, that no other one of its incident does. -/
structure ControlInsert (tx : Tx) (db : Db) (c : Control) : Prop where
  constraints : db.ControlConstraints c
  drawn : c.controlId = tx.controlId
  unnamed : ∀ r ∈ db.runs, r.idempotency ≠ some c.key
  unstarted : c.status ≠ .started
  alone : c.status = .pending → ∀ d ∈ db.controls, d.incidentId = c.incidentId →
    d.status ≠ .pending
  stands : c.status = .pending → c.Stands db

/-- The round that a control has started: its child. -/
def Control.Launched (db : Db) (c : Control) : Prop :=
  ∃ r ∈ db.runs, r.idempotency = some c.key ∧ r.parentRunId = some c.parentRunId ∧
    ∃ action, c.result = .control action c.parentRunId false (some r.runId)

/-- An edit of one table by a transaction. -/
inductive Db.Edit (env : Env) (tx : Tx) (quiet : Bool) : Db → Db → Prop
  | incidents {db : Db} {p : Incident → Bool} {f : Incident → Incident}
      (h : ∀ i : Incident, i.Advances (f i))
      (hq : quiet → ∀ i, (f i).eventRevision = i.eventRevision) :
      Db.Edit env tx quiet db { db with incidents := Table.updateWhere p f db.incidents }
  | incident {db : Db} {i : Incident} (h : db.IncidentConstraints i) :
      Db.Edit env tx quiet db { db with incidents := db.incidents ++ [i] }
  | runs {db : Db} {p : Run → Bool} {f : Run → Run}
      (h : ∀ r ∈ db.runs, p r = true → r.Advances tx.now (f r))
      (hq : quiet → ∀ r ∈ db.runs, p r = true → r.runKind = .diagnosis → (f r).core = r.core) :
      Db.Edit env tx quiet db { db with runs := Table.updateWhere p f db.runs }
  /-- The first diagnosis is inserted with its incident. -/
  | first {db : Db} {incidentId runId threadId : String} {payload : IncidentRequest}
      {key : Option String} {dialogue : Bool}
      (hi : db.IncidentConstraints (Incident.initial incidentId threadId payload))
      (hr : Db.Insertable { db with
        incidents := db.incidents ++ [Incident.initial incidentId threadId payload] }
        (Run.first env tx incidentId runId threadId payload key dialogue)) :
      Db.Edit env tx quiet db { db with
        incidents := db.incidents ++ [Incident.initial incidentId threadId payload]
        runs := db.runs ++ [Run.first env tx incidentId runId threadId payload key dialogue] }
  | run {db : Db} {r : Run} (ho : db.Opens env tx r) (hr : db.Insertable r) :
      Db.Edit env tx quiet db { db with runs := db.runs ++ [r] }
  | message {db : Db} {m : Message} (h : db.MessageConstraints m) :
      Db.Edit env tx quiet db { db with messages := db.messages ++ [m] }
  | operations {db : Db} {p : Operation → Bool} {f : Operation → Operation} (hq : quiet = false)
      (h : ∀ o ∈ db.operations, p o = true → o.Advances (f o)) :
      Db.Edit env tx quiet db { db with operations := Table.updateWhere p f db.operations }
  | operation {db : Db} {o : Operation} (hq : quiet = false) (h : db.OperationConstraints o)
      (hr : ∃ r ∈ db.runs, r.runId = o.runId ∧ r.incidentId = o.incidentId ∧
        r.runKind = .diagnosis) :
      Db.Edit env tx quiet db { db with operations := db.operations ++ [o] }
  | controls {db : Db} {p : Control → Bool} {f : Control → Control}
      (h : ∀ c ∈ db.controls, p c = true → c.Advances (f c))
      (hs : ∀ c ∈ db.controls, p c = true → (f c).status = .started → (f c).Launched db) :
      Db.Edit env tx quiet db { db with controls := Table.updateWhere p f db.controls }
  | control {db : Db} {c : Control} (h : ControlInsert tx db c) :
      Db.Edit env tx quiet db { db with controls := db.controls ++ [c] }
  /-- A recheck is bound to the interaction that carries it out. -/
  | bind {db : Db} {delayedId : String} {f : DelayedRecheck → DelayedRecheck} {id : String}
      (hf : ∀ d, (f d).fixed = d.fixed ∧ (f d).runId = some id ∧ (f d).status = .running)
      (hd : ∀ d ∈ db.delayed, d.delayedId = delayedId → d.status = .pending ∧ d.runId = none)
      (hr : ∃ r ∈ db.runs, r.runId = id ∧ r.runKind = .interaction ∧
        ∀ d ∈ db.delayed, d.delayedId = delayedId → d.incidentId = r.incidentId) :
      Db.Edit env tx quiet db (db.updateDelayed delayedId f)
  | side {db db' : Db} (h : SideOnly db db') : Db.Edit env tx quiet db db'

/-- A sequence of edits. -/
abbrev Db.Edits (env : Env) (tx : Tx) (quiet : Bool) : Db → Db → Prop :=
  Relation.ReflTransGen (Db.Edit env tx quiet)

/-! ### Growth -/

/-- What an edit does to the tables: their rows advance, and new rows are appended. -/
structure Db.Growth (env : Env) (tx : Tx) (db db' : Db) : Prop where
  incidents : Table.Grows Incident.Advances (fun _ => True) db.incidents db'.incidents
  runs : Table.Grows (Run.Advances tx.now)
    (fun r => db.Opens env tx r ∧ ∃ i ∈ db'.incidents, i.incidentId = r.incidentId)
    db.runs db'.runs
  messages : Table.Grows Eq (fun _ => True) db.messages db'.messages
  operations : Table.Grows Operation.Advances
    (fun o => ∃ r ∈ db.runs, r.runId = o.runId ∧ r.incidentId = o.incidentId ∧
      r.runKind = .diagnosis)
    db.operations db'.operations
  controls : Table.Grows Control.Advances (fun c => ControlInsert tx db c ∧ db'.runs = db.runs)
    db.controls db'.controls
  delayed : Table.Grows DelayedRecheck.Advances (fun d => d.runId = none) db.delayed db'.delayed

/-- A database grows into itself. -/
theorem Db.Growth.refl (env : Env) (tx : Tx) (db : Db) : Db.Growth env tx db db :=
  ⟨.refl Incident.Advances.refl _, .refl (Run.Advances.refl _) _, .refl (fun _ => rfl) _,
    .refl Operation.Advances.refl _, .refl Control.Advances.refl _,
    .refl DelayedRecheck.Advances.refl _⟩

/-- The home of a new run that meets its constraints. -/
theorem Db.Insertable.home {db : Db} {r : Run} (h : db.Insertable r) :
    ∃ i ∈ db.incidents, i.incidentId = r.incidentId :=
  h.2.2.2.2.1

/-- **An edit grows the tables.** -/
theorem Db.Edit.grows {env : Env} {tx : Tx} {quiet : Bool} {db db' : Db}
    (h : Db.Edit env tx quiet db db') : Db.Growth env tx db db' := by
  have hrefl := Db.Growth.refl env tx db
  cases h with
  | incidents h _ =>
    exact { hrefl with
      incidents := .updateWhere Incident.Advances.refl fun i _ _ => h i
      runs := .refl (Run.Advances.refl _) _ }
  | incident h =>
    exact { hrefl with
      incidents := .insert Incident.Advances.refl trivial _
      runs := .refl (Run.Advances.refl _) _ }
  | runs h _ =>
    exact { hrefl with
      runs := .updateWhere (Run.Advances.refl _) h
      controls := .refl Control.Advances.refl _ }
  | first hi hr =>
    exact { hrefl with
      incidents := .insert Incident.Advances.refl trivial _
      runs := .insert (Run.Advances.refl _) ⟨.first hi, hr.home⟩ _
      controls := .refl Control.Advances.refl _ }
  | run ho hr =>
    exact { hrefl with
      runs := .insert (Run.Advances.refl _) ⟨ho, hr.home⟩ _
      controls := .refl Control.Advances.refl _ }
  | message _ => exact { hrefl with messages := .insert (fun _ => rfl) trivial _ }
  | operations _ h => exact { hrefl with operations := .updateWhere Operation.Advances.refl h }
  | operation _ _ hr => exact { hrefl with operations := .insert Operation.Advances.refl hr _ }
  | controls h _ => exact { hrefl with controls := .updateWhere Control.Advances.refl h }
  | control h => exact { hrefl with controls := .insert Control.Advances.refl ⟨h, rfl⟩ _ }
  | @bind delayedId f id hf hd hr =>
    refine { hrefl with delayed := ?_ }
    refine .updateWhere DelayedRecheck.Advances.refl fun d hmem hp => ?_
    obtain ⟨hpending, hnone⟩ := hd d hmem (by simpa using hp)
    obtain ⟨hfixed, -, hstatus⟩ := hf d
    exact ⟨hfixed, fun h => by simp [hpending, DelayedStatus.ended] at h,
      fun i hi => by simp [hnone] at hi, Or.inr ⟨hpending, hnone⟩,
      fun h => by simp [hstatus] at h⟩
  | side h =>
    have hdelayed := h.delayed.mono (fun _ _ => DelayedRecheck.Keeps.advances) fun _ => id
    obtain ⟨⟨_, _, _, _, rfl⟩, -⟩ := h
    exact { hrefl with delayed := hdelayed }

/-! ### Keys -/

/-- The keys of the tables are unique. -/
structure Db.Keys (db : Db) : Prop where
  incidents : Table.Keyed Incident.incidentId db.incidents
  runs : Table.Keyed Run.runId db.runs
  operations : Table.Keyed Operation.runId db.operations
  messages : Table.Keyed Message.messageId db.messages
  controls : Table.Keyed Control.controlId db.controls
  idempotency : ∀ r ∈ db.runs, ∀ s ∈ db.runs, ∀ k, r.idempotency = some k →
    s.idempotency = some k → r = s
  sources : ∀ r ∈ db.runs, ∀ s ∈ db.runs, ∀ m, r.sourceMessageId = some m →
    s.sourceMessageId = some m → r = s

theorem Db.keys_empty : Db.empty.Keys :=
  ⟨Table.keyed_nil, Table.keyed_nil, Table.keyed_nil, Table.keyed_nil, Table.keyed_nil,
    by simp [Db.empty], by simp [Db.empty]⟩

/-- A column of which no two runs share a value keeps that property when a run is inserted
with a new value or with none. -/
theorem unique_insert {β : Type} {col : Run → Option β} {t : List Run} {r : Run}
    (h : ∀ a ∈ t, ∀ b ∈ t, ∀ k, col a = some k → col b = some k → a = b)
    (hr : ∀ k ∈ col r, ∀ s ∈ t, col s ≠ some k) :
    ∀ a ∈ t ++ [r], ∀ b ∈ t ++ [r], ∀ k, col a = some k → col b = some k → a = b := by
  intro a ha b hb k hak hbk
  rcases List.mem_append.1 ha with ha | ha <;> rcases List.mem_append.1 hb with hb | hb
  · exact h a ha b hb k hak hbk
  · rw [List.mem_singleton.1 hb] at hbk
    exact absurd hak (hr k hbk a ha)
  · rw [List.mem_singleton.1 ha] at hak
    exact absurd hbk (hr k hak b hb)
  · rw [List.mem_singleton.1 ha, List.mem_singleton.1 hb]

/-- Such a column keeps that property when an update of a keyed table leaves it alone. -/
theorem unique_update {β : Type} {col : Run → Option β} {t : List Run} {p : Run → Bool}
    {f : Run → Run} (hf : ∀ r ∈ t, p r = true → col (f r) = col r)
    (h : ∀ a ∈ t, ∀ b ∈ t, ∀ k, col a = some k → col b = some k → a = b) :
    ∀ a ∈ Table.updateWhere p f t, ∀ b ∈ Table.updateWhere p f t, ∀ k, col a = some k →
      col b = some k → a = b := by
  have hcol : ∀ r ∈ t, col (if p r then f r else r) = col r := by
    intro r hr
    by_cases hp : p r = true
    · simpa [hp] using hf r hr hp
    · simp [hp]
  intro a ha b hb k hak hbk
  obtain ⟨a', ha', rfl⟩ := Table.mem_updateWhere.1 ha
  obtain ⟨b', hb', rfl⟩ := Table.mem_updateWhere.1 hb
  rw [hcol a' ha'] at hak
  rw [hcol b' hb'] at hbk
  rw [h a' ha' b' hb' k hak hbk]

/-- The insertion of a run that meets its constraints keeps the keys unique. -/
theorem Db.Keys.insertRun {db : Db} (h : db.Keys) {r : Run} (hr : db.Insertable r) :
    Db.Keys { db with runs := db.runs ++ [r] } :=
  { h with
    runs := h.runs.insert fun s hs => (hr.2.1 s hs).1
    idempotency := unique_insert h.idempotency hr.1
    sources := unique_insert h.sources hr.2.2.1 }

/-- **Edits keep the keys unique.** -/
theorem Db.Edit.keys {env : Env} {tx : Tx} {quiet : Bool} {db db' : Db}
    (h : Db.Edit env tx quiet db db') (hk : db.Keys) : db'.Keys := by
  cases h with
  | incidents h _ =>
    exact { hk with incidents := hk.incidents.updateWhere fun i _ _ => (h i).incidentId }
  | incident h => exact { hk with incidents := hk.incidents.insert fun j hj => (h j hj).1 }
  | runs h _ =>
    exact { hk with
      runs := hk.runs.updateWhere fun r hr hp => (h r hr hp).runId
      idempotency := unique_update (fun r hr hp => (h r hr hp).idempotency) hk.idempotency
      sources := unique_update
        (fun r hr hp => column_eq (h r hr hp).fixed Run.sourceMessageId fun _ => rfl) hk.sources }
  | @first incidentId _ threadId payload _ _ hi hr =>
    have hk' : Db.Keys { db with
        incidents := db.incidents ++ [Incident.initial incidentId threadId payload] } :=
      { hk with incidents := hk.incidents.insert fun j hj => (hi j hj).1 }
    exact hk'.insertRun hr
  | run _ hr => exact hk.insertRun hr
  | message h => exact { hk with messages := hk.messages.insert h.2.2.1 }
  | operations _ h =>
    exact { hk with operations := hk.operations.updateWhere fun o ho hp => (h o ho hp).runId }
  | operation _ h _ =>
    exact { hk with operations := hk.operations.insert fun o ho => (h.1 o ho).2 }
  | controls h _ =>
    exact { hk with controls := hk.controls.updateWhere fun c hc hp => (h c hc hp).controlId }
  | control h =>
    exact { hk with controls := hk.controls.insert fun c hc => (h.constraints.1 c hc).1 }
  | bind _ _ _ => exact { hk with }
  | side h =>
    obtain ⟨⟨_, _, _, _, rfl⟩, -⟩ := h
    exact { hk with }

theorem Db.Edits.keys {env : Env} {tx : Tx} {quiet : Bool} {db db' : Db}
    (h : Db.Edits env tx quiet db db') (hk : db.Keys) : db'.Keys := by
  induction h with
  | refl => exact hk
  | tail _ h ih => exact h.keys ih

/-- A row that is found by its key is the row of the table with that key. -/
theorem Db.Keys.run?_eq {db : Db} (h : db.Keys) {r : Run} (hr : r ∈ db.runs) :
    db.run? r.runId = some r :=
  h.runs.find?_eq hr

theorem Db.mem_of_run? {db : Db} {id : String} {r : Run} (h : db.run? id = some r) :
    r ∈ db.runs ∧ r.runId = id :=
  ⟨List.mem_of_find?_eq_some h, by simpa using List.find?_some h⟩

theorem Db.mem_of_operation? {db : Db} {id : String} {o : Operation}
    (h : db.operation? id = some o) : o ∈ db.operations ∧ o.runId = id :=
  ⟨List.mem_of_find?_eq_some h, by simpa using List.find?_some h⟩

theorem Db.Keys.operation?_eq {db : Db} (h : db.Keys) {o : Operation} (ho : o ∈ db.operations) :
    db.operation? o.runId = some o :=
  h.operations.find?_eq ho

theorem Db.mem_of_incident? {db : Db} {id : String} {i : Incident}
    (h : db.incident? id = some i) : i ∈ db.incidents ∧ i.incidentId = id :=
  ⟨List.mem_of_find?_eq_some h, by simpa using List.find?_some h⟩

theorem Db.Keys.incident?_eq {db : Db} (h : db.Keys) {i : Incident} (hi : i ∈ db.incidents) :
    db.incident? i.incidentId = some i :=
  h.incidents.find?_eq hi

theorem Db.mem_of_control? {db : Db} {id : String} {c : Control}
    (h : db.control? id = some c) : c ∈ db.controls ∧ c.controlId = id :=
  ⟨List.mem_of_find?_eq_some h, by simpa using List.find?_some h⟩

theorem Db.Keys.control?_eq {db : Db} (h : db.Keys) {c : Control} (hc : c ∈ db.controls) :
    db.control? c.controlId = some c :=
  h.controls.find?_eq hc


end IncidentAgent
