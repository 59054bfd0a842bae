import IncidentAgent.Executor.Journal
import IncidentAgent.Lib.Guarantee
import IncidentAgent.System.Invariant

/-!
# Executors in one system

Any number of executors run in one system with all its clients and workers, each under a lease that
was granted. Their transactions commit, raise, or are lost on the way and commit later; they crash
between any two queries, and another executor takes the run over. What they have sent is remembered
in the order of sending, whatever the API server has answered and whether it has answered at all.

The invariant, `Writes.Orderly`, ties what was sent to the journal: a patch is sent by the executor
that has dispatched the operation of the run, and dispatching leaves the one state in which it is
possible. A step of the system keeps it because of what a request does to the journal
(`transact_journal`), and a query of an executor because the request that it makes is faithful.
-/

namespace IncidentAgent

/-! ### The system -/

/-- A patch that was sent. -/
structure PatchCall where
  executor : Nat
  lease : Lease
  /-- The state of the graph that is executed. -/
  state : Json
  /-- What the executor has read of the target. -/
  seen : Option Json
  kind : ResourceKind
  namespaceName : String
  name : String
  body : List PatchOp
  deriving DecidableEq

/-- What the executors share: the system, the runs that they have dispatched, and the patches that
they have sent, the last ones first. -/
structure Writes (σ : Type) where
  sys : Sys σ
  dispatches : List (String × Nat)
  calls : List PatchCall

/-- What an executor is there for. -/
inductive LedgerJob
  | execute (state : Json)
  | reconcile

/-- An executor, and what it has read. -/
structure Executor where
  id : Nat
  lease : Lease
  job : LedgerJob
  seen : Option Json

/-- The choices of the world: how a transaction is evaluated, and whether its answer is lost. -/
structure LedgerChoice where
  asked : Nat
  draw : Draw
  skipped : List String
  lost : Bool

/-- The transaction of a query. -/
def LedgerQuery.request? (lease : Lease) : LedgerQuery → Option Request
  | .assertOwned => some (.assertOwned lease)
  | .prepare args => some (.prepare lease args)
  | .dispatch operationId => some (.dispatch lease operationId)
  | .record state args => some (.record lease state args)
  | _ => none

/-- Whether an answer tells how a transaction ended. Any exception may stand for a lost one. -/
def LedgerQuery.tells : (q : LedgerQuery) → Except LedgerError q.Answer →
    Option (Except Failure Response) → Bool
  | _, .error _, none => true
  | _, .error e, some (.error failure) => e = .store failure
  | .prepare _, .ok o, some (.ok (.operation o')) => o = o'
  | .assertOwned, .ok _, some (.ok .done) => true
  | .dispatch _, .ok _, some (.ok .done) => true
  | .record _ _, .ok _, some (.ok .done) => true
  | _, _, _ => false

namespace Writes

variable {σ : Type} (env : Env) (lib : LedgerLibrary)

/-- A transaction of an executor: it is opened, and it is evaluated, or its answer is lost and it
stays open. None of these transactions reads its start, so that it may be evaluated at once. -/
def transacted (c : LedgerChoice) (s : Sys σ) (request : Request) :
    Option (Option (Except Failure Response) × Sys σ) :=
  (Sys.next env s (.begin request)).bind fun opened =>
    if c.lost then some (none, opened)
    else (Sys.next env opened (.commit s.transactions.length c.asked c.draw c.skipped)).map
      fun s' => (some ((transact env (opened.tx ⟨s.now, request⟩ c.asked c.draw) c.skipped request
        opened.db).map Prod.fst), s')

/-- The dispatches after a query. -/
def dispatched (s : Writes σ) (l : Executor) : (q : LedgerQuery) → Except LedgerError q.Answer →
    List (String × Nat)
  | .dispatch _, .ok _ => (l.lease.row.runId, l.id) :: s.dispatches
  | _, _ => s.dispatches

/-- The state that an executor executes. -/
def LedgerJob.state : LedgerJob → Json
  | .execute state => state
  | .reconcile => .null

/-- **A query of an executor** and its answer. A patch is sent whatever is answered. -/
def perform (c : LedgerChoice) (s : Writes σ) (l : Executor) (q : LedgerQuery)
    (a : Except LedgerError q.Answer) : Option (Writes σ × Executor) :=
  match q.request? l.lease with
  | some request => (transacted env c s.sys request).bind fun r =>
      if q.tells a r.1 then some ({ s with sys := r.2, dispatches := s.dispatched l q a }, l)
      else none
  | none =>
    match q, a with
    | .patch kind namespaceName name body, _ =>
      let call : PatchCall :=
        ⟨l.id, l.lease, LedgerJob.state l.job, l.seen, kind, namespaceName, name, body⟩
      some ({ s with calls := call :: s.calls }, l)
    | .readTarget _ _ _, .ok resource => some (s, { l with seen := some resource })
    | .operation, .ok operation =>
      if operation = s.sys.db.operation? l.lease.row.runId then some (s, l) else none
    | _, _ => some (s, l)

/-- What the other clients and workers ask: no writes, and no outcomes but that a human has to look
at a write. -/
def outside : Request → Bool
  | .prepare _ _ | .dispatch _ _ => false
  | .record _ state args => state = .manualRequired ∧ args.attribution = .notEstablished ∧
      args.code ≠ some supersededCode
  | _ => true

/-- An event of the system that no executor takes part in. -/
def move (s : Writes σ) (e : Event σ) : Option (Writes σ) :=
  match e with
  | .begin request => if outside request then
      (Sys.next env s.sys (.begin request)).map fun sys => { s with sys := sys }
    else none
  | e => (Sys.next env s.sys e).map fun sys => { s with sys := sys }

/-- The program of an executor. A reconciliation reads the operation first. -/
def program (l : Executor) : LedgerProg PUnit :=
  match l.job with
  | .execute state => do
    let _ ← Ledger.execute env lib l.lease state
    pure ⟨⟩
  | .reconcile => do
    let operation ← Ledger.ask .operation
    match operation with
    | none => pure ⟨⟩
    | some operation => do
      let _ ← Ledger.reconcile lib operation
      pure ⟨⟩

/-- An executor may begin under a granted lease of a diagnosis, with an identity of its own. -/
def admits (s : Writes σ) (l : Executor) : Bool :=
  l.lease ∈ s.sys.leases ∧ l.lease.row.runKind = .diagnosis ∧ ∀ call ∈ s.calls, call.executor ≠ l.id

end Writes

/-! ### What the journal of a system says -/

namespace Sys

variable {σ : Type} {env : Env} {lib : LedgerLibrary} {s s' : Sys σ}

/-- **A system whose journal is right**, and stays so whatever is open. -/
structure Journaled (env : Env) (lib : LedgerLibrary) (s : Sys σ) : Prop where
  sound : s.Sound env
  faithful : ∀ t ∈ s.transactions, t.request.Faithful env lib s.db
  journaled : ∀ o ∈ s.db.operations, o.Journaled env lib
  /-- The approval of a lease is that of its run. -/
  approved : ∀ lease ∈ s.leases, ∀ saved, lease.row.approvalPayload = some saved →
    ∃ r ∈ s.db.runs, r.runId = lease.row.runId ∧ r.approvalPayload = some saved

/-- What a step does to such a system. -/
structure Moved (env : Env) (lib : LedgerLibrary) (s s' : Sys σ) : Prop where
  journaled : s'.Journaled env lib
  later : Db.Later s.now s.db s'.db
  leases : ∀ lease ∈ s.leases, lease ∈ s'.leases
  moves : s'.db.operations = s.db.operations ∨ ∃ request : Request,
    request.Faithful env lib s.db ∧ s.db.Journals env request s'.db

theorem journaled_start : (start σ).Journaled env lib :=
  ⟨sound_start, by simp [start], by simp [start, Db.empty], by simp [start]⟩

/-- An approval is kept. -/
theorem Journaled.approved_later (h : s.Journaled env lib) (hlater : Db.Later s.now s.db s'.db) :
    ∀ lease ∈ s.leases, ∀ saved, lease.row.approvalPayload = some saved →
      ∃ r ∈ s'.db.runs, r.runId = lease.row.runId ∧ r.approvalPayload = some saved := by
  intro lease hl saved hsaved
  obtain ⟨r, hr, hid, hpayload⟩ := h.approved lease hl saved hsaved
  obtain ⟨r', hr', hadv⟩ := hlater.runs r hr
  exact ⟨r', hr', hadv.runId.trans hid, hadv.approved saved hpayload⟩

/-- **A step keeps the journal right**, if it opens nothing but what is faithful. -/
theorem Journaled.step (h : s.Journaled env lib) {e : Event σ} (hnext : next env s e = some s')
    (hbegin : ∀ request, e = .begin request → request.Faithful env lib s.db) :
    s.Moved env lib s' := by
  obtain ⟨hsound, -, hlater⟩ := h.sound.step hnext
  have happroved := h.approved_later hlater
  have hold : ∀ t ∈ s.transactions, t.request.Faithful env lib s'.db :=
    fun t ht => (h.faithful t ht).later hlater
  have hsame : s'.db = s.db → s'.leases = s.leases →
      (∀ t ∈ s'.transactions, t ∈ s.transactions ∨ t.request.Faithful env lib s.db) →
      s.Moved env lib s' := by
    intro hdb hleases hopen
    refine ⟨⟨hsound, fun t ht => ?_, ?_, ?_⟩, hlater, ?_, Or.inl (by rw [hdb])⟩
    · rcases hopen t ht with ht | hfaithful
      · exact hold t ht
      · rwa [hdb]
    · rw [hdb]
      exact h.journaled
    · rw [hleases]
      exact happroved
    · rw [hleases]
      exact fun _ hl => hl
  cases e with
  | commit index asked draw skipped =>
    obtain ⟨t, ht, -, -, -, -, -, ⟨response, db, hok, rfl⟩ | ⟨_, -, rfl⟩⟩ := next_commit hnext
    · have hjournal := transact_journal h.sound.store.keys h.sound.store.history.rechecks hok
      refine ⟨⟨hsound, fun t' ht' => hold t' (List.mem_of_mem_eraseIdx ht'), ?_, ?_⟩, hlater, ?_,
        Or.inr ⟨t.request, h.faithful t ht, hjournal⟩⟩
      · exact hjournal.journaled h.sound.store.keys (h.faithful t ht) h.journaled
      · intro lease hl saved hsaved
        cases response with
        | lease granted =>
          cases granted with
          | none => exact happroved lease hl saved hsaved
          | some granted =>
            rcases List.mem_cons.1 hl with rfl | hl
            · -- The row of the lease is the one that was claimed.
              obtain ⟨row, hrow, owner, seconds, recoveryOnly, -, -, rfl, rfl⟩ :=
                transact_lease hok
              exact ⟨row.claimed owner seconds recoveryOnly s.now,
                Table.mem_updateWhere_of_pos hrow (decide_eq_true rfl), rfl, hsaved⟩
            · exact happroved lease hl saved hsaved
        | _ => exact happroved lease hl saved hsaved
      · intro lease hl
        cases response with
        | lease granted =>
          cases granted with
          | none => exact hl
          | some granted => exact List.mem_cons_of_mem _ hl
        | _ => exact hl
    · exact hsame rfl rfl fun t' ht' => Or.inl (List.mem_of_mem_eraseIdx ht')
  | elapse duration =>
    obtain rfl := Option.some.inj hnext
    exact hsame rfl rfl fun _ ht => Or.inl ht
  | begin request =>
    simp only [next] at hnext
    split at hnext
    · obtain rfl := Option.some.inj hnext
      refine hsame rfl rfl fun t ht => ?_
      rcases List.mem_append.1 ht with ht | ht
      · exact Or.inl ht
      · rw [List.mem_singleton.1 ht]
        exact Or.inr (hbegin request rfl)
    · cases hnext
  | abort index =>
    obtain rfl := Option.some.inj hnext
    exact hsame rfl rfl fun t ht => Or.inl (List.mem_of_mem_eraseIdx ht)
  | hold lease asked =>
    simp only [next] at hnext
    split at hnext
    · split at hnext
      · obtain rfl := Option.some.inj hnext
        exact hsame rfl rfl fun _ ht => Or.inl ht
      · cases hnext
    · cases hnext
  | write lease value =>
    simp only [next] at hnext
    split at hnext
    · obtain rfl := Option.some.inj hnext
      exact hsame rfl rfl fun _ ht => Or.inl ht
    · cases hnext
  | release lease =>
    obtain rfl := Option.some.inj hnext
    exact hsame rfl rfl fun _ ht => Or.inl ht

end Sys

end IncidentAgent
