import IncidentAgent.Executor.Approval
import IncidentAgent.Executor.Dispatch

/-!
# Every write is approved, and sent once

Whatever the executors of a system are answered, wherever they crash and however their transactions
interleave with each other and with all that clients and workers ask:

* no two patches are sent for one run (`Writes.Orderly.single`), since a patch is sent by the
  executor that dispatched the operation of the run, and an operation is dispatched once;
* a patch that is sent is the one that was journaled, and carries out the plan of the approval that
  is saved in the row of the run, on the target that was read (`PatchCall.Approved`);
* a write that a human has withdrawn is not sent (`Writes.Orderly.withdrawn`);
* the journal says of every write what was answered to it (`Operation.Journaled`).

An executor relies on little: the others do not send in its name, and what is journaled stays.
-/

namespace IncidentAgent

variable {σ : Type} {env : Env} {lib : LedgerLibrary}

/-! ### What is known of a patch -/

/-- **A patch that was sent on an approval**: with the authorization of its state, the operation of
its run, and the resource that was read. -/
structure PatchCall.Carries (env : Env) (lib : LedgerLibrary) (db : Db) (call : PatchCall)
    (auth : ExecutionAuthorization) (o : Operation) : Prop where
  authorized : validateExecutionAuthorization env lib.toExecutionLibrary call.state = .ok auth
  /-- The decision of the human is saved in the row of the run, for this state. -/
  saved : ∃ saved : ApprovalPayload,
    (∃ r ∈ db.runs, r.runId = call.lease.row.runId ∧ r.approvalPayload = some saved) ∧
    saved.decision.approved = true ∧ saved.binding = approvalBinding env call.state ∧
    saved.decision.approvalId = auth.approvalId
  run : o.runId = call.lease.row.runId
  plan : o.planSnapshot = auth.plan ∧ o.approvalId = auth.approvalId
  /-- The target of the plan, and the patch of the journal. -/
  target : call.kind = auth.plan.parameters.resourceKind ∧
    call.namespaceName = auth.plan.parameters.namespaceName ∧
    call.name = auth.plan.parameters.resourceName ∧ call.body = o.requestPatch
  /-- The executor has read the target as it was when the patch was built. -/
  seen : ∃ resource, call.seen = some resource ∧
    targetSnapshot lib auth.plan.parameters resource = .ok o.beforeSnapshot
  uid : textOr o.beforeSnapshot.uid = approvedUid call.state auth.plan.parameters
  prior : o.beforeSnapshot.configuration = priorConfiguration auth.plan

/-- **A patch that was sent as it was approved.** -/
def PatchCall.Approved (env : Env) (lib : LedgerLibrary) (db : Db) (call : PatchCall) : Prop :=
  ∃ auth, ∃ o ∈ db.operations, call.Carries env lib db auth o

theorem PatchCall.Approved.later {db db' : Db} {now : Nat} {call : PatchCall}
    (h : call.Approved env lib db) (hlater : Db.Later now db db') :
    call.Approved env lib db' := by
  obtain ⟨auth, o, ho, hc⟩ := h
  obtain ⟨o', ho', hadv⟩ := hlater.operations o ho
  have hbefore := column_eq hadv.fixed Operation.beforeSnapshot fun _ => rfl
  have hplan := column_eq hadv.fixed Operation.planSnapshot fun _ => rfl
  have happroval := column_eq hadv.fixed Operation.approvalId fun _ => rfl
  have hpatch := column_eq hadv.fixed Operation.requestPatch fun _ => rfl
  refine ⟨auth, o', ho', hc.authorized, ?_, hadv.runId.trans hc.run, ?_, ?_, ?_, ?_, ?_⟩
  · obtain ⟨saved, ⟨r, hr, hid, hpayload⟩, hrest⟩ := hc.saved
    obtain ⟨r', hr', hadv'⟩ := hlater.runs r hr
    exact ⟨saved, ⟨r', hr', hadv'.runId.trans hid, hadv'.approved saved hpayload⟩, hrest⟩
  · rw [hplan, happroval]
    exact hc.plan
  · rw [hpatch]
    exact hc.target
  · rw [hbefore]
    exact hc.seen
  · rw [hbefore]
    exact hc.uid
  · rw [hbefore]
    exact hc.prior

/-- What is past its dispatch stays so. -/
theorem Operation.Advances.unprepared {a b : Operation} (h : a.Advances b)
    (ha : a.state ≠ .prepared) : b.state ≠ .prepared := by
  have hleads := h.state
  revert ha hleads
  cases a.state <;> cases b.state <;> simp [OperationState.leads]

/-! ### The invariant -/

namespace Writes

variable {s s' : Writes σ} {l l' : Executor}

/-- **The invariant of what was sent.** -/
structure Orderly (env : Env) (lib : LedgerLibrary) (s : Writes σ) : Prop where
  sys : s.sys.Journaled env lib
  dispatched : ∀ d ∈ s.dispatches, ∃ o ∈ s.sys.db.operations, o.runId = d.1 ∧ o.state ≠ .prepared
  /-- A run is dispatched once. -/
  once : (s.dispatches.map Prod.fst).Nodup
  /-- What was withdrawn was not dispatched. -/
  withdrawn : ∀ o ∈ s.sys.db.operations, o.errorCode = some supersededCode →
    ∀ d ∈ s.dispatches, d.1 ≠ o.runId
  sent : ∀ call ∈ s.calls, (call.lease.row.runId, call.executor) ∈ s.dispatches
  single : (s.calls.map fun call => call.lease.row.runId).Nodup
  approved : ∀ call ∈ s.calls, call.Approved env lib s.sys.db

/-- **What an executor relies on**: what is journaled and granted stays, and nobody sends in its
name. -/
structure Rely (l : Executor) (s s' : Writes σ) : Prop where
  operations : ∀ o ∈ s.sys.db.operations, ∃ o' ∈ s'.sys.db.operations, o.Advances o'
  leases : ∀ lease ∈ s.sys.leases, lease ∈ s'.sys.leases
  dispatches : ∀ d ∈ s.dispatches, d ∈ s'.dispatches
  calls : ∀ call ∈ s'.calls, call ∈ s.calls ∨ call.executor ≠ l.id

/-- **What an executor guarantees**: the same, and it sends in its own name. -/
structure Guar (l : Executor) (s s' : Writes σ) : Prop where
  operations : ∀ o ∈ s.sys.db.operations, ∃ o' ∈ s'.sys.db.operations, o.Advances o'
  leases : ∀ lease ∈ s.sys.leases, lease ∈ s'.sys.leases
  dispatches : ∀ d ∈ s.dispatches, d ∈ s'.dispatches
  calls : ∀ call ∈ s'.calls, call ∈ s.calls ∨ call.executor = l.id

theorem Rely.refl (l : Executor) (s : Writes σ) : Rely l s s :=
  ⟨fun o ho => ⟨o, ho, .refl o⟩, fun _ => id, fun _ => id, fun _ => Or.inl⟩

theorem Rely.trans {s'' : Writes σ} (h : Rely l s s') (h' : Rely l s' s'') : Rely l s s'' where
  operations o ho := by
    obtain ⟨o', ho', hadv⟩ := h.operations o ho
    obtain ⟨o'', ho'', hadv'⟩ := h'.operations o' ho'
    exact ⟨o'', ho'', hadv.trans hadv'⟩
  leases lease hl := h'.leases lease (h.leases lease hl)
  dispatches d hd := h'.dispatches d (h.dispatches d hd)
  calls call hcall := (h'.calls call hcall).elim (h.calls call) Or.inr

/-- The world of the executors. -/
def world (env : Env) (lib : LedgerLibrary) :
    World (Writes σ) Executor LedgerChoice LedgerQuery fun q => Except LedgerError q.Answer where
  perform := perform env
  inv := Orderly env lib
  rely := Rely
  guar l _ := Guar l
  rely_refl := Rely.refl
  rely_trans _ _ _ _ := Rely.trans

/-! ### Steps of the system -/

/-- What was dispatched stays so. -/
theorem dispatched_later (h : Orderly env lib s) {sys : Sys σ}
    (hlater : Db.Later s.sys.now s.sys.db sys.db) :
    ∀ d ∈ s.dispatches, ∃ o ∈ sys.db.operations, o.runId = d.1 ∧ o.state ≠ .prepared := by
  intro d hd
  obtain ⟨o, ho, hrun, hstate⟩ := h.dispatched d hd
  obtain ⟨o', ho', hadv⟩ := hlater.operations o ho
  exact ⟨o', ho', hadv.runId.trans hrun, hadv.unprepared hstate⟩

/-- **A step of the system keeps what was sent in order.** -/
theorem Orderly.moved (h : Orderly env lib s) {sys : Sys σ} (hmoved : s.sys.Moved env lib sys) :
    Orderly env lib { s with sys := sys } where
  sys := hmoved.journaled
  dispatched := dispatched_later h hmoved.later
  once := h.once
  withdrawn := by
    intro o' ho' hcode d hd
    rcases hmoved.moves with hsame | ⟨request, hfaithful, hjournals⟩
    · exact h.withdrawn o' (hsame ▸ ho') hcode d hd
    · rcases hjournals.cases_of_mem ho' with ⟨o, ho, hmoves⟩ | ⟨lease, args, now, -, rfl⟩
      · cases hmoves with
        | kept => exact h.withdrawn _ ho hcode d hd
        | withdrawn hprepared =>
          -- What is withdrawn was prepared, and so it was not dispatched.
          rintro hrun
          obtain ⟨p, hp, hprun, hstate⟩ := h.dispatched d hd
          rw [h.sys.sound.store.keys.operations.eq_of_key hp ho (hprun.trans hrun)] at hstate
          exact hstate hprepared
        | dispatched => exact h.withdrawn o ho hcode d hd
        | @recorded lease state args hr hrun _ _ _ =>
          subst hr
          rcases hfaithful with hall | ⟨p, hp, hprun, haccepts⟩
          · exact absurd hcode (hall o).code
          · exact absurd hcode haccepts.code
      · cases hcode
  sent := h.sent
  single := h.single
  approved call hcall := (h.approved call hcall).later hmoved.later

/-- A step of the system is one that every executor relies on. -/
theorem rely_moved {sys : Sys σ} (hmoved : s.sys.Moved env lib sys) (l : Executor) :
    Rely l s { s with sys := sys } :=
  ⟨hmoved.later.operations, hmoved.leases, fun _ => id, fun _ => Or.inl⟩

/-- **A dispatch that commits**: no other executor has dispatched the run. -/
theorem Orderly.dispatch (h : Orderly env lib s) {sys : Sys σ} (hmoved : s.sys.Moved env lib sys)
    {lease : Lease} {operationId : String} {response : Response}
    (hc : s.sys.Commits env (.dispatch lease operationId) response sys) (id : Nat) :
    Orderly env lib
      { s with sys := sys, dispatches := (lease.row.runId, id) :: s.dispatches } := by
  have hafter := h.moved hmoved
  obtain ⟨tx, skipped, -, -, -, hok⟩ := h.sys.sound.of_commits hc
  simp only [transact, map_eq_ok, Prod.mk.injEq] at hok
  obtain ⟨db, hok, -, hdb⟩ := hok
  obtain ⟨-, -, ⟨o, ho, hid, hrun, hprepared⟩, hdb'⟩ := dispatch_eq_ok hok
  have hnew : o.dispatching lease ∈ sys.db.operations := by
    rw [← hdb, hdb']
    exact Table.mem_updateWhere_of_pos ho (decide_eq_true ⟨hid, hrun, hprepared⟩)
  refine { hafter with
    dispatched := fun d hd => ?_
    once := List.nodup_cons.2 ⟨fun hmem => ?_, h.once⟩
    withdrawn := fun p hp hcode d hd => ?_
    sent := fun call hcall => List.mem_cons_of_mem _ (h.sent call hcall) }
  · rcases List.mem_cons.1 hd with rfl | hd
    · exact ⟨_, hnew, hrun, fun he => by cases he⟩
    · exact hafter.dispatched d hd
  · -- A run that was dispatched before has no prepared operation.
    obtain ⟨d, hd, hsame⟩ := List.mem_map.1 hmem
    obtain ⟨p, hp, hprun, hstate⟩ := h.dispatched d hd
    rw [h.sys.sound.store.keys.operations.eq_of_key hp ho
      (hprun.trans (hsame.trans hrun.symm))] at hstate
    exact hstate hprepared
  · rcases List.mem_cons.1 hd with rfl | hd
    · rintro hsame
      have hrejected := (hmoved.journaled.journaled p hp).withdrawn hcode
      rw [hmoved.journaled.sound.store.keys.operations.eq_of_key hp hnew
        (hsame.symm.trans hrun.symm)] at hrejected
      cases hrejected
    · exact hafter.withdrawn p hp hcode d hd

/-! ### Transactions of an executor -/

/-- **What a transaction of an executor does**: it is opened, and its answer is lost, or it is
evaluated. -/
theorem transacted_eq_some {c : LedgerChoice} {sys sys' : Sys σ} {request : Request}
    {r : Option (Except Failure Response)} (h : transacted env c sys request = some (r, sys')) :
    ∃ opened, Sys.next env sys (.begin request) = some opened ∧ opened.db = sys.db ∧
      ((r = none ∧ sys' = opened) ∨ ∃ index asked draw skipped,
        Sys.next env opened (.commit index asked draw skipped) = some sys' ∧
        ∀ response, r = some (.ok response) → opened.Commits env request response sys') := by
  obtain ⟨opened, hopened, h⟩ := Option.bind_eq_some_iff.1 h
  refine ⟨opened, hopened, ?_⟩
  have hbegun : opened = { sys with
      now := sys.now + 1
      transactions := sys.transactions ++ [⟨sys.now, request⟩] } := by
    simp only [Sys.next] at hopened
    split at hopened
    · exact (Option.some.inj hopened).symm
    · cases hopened
  refine ⟨by rw [hbegun], ?_⟩
  split at h
  · obtain ⟨rfl, rfl⟩ := Prod.mk.inj (Option.some.inj h)
    exact Or.inl ⟨rfl, rfl⟩
  · obtain ⟨s', hnext, h⟩ := Option.map_eq_some_iff.1 h
    obtain ⟨rfl, rfl⟩ := Prod.mk.inj h
    refine Or.inr ⟨_, _, _, _, hnext, fun response hr => ?_⟩
    have ht : opened.transactions[sys.transactions.length]? = some ⟨sys.now, request⟩ := by
      rw [hbegun]
      exact List.getElem?_concat_length
    obtain ⟨⟨response', db⟩, hok, rfl⟩ := map_eq_ok.1 (Option.some.inj hr)
    refine ⟨_, _, _, _, _, hnext, ht, rfl, ?_⟩
    obtain ⟨u, -, hu, -, -, -, -, ⟨_, _, hok', rfl⟩ | ⟨e, herr, -⟩⟩ := Sys.next_commit hnext
    · obtain rfl := Option.some.inj (ht.symm.trans hu)
      obtain ⟨rfl, rfl⟩ := Prod.mk.inj (Except.ok.inj (hok.symm.trans hok'))
      exact hok
    · obtain rfl := Option.some.inj (ht.symm.trans hu)
      rw [hok] at herr
      cases herr

/-- An operation is known if the journal has it, advanced. -/
def Known (s : Writes σ) (o : Operation) : Prop :=
  ∃ o' ∈ s.sys.db.operations, o.Advances o'

theorem Known.rely {o : Operation} (h : s.Known o) (hrely : Rely l s s') : s'.Known o := by
  obtain ⟨o', ho', hadv⟩ := h
  obtain ⟨o'', ho'', hadv'⟩ := hrely.operations o' ho'
  exact ⟨o'', ho'', hadv.trans hadv'⟩

/-- A known operation says what it was planned for. -/
theorem Known.planned {o : Operation} (h : s.Known o) (hs : Orderly env lib s) :
    o.Planned env lib := by
  obtain ⟨o', ho', hadv⟩ := h
  exact (hs.sys.journaled o' ho').toPlanned.of_fixed hadv.fixed.symm

/-- What an executor is told. -/
def Told (env : Env) (s' : Writes σ) (l l' : Executor) :
    (q : LedgerQuery) → Except LedgerError q.Answer → Prop
  | .prepare args, .ok o => l' = l ∧ s'.Known o ∧ o.runId = l.lease.row.runId ∧
      o.operationId = operationId env l.lease.row.runId args.planRevision args.approvalId
  | .dispatch _, .ok _ => l' = l ∧ (l.lease.row.runId, l.id) ∈ s'.dispatches
  | .operation, .ok operation => l' = l ∧ ∀ o ∈ operation, s'.Known o ∧ o.runId = l.lease.row.runId
  | .readTarget _ _ _, .ok resource => l' = { l with seen := some resource }
  | _, _ => l' = l

/-- A transaction of a faithful request moves the system. -/
theorem Orderly.transacted (h : Orderly env lib s) {c : LedgerChoice} {request : Request}
    (hfaithful : request.Faithful env lib s.sys.db) {r : Option (Except Failure Response)}
    {sys : Sys σ} (ht : transacted env c s.sys request = some (r, sys)) :
    ∃ opened, s.sys.Moved env lib opened ∧
      ((r = none ∧ sys = opened) ∨ (opened.Moved env lib sys ∧
        ∀ response, r = some (.ok response) → opened.Commits env request response sys)) := by
  obtain ⟨opened, hopened, -, hrest⟩ := transacted_eq_some ht
  have hmoved : s.sys.Moved env lib opened := by
    refine h.sys.step hopened fun other hother => ?_
    cases hother
    exact hfaithful
  refine ⟨opened, hmoved, hrest.imp id ?_⟩
  rintro ⟨index, asked, draw, skipped, hnext, hcommits⟩
  exact ⟨hmoved.journaled.step hnext fun other hother => (by cases hother), hcommits⟩

theorem tells_dispatch {operationId : String} {u : Unit} {r : Option (Except Failure Response)}
    (h : (LedgerQuery.dispatch operationId).tells (.ok u) r = true) : r = some (.ok .done) := by
  rcases r with _ | _ | response
  · cases h
  · cases h
  · cases response <;> first | rfl | cases h

theorem tells_prepare {args : PrepareArgs} {o : Operation} {r : Option (Except Failure Response)}
    (h : (LedgerQuery.prepare args).tells (.ok o) r = true) : r = some (.ok (.operation o)) := by
  rcases r with _ | _ | response
  · cases h
  · cases h
  · cases response <;> first | exact (of_decide_eq_true h) ▸ rfl | cases h

/-- **What `prepare` is answered**: an operation of the run with the identifier of its plan. -/
theorem prepared_of_commits {sys sys' : Sys σ} (hsound : sys.Sound env) {lease : Lease}
    {args : PrepareArgs} {o : Operation}
    (hc : sys.Commits env (.prepare lease args) (.operation o) sys') :
    o ∈ sys'.db.operations ∧ o.runId = lease.row.runId ∧
      o.operationId = operationId env lease.row.runId args.planRevision args.approvalId := by
  obtain ⟨tx, skipped, -, -, -, hok⟩ := hsound.of_commits hc
  simp only [transact, map_eq_ok, Prod.mk.injEq] at hok
  obtain ⟨⟨o', db⟩, hok, ho, hdb⟩ := hok
  cases ho
  rw [← hdb]
  obtain ⟨-, -, -, ⟨hfound, rfl, hid⟩ | ⟨-, rfl, -, rfl⟩⟩ := prepare_eq_ok hok
  · have hrun := List.find?_some hfound
    exact ⟨List.mem_of_find?_eq_some hfound, of_decide_eq_true hrun, hid⟩
  · exact ⟨List.mem_append_right _ List.mem_cons_self, rfl, rfl⟩

/-- What a query that sends nothing leaves. -/
structure Calm (env : Env) (lib : LedgerLibrary) (s s' : Writes σ) (l l' : Executor)
    (q : LedgerQuery) (a : Except LedgerError q.Answer) : Prop where
  orderly : Orderly env lib s'
  calls : s'.calls = s.calls
  rely : ∀ other, Rely other s s'
  told : Told env s' l l' q a

/-- **A query that sends nothing keeps what was sent in order**, if its request is faithful. -/
theorem Orderly.perform (h : Orderly env lib s) {c : LedgerChoice} {q : LedgerQuery}
    {a : Except LedgerError q.Answer} (hq : ∀ kind ns name body, q ≠ .patch kind ns name body)
    (hfaithful : ∀ request, q.request? l.lease = some request → request.Faithful env lib s.sys.db)
    (hperform : perform env c s l q a = some (s', l')) : Calm env lib s s' l l' q a := by
  unfold Writes.perform at hperform
  split at hperform
  · rename_i request hrequest
    obtain ⟨⟨r, sys⟩, ht, hperform⟩ := Option.bind_eq_some_iff.1 hperform
    split at hperform
    · rename_i htells
      obtain ⟨rfl, rfl⟩ := Prod.mk.inj (Option.some.inj hperform)
      obtain ⟨opened, hopened, hrest⟩ := h.transacted (hfaithful request hrequest) ht
      have hmid := h.moved hopened
      have hcalm : Orderly env lib { s with sys := sys } ∧
          ∀ other, Rely other s { s with sys := sys } := by
        rcases hrest with ⟨-, rfl⟩ | ⟨hmoved, -⟩
        · exact ⟨hmid, rely_moved hopened⟩
        · exact ⟨hmid.moved hmoved, fun other =>
            (rely_moved hopened other).trans (rely_moved hmoved other)⟩
      cases q with
      | assertOwned => exact ⟨hcalm.1, rfl, hcalm.2, rfl⟩
      | record state args => exact ⟨hcalm.1, rfl, hcalm.2, rfl⟩
      | prepare args =>
        cases a with
        | error e => exact ⟨hcalm.1, rfl, hcalm.2, rfl⟩
        | ok o =>
          obtain rfl := tells_prepare htells
          obtain rfl := Option.some.inj hrequest
          rcases hrest with ⟨hnone, -⟩ | ⟨hmoved, hcommits⟩
          · cases hnone
          · obtain ⟨ho, hrun, hid⟩ := prepared_of_commits hmid.sys.sound (hcommits _ rfl)
            exact ⟨hcalm.1, rfl, hcalm.2, rfl, ⟨o, ho, .refl o⟩, hrun, hid⟩
      | dispatch operationId =>
        cases a with
        | error e => exact ⟨hcalm.1, rfl, hcalm.2, rfl⟩
        | ok u =>
          obtain rfl := tells_dispatch htells
          obtain rfl := Option.some.inj hrequest
          rcases hrest with ⟨hnone, -⟩ | ⟨hmoved, hcommits⟩
          · cases hnone
          · refine ⟨hmid.dispatch hmoved (hcommits _ rfl) l.id, rfl, fun other => ?_, rfl,
              List.mem_cons_self⟩
            have hrely := hcalm.2 other
            exact ⟨hrely.operations, hrely.leases, fun d hd => List.mem_cons_of_mem _ hd,
              hrely.calls⟩
      | _ => cases hrequest
    · cases hperform
  · rename_i hrequest
    have hsame : ∀ l', Told env s l l' q a → some (s, l') = some (s', l') →
        Calm env lib s s' l l' q a := by
      rintro l' htold hs
      obtain rfl : s = s' := congrArg Prod.fst (Option.some.inj hs)
      exact ⟨h, rfl, fun other => Rely.refl other s, htold⟩
    cases q with
    | patch kind ns name body => exact absurd rfl (hq kind ns name body)
    | readTarget kind ns name =>
      cases a <;>
        · obtain ⟨rfl, rfl⟩ := Prod.mk.inj (Option.some.inj hperform)
          exact hsame _ rfl rfl
    | operation =>
      cases a with
      | error e =>
        obtain ⟨rfl, rfl⟩ := Prod.mk.inj (Option.some.inj hperform)
        exact hsame _ rfl rfl
      | ok operation =>
        simp only at hperform
        split at hperform
        · rename_i hread
          obtain ⟨rfl, rfl⟩ := Prod.mk.inj (Option.some.inj hperform)
          refine hsame _ ⟨rfl, fun o ho => ?_⟩ rfl
          have hfound : s.sys.db.operation? l.lease.row.runId = some o := hread.symm.trans ho
          have hrun := List.find?_some hfound
          exact ⟨⟨o, List.mem_of_find?_eq_some hfound, .refl o⟩, of_decide_eq_true hrun⟩
        · cases hperform
    | isLost =>
      obtain ⟨rfl, rfl⟩ := Prod.mk.inj (Option.some.inj hperform)
      exact hsame _ rfl rfl
    | revalidate state plan =>
      obtain ⟨rfl, rfl⟩ := Prod.mk.inj (Option.some.inj hperform)
      exact hsame _ rfl rfl
    | beforeWrite =>
      obtain ⟨rfl, rfl⟩ := Prod.mk.inj (Option.some.inj hperform)
      exact hsame _ rfl rfl
    | clock =>
      obtain ⟨rfl, rfl⟩ := Prod.mk.inj (Option.some.inj hperform)
      exact hsame _ rfl rfl
    | _ => cases hrequest

/-! ### The rules of queries -/

/-- Only the identity of an executor matters for what it relies on. -/
theorem Rely.of_id (h : Rely l s s') (hid : l'.id = l.id) : Rely l' s s' :=
  ⟨h.operations, h.leases, h.dispatches, fun call hcall => hid ▸ h.calls call hcall⟩

/-- What an executor was told stays true. -/
theorem Told.rely {s'' : Writes σ} {q : LedgerQuery} {a : Except LedgerError q.Answer}
    (h : Told env s' l l' q a) (hrely : Rely l s' s'') : Told env s'' l l' q a := by
  cases q with
  | prepare args =>
    cases a with
    | error e => exact h
    | ok o => exact ⟨h.1, h.2.1.rely hrely, h.2.2⟩
  | dispatch operationId =>
    cases a with
    | error e => exact h
    | ok u => exact ⟨h.1, hrely.dispatches _ h.2⟩
  | operation =>
    cases a with
    | error e => exact h
    | ok operation => exact ⟨h.1, fun o ho => ⟨(h.2 o ho).1.rely hrely, (h.2 o ho).2⟩⟩
  | readTarget kind ns name => cases a <;> exact h
  | _ => exact h

/-- An executor stays who it is. -/
theorem Told.id_eq {q : LedgerQuery} {a : Except LedgerError q.Answer}
    (h : Told env s' l l' q a) : l'.id = l.id := by
  have hsame : l' = l → l'.id = l.id := fun he => by rw [he]
  cases q with
  | prepare args => cases a <;> first | exact hsame h | exact hsame h.1
  | dispatch operationId => cases a <;> first | exact hsame h | exact hsame h.1
  | operation => cases a <;> first | exact hsame h | exact hsame h.1
  | readTarget kind ns name =>
    cases a with
    | error e => exact hsame h
    | ok resource =>
      have h : l' = { l with seen := some resource } := h
      rw [h]
  | _ => exact hsame h

/-- **The rule of a query that sends nothing.** -/
theorem runs_calm {q : LedgerQuery} {post : q.Answer → Writes σ → Executor → Prop}
    (hq : ∀ kind ns name body, q ≠ .patch kind ns name body)
    (hfaithful : ∀ s₁, Rely l s s₁ → Orderly env lib s₁ → ∀ request,
      q.request? l.lease = some request → request.Faithful env lib s₁.sys.db)
    (hpost : ∀ b s₁ l₁, Rely l s s₁ → Orderly env lib s₁ → Told env s₁ l l₁ q (.ok b) →
      post b s₁ l₁) :
    (Ledger.ask q).Runs (world env lib) post s l := by
  refine Act.runs_ask fun s₁ hrely hinv c a s₂ l₂ hperform => ?_
  have hcalm := Orderly.perform hinv hq (hfaithful s₁ hrely hinv) hperform
  have hmine := hcalm.rely l
  refine ⟨hcalm.orderly, ⟨hmine.operations, hmine.leases, hmine.dispatches, ?_⟩, ?_⟩
  · rw [hcalm.calls]
    exact fun _ => Or.inl
  · rintro b rfl s₃ hrely' hinv₃
    have hthen : Rely l s₂ s₃ := Rely.of_id hrely' hcalm.told.id_eq.symm
    exact hpost b s₃ l₂ ((hrely.trans hmine).trans hthen) hinv₃ (hcalm.told.rely hthen)

/-- A query without a transaction asks for nothing that could be unfaithful. -/
theorem runs_read {q : LedgerQuery} {post : q.Answer → Writes σ → Executor → Prop}
    (hq : ∀ kind ns name body, q ≠ .patch kind ns name body) (hnone : q.request? l.lease = none)
    (hpost : ∀ b s₁ l₁, Rely l s s₁ → Orderly env lib s₁ → Told env s₁ l l₁ q (.ok b) →
      post b s₁ l₁) :
    (Ledger.ask q).Runs (world env lib) post s l := by
  refine runs_calm hq (fun _ _ _ request hrequest => ?_) hpost
  rw [hnone] at hrequest
  cases hrequest

theorem runs_compute {α : Type} {x : Except String α} {post : α → Writes σ → Executor → Prop}
    (h : ∀ a, x = .ok a → ∀ s₁, Rely l s s₁ → Orderly env lib s₁ → post a s₁ l) :
    (Ledger.compute x).Runs (world env lib) post s l := by
  refine Act.runs_ofExcept fun a ha s₁ hrely hinv => h a ?_ s₁ hrely hinv
  cases x with
  | error e => cases ha
  | ok b => exact congrArg _ (Except.ok.inj ha)

/-- Ownership is asserted without a trace. -/
theorem runs_assertOwned {post : Unit → Writes σ → Executor → Prop}
    (hpost : ∀ s₁, Rely l s s₁ → Orderly env lib s₁ → post () s₁ l) :
    Ledger.assertOwned.Runs (world env lib) post s l := by
  refine Act.runs_bind (runs_read (by simp) rfl fun lost s₁ l₁ hrely hinv htold => ?_)
  obtain rfl : l₁ = l := htold
  refine Act.runs_ite (fun _ => Act.runs_throw _) fun _ => ?_
  refine runs_calm (by simp) (fun s₂ _ _ request hrequest => ?_)
    fun _ s₂ l₂ hrely' hinv' htold' => ?_
  · obtain rfl := Option.some.inj hrequest
    trivial
  · obtain rfl : l₂ = l₁ := htold'
    exact hpost s₂ (hrely.trans hrely') hinv'

/-- **What was read** is remembered. -/
theorem runs_readTarget {p : RemediationParameters}
    {post : Json × ResourceSnapshot → Writes σ → Executor → Prop}
    (hpost : ∀ resource snapshot s₁, Rely l s s₁ → Orderly env lib s₁ →
      targetSnapshot lib p resource = .ok snapshot → snapshot.uid.getD "" ≠ "" →
        post (resource, snapshot) s₁ { l with seen := some resource }) :
    (Ledger.readTarget lib p).Runs (world env lib) post s l := by
  refine Act.runs_bind (runs_read (by simp) rfl fun resource s₁ l₁ hrely hinv htold => ?_)
  obtain rfl : l₁ = { l with seen := some resource } := htold
  refine Act.runs_bind (runs_compute fun snapshot hsnapshot s₂ hrely₂ _ => ?_)
  refine Act.runs_bind (runs_compute fun _ huid s₃ hrely₃ _ => ?_)
  refine Act.runs_pure fun s₄ hrely₄ hinv₄ => ?_
  have hall : Rely l s s₄ := hrely.trans (((hrely₂.trans hrely₃).trans hrely₄).of_id rfl)
  exact hpost resource snapshot s₄ hall hinv₄ hsnapshot (raiseIf_eq_ok.1 huid)

/-! ### Outcomes -/

/-- An acceptable outcome of a known operation is recorded. -/
theorem runs_record {o : Operation} {state : OperationState} {args : RecordArgs}
    {post : Unit → Writes σ → Executor → Prop} (hknown : s.Known o)
    (hrun : o.runId = l.lease.row.runId) (haccepts : o.Accepts state args)
    (hpost : ∀ s₁, Rely l s s₁ → Orderly env lib s₁ → post () s₁ l) :
    (Ledger.ask (.record state args)).Runs (world env lib) post s l := by
  refine runs_calm (by simp) (fun s₁ hrely _ request hrequest => ?_)
    fun _ s₁ l₁ hrely hinv htold => ?_
  · obtain rfl := Option.some.inj hrequest
    obtain ⟨o', ho', hadv⟩ := hknown.rely hrely
    exact Or.inr ⟨o', ho', hadv.runId.trans hrun, haccepts.advances hadv⟩
  · obtain rfl : l₁ = l := htold
    exact hpost s₁ hrely hinv

/-- An outcome that every operation accepts is recorded of whatever the run has. -/
theorem runs_recordAny {state : OperationState} {args : RecordArgs}
    {post : Unit → Writes σ → Executor → Prop} (haccepts : ∀ o : Operation, o.Accepts state args)
    (hpost : ∀ s₁, Rely l s s₁ → Orderly env lib s₁ → post () s₁ l) :
    (Ledger.ask (.record state args)).Runs (world env lib) post s l := by
  refine runs_calm (by simp) (fun s₁ _ _ request hrequest => ?_)
    fun _ s₁ l₁ hrely hinv htold => ?_
  · obtain rfl := Option.some.inj hrequest
    exact Or.inl haccepts
  · obtain rfl : l₁ = l := htold
    exact hpost s₁ hrely hinv

/-- Nothing is claimed of what an executor returns. -/
def anyEnd {α : Type} : α → Writes σ → Executor → Prop := fun _ _ _ => True

/-- An outcome that confirms nothing. -/
theorem accepts_unconfirmed (o : Operation) {state : OperationState} {args : RecordArgs}
    (hstate : state.done = false) (hcode : args.code ≠ some supersededCode)
    (hattribution : args.attribution = .notEstablished) : o.Accepts state args where
  code := hcode
  succeeded hs := by
    rw [hs] at hstate
    cases hstate
  reconciled hs := by
    rw [hs] at hstate
    cases hstate
  otherwise _ := hattribution

theorem unknownOutcome_runs {α : Type} {response : Option ResourceSnapshot} {code : String}
    (hcode : code ≠ supersededCode) :
    (Ledger.unknownOutcome response code : LedgerProg α).Runs (world env lib) anyEnd s l := by
  refine Act.runs_bind (runs_recordAny (fun o => ?_) fun _ _ _ => Act.runs_throw _)
  exact accepts_unconfirmed o rfl (fun h => hcode (Option.some.inj h)) rfl

theorem conflict_runs {auth : ExecutionAuthorization} {o : Operation} {code : String}
    (hcode : code ≠ supersededCode) :
    (Ledger.result auth o .conflict none (some code)).Runs (world env lib) anyEnd s l := by
  refine Act.runs_bind (runs_read (by simp) rfl fun now s₁ l₁ _ _ _ => ?_)
  refine Act.runs_bind (runs_recordAny (fun o => ?_) fun _ _ _ =>
    Act.runs_pure fun _ _ _ => trivial)
  exact accepts_unconfirmed o rfl (fun h => hcode (Option.some.inj h)) rfl

/-- A write that is answered as planned succeeds. -/
theorem succeeded_runs {auth : ExecutionAuthorization} {o : Operation} {after : ResourceSnapshot}
    (hknown : s.Known o) (hrun : o.runId = l.lease.row.runId)
    (haction : o.action = auth.plan.action)
    (happroval : o.approvalId = auth.approvalId)
    (hafter : ¬ Ledger.mismatched auth.plan.parameters o.beforeSnapshot o.targetSnapshot after) :
    (Ledger.result auth o .succeeded (some after) none).Runs (world env lib) anyEnd s l := by
  unfold Ledger.mismatched at hafter
  push Not at hafter
  obtain ⟨huid, hconfiguration, -, hset, hversion⟩ := hafter
  refine Act.runs_bind (runs_read (by simp) rfl fun now s₁ l₁ hrely _ htold => ?_)
  obtain rfl : l₁ = l := htold
  refine Act.runs_bind (runs_record (hknown.rely hrely) hrun ?_ fun _ _ _ =>
    Act.runs_pure fun _ _ _ => trivial)
  refine ⟨fun h => (by cases h), fun _ => ⟨rfl, after, _, rfl, rfl, ?_⟩, fun h => (by cases h),
    fun h => (by cases h)⟩
  exact ⟨huid, hconfiguration, ⟨hset, hversion⟩, rfl, ⟨happroval.symm, haction.symm⟩,
    ⟨rfl, rfl⟩, rfl⟩

/-! ### The patch -/

/-- What the authorization of an executor says. -/
theorem authorized_eq_ok {lease : Lease} {state : Json} {auth : ExecutionAuthorization}
    (h : Ledger.authorized env lib lease state = .ok auth) :
    validateExecutionAuthorization env lib.toExecutionLibrary state = .ok auth ∧
      ∃ saved, lease.row.approvalPayload = some saved ∧ saved.decision.approved = true ∧
        saved.binding = approvalBinding env state ∧
        saved.decision.approvalId = auth.approvalId := by
  simp only [Ledger.authorized, bind_eq_ok, rowOr_eq_ok, raiseIf_eq_ok, pure_eq_ok, not_or,
    not_not] at h
  obtain ⟨a, hauth, saved, hsaved, -, ⟨happroved, hbinding⟩, -, hid, -, -, rfl⟩ := h
  refine ⟨?_, saved, hsaved, by simpa using happroved, hbinding, hid⟩
  cases hv : validateExecutionAuthorization env lib.toExecutionLibrary state with
  | error e =>
    rw [hv] at hauth
    cases hauth
  | ok b =>
    rw [hv] at hauth
    exact congrArg _ (Except.ok.inj hauth)

/-- **An executor that may send**: its authorization, and the operation of its run, which is known
and was read as it was journaled. -/
structure Sendable (env : Env) (lib : LedgerLibrary) (s : Writes σ) (l : Executor) (state : Json)
    (auth : ExecutionAuthorization) (o : Operation) : Prop where
  job : l.job = .execute state
  authorized : Ledger.authorized env lib l.lease state = .ok auth
  leased : l.lease ∈ s.sys.leases
  unsent : ∀ call ∈ s.calls, call.executor ≠ l.id
  known : s.Known o
  run : o.runId = l.lease.row.runId
  plan : o.planSnapshot = auth.plan ∧ o.approvalId = auth.approvalId
  seen : ∃ resource, l.seen = some resource ∧
    targetSnapshot lib auth.plan.parameters resource = .ok o.beforeSnapshot
  uid : textOr o.beforeSnapshot.uid = approvedUid state auth.plan.parameters
  prior : o.beforeSnapshot.configuration = priorConfiguration auth.plan

/-- Who has sent nothing has sent nothing in between. -/
theorem Rely.unsent (h : Rely l s s') (hunsent : ∀ call ∈ s.calls, call.executor ≠ l.id) :
    ∀ call ∈ s'.calls, call.executor ≠ l.id :=
  fun call hcall => (h.calls call hcall).elim (hunsent call) id

variable {state : Json} {auth : ExecutionAuthorization} {o : Operation}

theorem Sendable.rely (h : Sendable env lib s l state auth o) (hrely : Rely l s s') :
    Sendable env lib s' l state auth o :=
  { h with
    leased := hrely.leases _ h.leased
    unsent := hrely.unsent h.unsent
    known := h.known.rely hrely }

/-- **The patch of an executor that may send, and has dispatched the run.** -/
theorem Orderly.patch (h : Orderly env lib s) (hsend : Sendable env lib s l state auth o)
    (hdispatched : (l.lease.row.runId, l.id) ∈ s.dispatches) (c : LedgerChoice)
    (a : Except LedgerError Json)
    (hperform : Writes.perform env c s l (.patch auth.plan.parameters.resourceKind
      auth.plan.parameters.namespaceName auth.plan.parameters.resourceName o.requestPatch) a =
        some (s', l')) :
    l' = l ∧ Orderly env lib s' ∧ Guar l s s' ∧ s'.sys = s.sys := by
  obtain ⟨hs, rfl⟩ := Prod.mk.inj (Option.some.inj hperform)
  subst hs
  refine ⟨rfl, { h with sent := ?_, single := ?_, approved := ?_ }, ⟨fun o ho => ⟨o, ho, .refl o⟩,
    fun _ => id, fun _ => id, fun call hcall => ?_⟩, rfl⟩
  · intro call hcall
    rcases List.mem_cons.1 hcall with rfl | hcall
    · exact hdispatched
    · exact h.sent call hcall
  · refine List.nodup_cons.2 ⟨fun hmem => ?_, h.single⟩
    -- The run was dispatched once, by this executor, which has sent nothing yet.
    obtain ⟨call, hcall, hrun⟩ := List.mem_map.1 hmem
    have hsame := List.inj_on_of_nodup_map h.once (h.sent call hcall) hdispatched hrun
    exact hsend.unsent call hcall (congrArg Prod.snd hsame)
  · intro call hcall
    rcases List.mem_cons.1 hcall with rfl | hcall
    · obtain ⟨hauth, saved, hsaved, happroved, hbinding, hid⟩ := authorized_eq_ok hsend.authorized
      obtain ⟨o', ho', hadv⟩ := hsend.known
      have hbefore := column_eq hadv.fixed Operation.beforeSnapshot fun _ => rfl
      have hplan := column_eq hadv.fixed Operation.planSnapshot fun _ => rfl
      have happroval := column_eq hadv.fixed Operation.approvalId fun _ => rfl
      have hpatch := column_eq hadv.fixed Operation.requestPatch fun _ => rfl
      have hstate : LedgerJob.state l.job = state := by rw [hsend.job]; rfl
      refine ⟨auth, o', ho', ?_, ⟨saved, h.sys.approved _ hsend.leased saved hsaved, happroved, ?_,
        hid⟩, hadv.runId.trans hsend.run, ?_, ⟨rfl, rfl, rfl, hpatch.symm⟩, ?_, ?_, ?_⟩
      · exact hstate.symm ▸ hauth
      · exact hstate.symm ▸ hbinding
      · rw [hplan, happroval]
        exact hsend.plan
      · rw [hbefore]
        exact hsend.seen
      · rw [hbefore]
        exact hstate.symm ▸ hsend.uid
      · rw [hbefore]
        exact hsend.prior
    · exact h.approved call hcall
  · rcases List.mem_cons.1 hcall with rfl | hcall
    · exact Or.inr rfl
    · exact Or.inl hcall

/-! ### The execution -/

theorem send_runs (hsend : Sendable env lib s l state auth o)
    (hdispatched : (l.lease.row.runId, l.id) ∈ s.dispatches)
    (hplanned : o.Planned env lib) :
    (Ledger.send lib auth o o.beforeSnapshot o.targetSnapshot).Runs (world env lib) anyEnd s l := by
  refine Act.runs_bind (Act.runs_attempt_ask fun s₁ hrely hinv c a s₂ l₂ hperform => ?_)
  have hsend₁ := hsend.rely hrely
  obtain ⟨rfl, hinv₂, hguar, hsys⟩ :=
    hinv.patch hsend₁ (hrely.dispatches _ hdispatched) c a hperform
  refine ⟨hinv₂, hguar, fun s₃ hrely₃ _ => ?_⟩
  have hknown : s₃.Known o := by
    refine Known.rely ?_ hrely₃
    unfold Known
    rw [hsys]
    exact hsend₁.known
  -- What follows is an answer, or an exception.
  cases a with
  | error e =>
    refine Act.runs_ite (fun _ => ?_) fun _ => ?_
    · exact conflict_runs (by decide)
    · exact unknownOutcome_runs (by decide)
  | ok response =>
    dsimp only [Except.mapError]
    cases targetSnapshot lib auth.plan.parameters response with
    | error e => exact unknownOutcome_runs (by decide)
    | ok after =>
      refine Act.runs_ite (fun _ => ?_) fun hafter => ?_
      · exact unknownOutcome_runs (by decide)
      · exact succeeded_runs hknown hsend.run (hplanned.action.trans (by rw [hsend.plan.1]))
          hsend.plan.2 hafter

theorem dispatchAndSend_runs (hsend : Sendable env lib s l state auth o)
    (hplanned : o.Planned env lib) :
    (Ledger.dispatchAndSend lib auth o o.beforeSnapshot o.targetSnapshot).Runs (world env lib)
      anyEnd s l := by
  refine Act.runs_bind (runs_read (by simp) rfl fun _ s₁ l₁ hrely _ htold => ?_)
  obtain rfl : l₁ = l := htold
  refine Act.runs_bind (runs_calm (by simp) (fun s₂ _ _ request hrequest => ?_)
    fun _ s₂ l₂ hrely₂ _ htold₂ => ?_)
  · obtain rfl := Option.some.inj hrequest
    trivial
  · obtain ⟨rfl, hdispatched⟩ := htold₂
    refine Act.runs_bind (runs_assertOwned fun s₃ hrely₃ _ => ?_)
    exact send_runs (hsend.rely ((hrely.trans hrely₂).trans hrely₃))
      (hrely₃.dispatches _ hdispatched) hplanned

/-- **The identifier of an operation determines its plan and its approval.** -/
theorem operationId_inj (henv : env.TellsApart)
    {runId revision revision' approval approval' : String}
    (h : operationId env runId revision approval = operationId env runId revision' approval') :
    revision = revision' ∧ approval = approval' := by
  have hcanonical := henv _ _ (String.append_right_inj "op-" |>.mp h)
  exact ⟨Json.text_of_canonical hcanonical "plan" rfl rfl,
    Json.text_of_canonical hcanonical "approval" rfl rfl⟩

/-- What is prepared is as it was planned, and approved in the row that was claimed. -/
theorem planned_initial {lease : Lease} (hauth : Ledger.authorized env lib lease state = .ok auth)
    {resource : Json} {before : ResourceSnapshot} {patch : List PatchOp}
    (hread : targetSnapshot lib auth.plan.parameters resource = .ok before)
    (huid : before.uid.getD "" ≠ "") (hbuild : buildPatch auth.plan resource before = .ok patch)
    (now : Nat) :
    (Operation.initial env lease ⟨auth.approvalId, planRevision env auth.plan, auth.plan,
      auth.plan.action, before, { before with configuration := desiredConfiguration auth.plan },
      patch⟩ now).Planned env lib := by
  obtain ⟨-, saved, hsaved, happroved, -, hid⟩ := authorized_eq_ok hauth
  exact ⟨rfl, rfl, rfl, ⟨saved, hsaved, happroved, hid⟩, rfl, ⟨resource, hread, huid, hbuild⟩⟩

theorem prepareAndSend_runs (henv : env.TellsApart) (hjob : l.job = .execute state)
    (hauth : Ledger.authorized env lib l.lease state = .ok auth) (hleased : l.lease ∈ s.sys.leases)
    (hunsent : ∀ call ∈ s.calls, call.executor ≠ l.id) :
    (Ledger.prepareAndSend env lib state auth).Runs (world env lib) anyEnd s l := by
  refine Act.runs_bind (runs_read (by simp) rfl fun live s₁ l₁ hrely₁ _ htold => ?_)
  obtain rfl : l₁ = l := htold
  refine Act.runs_bind (runs_readTarget fun resource before s₂ hrely₂ _ hread huid => ?_)
  have hrely₂ := hrely₁.trans hrely₂
  refine Act.runs_bind (runs_compute fun patch hbuild s₃ hrely₃ _ => ?_)
  refine Act.runs_bind (runs_calm (by simp) (fun s₄ _ _ request hrequest => ?_)
    fun o s₄ l₄ hrely₄ hinv htold => ?_)
  · obtain rfl := Option.some.inj hrequest
    exact planned_initial hauth hread huid hbuild
  · obtain ⟨rfl, hknown, hrun, hid⟩ := htold
    have hrely : Rely l₁ s s₄ := hrely₂.trans ((hrely₃.trans hrely₄).of_id rfl)
    have hplanned := hknown.planned hinv
    -- The operation of the run has the identifier of this plan and this approval.
    have hsame := operationId_inj henv ((hrun ▸ hplanned.operationId).symm.trans hid)
    have hplan : o.planSnapshot = auth.plan :=
      RemediationPlan.eq_of_revision henv (hplanned.revision.symm.trans hsame.1)
    refine Act.runs_ite (fun _ => conflict_runs (by decide)) fun hpre => ?_
    unfold Ledger.preconditionFailed at hpre
    push Not at hpre
    obtain ⟨hbefore, happroved, -, hprior⟩ := hpre
    have hbefore : before = o.beforeSnapshot := hbefore
    rw [hbefore] at hread
    have htarget : { o.beforeSnapshot with configuration := desiredConfiguration auth.plan } =
        o.targetSnapshot := by
      rw [hplanned.target, hplan]
    rw [hbefore, htarget]
    have hsend : Sendable env lib s₄ { l₁ with seen := some resource } state auth o :=
      ⟨hjob, hauth, hrely.leases _ hleased, hrely.unsent hunsent, hknown, hrun,
        ⟨hplan, hsame.2⟩, ⟨resource, rfl, hread⟩, hbefore ▸ happroved, hbefore ▸ hprior⟩
    exact dispatchAndSend_runs hsend hplanned

theorem execute_runs (henv : env.TellsApart) (hjob : l.job = .execute state)
    (hleased : l.lease ∈ s.sys.leases) (hunsent : ∀ call ∈ s.calls, call.executor ≠ l.id) :
    (Ledger.execute env lib l.lease state).Runs (world env lib) anyEnd s l := by
  refine Act.runs_bind (runs_assertOwned fun s₁ hrely₁ _ => ?_)
  refine Act.runs_bind (runs_compute fun auth hauth s₂ hrely₂ _ => ?_)
  refine Act.runs_bind (runs_read (by simp) rfl fun operation s₃ l₃ hrely₃ _ htold => ?_)
  obtain ⟨rfl, -⟩ := htold
  refine Act.runs_bind (runs_compute fun journaled _ s₄ hrely₄ _ => ?_)
  have hrely := ((hrely₁.trans hrely₂).trans hrely₃).trans hrely₄
  cases journaled with
  | some result => exact Act.runs_pure fun _ _ _ => trivial
  | none =>
    exact prepareAndSend_runs henv hjob hauth (hrely.leases _ hleased) (hrely.unsent hunsent)

/-! ### The reconciliation -/

/-- A reconciliation confirms what was answered, or leaves it to a human. -/
theorem accepts_reconciled {observed : ResourceSnapshot} (h : Ledger.confirms o observed) :
    o.Accepts .reconciled ⟨none, some observed, none, none, .confirmed⟩ where
  code hc := by cases hc
  succeeded hs := by cases hs
  reconciled _ := ⟨rfl, rfl, rfl, observed, rfl, h.2.1⟩
  otherwise hd := by cases hd

theorem reconcile_runs (hknown : s.Known o) (hrun : o.runId = l.lease.row.runId) :
    (Ledger.reconcile lib o).Runs (world env lib) anyEnd s l := by
  have hread : (Ledger.readTarget lib (Ledger.journaledTarget o)).Runs (world env lib)
      (fun _ s₁ l₁ => ∀ s₂, Rely l₁ s₁ s₂ → Orderly env lib s₂ →
        s₂.Known o ∧ l₁.lease = l.lease) s l :=
    runs_readTarget fun resource snapshot s₁ hrely _ _ _ s₂ hrely₂ _ =>
      ⟨hknown.rely (hrely.trans (hrely₂.of_id rfl)), rfl⟩
  refine Act.runs_bind (Act.Runs.mono (Act.runs_attempt hread) fun r s₁ l₁ _ hafter => ?_)
  have hunconfirmed : ∀ (observed : Option ResourceSnapshot) (code : String),
      code ≠ supersededCode → ((Ledger.ask (.record .manualRequired
        ⟨none, observed, none, some code, .notEstablished⟩)) >>= fun _ => pure false :
          LedgerProg Bool).Runs (world env lib) anyEnd s₁ l₁ :=
    fun observed code hcode => Act.runs_bind (runs_recordAny
      (fun o => accepts_unconfirmed o rfl (fun h => hcode (Option.some.inj h)) rfl) fun _ _ _ =>
        Act.runs_pure fun _ _ _ => trivial)
  cases r with
  | error e => exact hunconfirmed _ _ (by decide)
  | ok read =>
    obtain ⟨hthere, hlease⟩ := hafter read rfl
    refine Act.runs_ite (fun hconfirms => ?_) fun _ => hunconfirmed _ _ (by decide)
    exact Act.runs_bind (runs_record hthere (hlease ▸ hrun) (accepts_reconciled hconfirms)
      fun _ _ _ => Act.runs_pure fun _ _ _ => trivial)

/-! ### All executors -/

/-- **The executors of a system**, with all that goes on besides. -/
def executors (env : Env) (lib : LedgerLibrary) : Threads Nat (Writes σ) Executor LedgerChoice
    (Event σ) LedgerQuery (fun q => Except LedgerError q.Answer) (Except LedgerError PUnit) where
  world := world env lib
  name := Executor.id
  admits := admits
  main l := (program env lib l).run
  move := move env

theorem program_runs (henv : env.TellsApart) (hadmits : s.admits l = true) :
    (program env lib l).Runs (world env lib) anyEnd s l := by
  obtain ⟨hleased, -, hunsent⟩ := of_decide_eq_true hadmits
  unfold program
  split
  · rename_i state hjob
    exact Act.runs_bind (Act.Runs.mono (execute_runs henv hjob hleased hunsent)
      fun _ _ _ _ _ => Act.runs_pure fun _ _ _ => trivial)
  · refine Act.runs_bind (runs_read (by simp) rfl fun operation s₁ l₁ _ _ htold => ?_)
    obtain ⟨rfl, hfound⟩ := htold
    cases operation with
    | none => exact Act.runs_pure fun _ _ _ => trivial
    | some o =>
      obtain ⟨hknown, hrun⟩ := hfound o rfl
      exact Act.runs_bind (Act.Runs.mono (reconcile_runs hknown hrun)
        fun _ _ _ _ _ => Act.runs_pure fun _ _ _ => trivial)

/-- What others ask is faithful. -/
theorem faithful_of_outside {request : Request} (h : outside request = true) (db : Db) :
    request.Faithful env lib db := by
  cases request with
  | prepare lease args => cases h
  | record lease state args =>
    obtain ⟨rfl, hattribution, hcode⟩ := of_decide_eq_true h
    exact Or.inl fun o => accepts_unconfirmed o rfl hcode hattribution
  | _ => trivial

theorem Orderly.move (h : Orderly env lib s) {e : Event σ} (hmove : Writes.move env s e = some s') :
    Orderly env lib s' ∧ ∀ l, Rely l s s' := by
  have hstep : ∀ sys, Sys.next env s.sys e = some sys →
      (∀ request, e = .begin request → outside request = true) →
      Orderly env lib { s with sys := sys } ∧ ∀ l, Rely l s { s with sys := sys } := by
    intro sys hnext hbegin
    have hmoved : s.sys.Moved env lib sys :=
      h.sys.step hnext fun request he => faithful_of_outside (hbegin request he) _
    exact ⟨h.moved hmoved, rely_moved hmoved⟩
  cases e with
  | begin request =>
    simp only [Writes.move] at hmove
    split at hmove
    · rename_i houtside
      obtain ⟨sys, hnext, rfl⟩ := Option.map_eq_some_iff.1 hmove
      exact hstep sys hnext fun other hother => by
        cases hother
        exact houtside
    · cases hmove
  | _ =>
    simp only [Writes.move] at hmove
    obtain ⟨sys, hnext, rfl⟩ := Option.map_eq_some_iff.1 hmove
    exact hstep sys hnext fun other hother => by cases hother

/-- What happens to a thread keeps its identity. -/
theorem perform_id {c : LedgerChoice} {q : LedgerQuery} {a : Except LedgerError q.Answer}
    (h : Writes.perform env c s l q a = some (s', l')) : l'.id = l.id := by
  have hsnd : ∀ {t : Writes σ} {m : Executor}, some (t, m) = some (s', l') → l' = m :=
    fun he => (congrArg Prod.snd (Option.some.inj he)).symm
  unfold Writes.perform at h
  split at h
  · obtain ⟨_, -, h⟩ := Option.bind_eq_some_iff.1 h
    split at h
    · rw [hsnd h]
    · cases h
  · split at h
    · rw [hsnd h]
    · rw [hsnd h]
    · split at h
      · rw [hsnd h]
      · cases h
    · rw [hsnd h]

/-- **The executors are sound.** -/
theorem executors_sound (henv : env.TellsApart) :
    (executors (σ := σ) env lib).Sound fun r s l => ∀ a, r = .ok a → anyEnd a s l where
  main _ _ _ hadmits := program_runs henv hadmits
  name _ _ _ _ _ _ _ h := perform_id h
  move _ _ _ hinv hmove := hinv.move hmove
  others l l' _ s s' hne _ _ hguar := by
    refine ⟨hguar.operations, hguar.leases, hguar.dispatches, fun call hcall => ?_⟩
    refine (hguar.calls call hcall).imp id fun hid => ?_
    rw [hid]
    exact hne

theorem orderly_start : Orderly env lib (⟨Sys.start σ, [], []⟩ : Writes σ) :=
  ⟨Sys.journaled_start, by simp, by simp, by simp, by simp, by simp, by simp⟩

end Writes

/-! ### The result -/

/-- The executors of a system, and what each of them still has to do. -/
abbrev Bureau (σ : Type) : Type :=
  Pool Nat (Writes σ) Executor LedgerQuery (fun q => Except LedgerError q.Answer)
    (Except LedgerError PUnit)

/-- An event among executors. -/
abbrev BureauEvent (σ : Type) : Type :=
  PoolEvent Nat Executor LedgerChoice (Event σ) LedgerQuery fun q => Except LedgerError q.Answer

/-- **What was sent**, at any moment. -/
structure Writes.SentOnce (s : Writes σ) : Prop where
  /-- No two patches were sent for one run. -/
  single : (s.calls.map fun call => call.lease.row.runId).Nodup
  /-- The write of a patch that was sent has been dispatched, for good. -/
  dispatched : ∀ call ∈ s.calls, ∃ o ∈ s.sys.db.operations, o.runId = call.lease.row.runId ∧
    o.state ≠ .prepared
  /-- A write that a human has withdrawn was not sent. -/
  withdrawn : ∀ o ∈ s.sys.db.operations, o.errorCode = some supersededCode →
    ∀ call ∈ s.calls, call.lease.row.runId ≠ o.runId

/-- **A patch that was sent is what a human has approved**, and wherever it is applied, it writes
what was planned and nothing else. -/
structure PatchCall.AsApproved (env : Env) (lib : LedgerLibrary) (db : Db) (call : PatchCall)
    (auth : ExecutionAuthorization) (o : Operation) : Prop
    extends PatchCall.Carries env lib db call auth o where
  rests : auth.Rests env lib.toExecutionLibrary call.state
  identified : o.beforeSnapshot.uid.getD "" ≠ ""
  guarded : ∀ doc doc', applyPatch doc call.body = some doc' →
    GuardedWrite auth.plan o.beforeSnapshot doc doc'

namespace Bureau

open Writes

/-- The states of the executors. -/
def Reachable (env : Env) (lib : LedgerLibrary) (p : Bureau σ) : Prop :=
  Transition.Reachable (executors env lib).next (Threads.idle ⟨Sys.start σ, [], []⟩) p

theorem Reachable.orderly {p : Bureau σ} (henv : env.TellsApart) (hp : p.Reachable env lib) :
    Orderly env lib p.shared :=
  ((executors_sound henv).holds_of_reachable orderly_start hp).inv

/-- **No write is sent twice**, and none that was withdrawn, wherever executors crash and however
their transactions interleave. -/
theorem Reachable.sentOnce {p : Bureau σ} (henv : env.TellsApart) (hp : p.Reachable env lib) :
    p.shared.SentOnce where
  single := (hp.orderly henv).single
  dispatched call hcall := (hp.orderly henv).dispatched _ ((hp.orderly henv).sent call hcall)
  withdrawn o ho hcode call hcall :=
    (hp.orderly henv).withdrawn o ho hcode _ ((hp.orderly henv).sent call hcall)

/-- **Every patch that is sent is as it was approved.** -/
theorem Reachable.asApproved {p : Bureau σ} (henv : env.TellsApart) (hp : p.Reachable env lib) :
    ∀ call ∈ p.shared.calls, ∃ auth, ∃ o ∈ p.shared.sys.db.operations,
      call.AsApproved env lib p.shared.sys.db auth o := by
  intro call hcall
  have h := hp.orderly henv
  obtain ⟨auth, o, ho, hcarries⟩ := h.approved call hcall
  obtain ⟨resource, -, huid, hbuilt⟩ := (h.sys.journaled o ho).built
  refine ⟨auth, o, ho, hcarries, validateExecutionAuthorization_eq_ok hcarries.authorized, huid,
    fun doc doc' happly => ?_⟩
  rw [hcarries.target.2.2.2] at happly
  rw [hcarries.plan.1] at hbuilt
  exact guardedWrite_of_applyPatch hbuilt happly

/-- **The journal says of every write what was answered to it.** -/
theorem Reachable.journalTold {p : Bureau σ} (henv : env.TellsApart) (hp : p.Reachable env lib) :
    ∀ o ∈ p.shared.sys.db.operations, o.Journaled env lib :=
  (hp.orderly henv).sys.journaled

/-! ### A write that is sent -/

/-- What identifies the operation of the run. -/
def writtenOperation : Json :=
  .obj [("run", .str "run-1"), ("plan", .str "0"), ("approval", .str "apr-0123456789abcdef"),
    ("sequence", .num 0)]

/-- The environment of the approval, with short digests for what was shown and for the operation,
too. -/
def ledgerEnv : Env :=
  { stampedEnv with
    requestDigest := fun v =>
      if v = bindingPayload approvedState then "1"
      else if v = writtenOperation then "2"
      else stampedEnv.requestDigest v }

theorem ledgerEnv_cases (v : Json) :
    (v = bindingPayload approvedState ∧ ledgerEnv.requestDigest v = "1") ∨
      (v = writtenOperation ∧ ledgerEnv.requestDigest v = "2") ∨
      ledgerEnv.requestDigest v = stampedEnv.requestDigest v := by
  by_cases hv : v = bindingPayload approvedState
  · exact Or.inl ⟨hv, if_pos hv⟩
  · by_cases hv' : v = writtenOperation
    · exact Or.inr (Or.inl ⟨hv', (if_neg hv).trans (if_pos hv')⟩)
    · exact Or.inr (Or.inr ((if_neg hv).trans (if_neg hv')))

theorem ledgerEnv_tellsApart : ledgerEnv.TellsApart := by
  intro v w h
  have hother : ∀ u : Json,
      stampedEnv.requestDigest u ≠ "1" ∧ stampedEnv.requestDigest u ≠ "2" := by
    intro u
    rcases stampedEnv_cases u with ⟨-, hu⟩ | ⟨-, hu⟩ | hu <;> rw [hu]
    · decide
    · decide
    · constructor <;> exact fun he => by simpa using congrArg (fun text => text.toList.head?) he
  rcases ledgerEnv_cases v with ⟨rfl, hv⟩ | ⟨rfl, hv⟩ | hv <;>
    rcases ledgerEnv_cases w with ⟨rfl, hw⟩ | ⟨rfl, hw⟩ | hw <;>
    replace h := (hv.symm.trans h).trans hw
  · rfl
  · exact absurd h (by decide)
  · exact absurd h.symm (hother w).1
  · exact absurd h (by decide)
  · rfl
  · exact absurd h.symm (hother w).2
  · exact absurd h (hother v).1
  · exact absurd h (hother v).2
  · exact stampedEnv_tellsApart v w h

/-- The library of the execution. -/
def ledgerLibrary : LedgerLibrary := { boundLibrary with tooLong := id }

/-- A client or a worker asks and waits. -/
def asks (request : Sys Unit → Request) (p : Bureau Unit) : List (BureauEvent Unit) :=
  (Sys.ask request default p.shared.sys).map .move

/-- The run waits for an approval, is approved and claimed again. -/
def approving : List (Bureau Unit → List (BureauEvent Unit)) :=
  [asks fun _ => .accept "incident-1" "run-1" "thread-1" default none true,
    asks fun _ => .claim "worker-1" 30 3,
    asks fun s => .finish s.lease .waitingApproval
      ⟨some "waiting_approval", none, none, none, none, none⟩,
    asks fun _ => .queueApproval "run-1" boundDecision (approvalBinding ledgerEnv approvedState),
    asks fun _ => .claim "worker-2" 30 3]

/-- What the world answers to an executor whose write succeeds. -/
def replies (p : Bureau Unit) : (q : LedgerQuery) → Except LedgerError q.Answer
  | .isLost => .ok false
  | .assertOwned | .beforeWrite | .dispatch _ | .record _ _ => .ok ()
  | .operation => .ok (p.shared.sys.db.operation? "run-1")
  | .revalidate _ _ => .ok "7"
  | .readTarget _ _ _ => .ok (readService "7" "old")
  | .prepare args => .ok (Operation.initial ledgerEnv p.shared.sys.lease args
      (p.shared.sys.now + 1))
  | .patch _ _ _ _ => .ok (readService "8" "web")
  | .clock => .ok 5

/-- The executor asks its next query. -/
def asksNext (p : Bureau Unit) : List (BureauEvent Unit) :=
  [.step 7 ⟨p.shared.sys.now + 1, default, [], false⟩ (replies p)]

/-- The run is approved, and its write is executed. -/
def executed : List (Bureau Unit → List (BureauEvent Unit)) :=
  approving ++ [fun p => [.spawn 7 ⟨7, p.shared.sys.lease, .execute approvedState, none⟩]] ++
    List.replicate 13 asksNext

/-- The write is sent, and journaled with its answer. -/
theorem exists_executed : ∃ p : Bureau Unit, p.Reachable ledgerEnv ledgerLibrary ∧
    (p.shared.calls.map fun call => call.lease.row.runId) = ["run-1"] ∧
    (p.shared.sys.db.operations.map fun o => o.state) = [.succeeded] := by
  obtain ⟨p, -, hp, hsent⟩ := Transition.exists_reachable
    (executors ledgerEnv ledgerLibrary).next (Threads.idle ⟨Sys.start Unit, [], []⟩) executed
    (fun p => (p.shared.calls.map fun call => call.lease.row.runId) = ["run-1"] ∧
      (p.shared.sys.db.operations.map fun o => o.state) = [.succeeded])
    (by decide +kernel)
  exact ⟨p, hp, hsent⟩

theorem sentOnce_executed : ∃ p : Bureau Unit,
    (p.shared.calls.map fun call => call.lease.row.runId) = ["run-1"] ∧ p.shared.SentOnce := by
  obtain ⟨p, hp, hcalls, -⟩ := exists_executed
  exact ⟨p, hcalls, Reachable.sentOnce ledgerEnv_tellsApart hp⟩

theorem asApproved_executed : ∃ p : Bureau Unit, ∃ call ∈ p.shared.calls, ∃ auth,
    ∃ o ∈ p.shared.sys.db.operations,
      call.AsApproved ledgerEnv ledgerLibrary p.shared.sys.db auth o := by
  obtain ⟨p, hp, hcalls, -⟩ := exists_executed
  obtain ⟨call, hcall⟩ : ∃ call, call ∈ p.shared.calls := by
    refine List.exists_mem_of_ne_nil _ fun hnil => ?_
    rw [hnil] at hcalls
    cases hcalls
  exact ⟨p, call, hcall, Reachable.asApproved ledgerEnv_tellsApart hp call hcall⟩

theorem journalTold_executed : ∃ p : Bureau Unit,
    (p.shared.sys.db.operations.map fun o => o.state) = [.succeeded] ∧
    ∀ o ∈ p.shared.sys.db.operations, o.Journaled ledgerEnv ledgerLibrary := by
  obtain ⟨p, hp, -, hstates⟩ := exists_executed
  exact ⟨p, hstates, Reachable.journalTold ledgerEnv_tellsApart hp⟩

end Bureau

end IncidentAgent
