import IncidentAgent.Executor.Ledger
import IncidentAgent.System.Journal

/-!
# What the journal says

The row of an operation is written by the executor and read by whoever recovers the run, so that it
has to be right by itself. `Operation.Journaled` says what it means: the patch was built from the
target that the row remembers and carries out the plan that was approved, and a write is confirmed
exactly if its own answer was as planned and is kept. The executor asks for nothing else
(`Request.Faithful`), and nothing that anybody asks changes it (`Operation.Journaled.moves`).
-/

namespace IncidentAgent

variable {env : Env} {lib : LedgerLibrary}

/-! ### The row -/

/-- **What the columns say that no statement updates.** -/
structure Operation.Planned (env : Env) (lib : LedgerLibrary) (o : Operation) : Prop where
  operationId : o.operationId = IncidentAgent.operationId env o.runId o.planRevision o.approvalId
  revision : o.planRevision = IncidentAgent.planRevision env o.planSnapshot
  action : o.action = o.planSnapshot.action
  /-- The approval is that of the row that was claimed. -/
  approved : ∃ saved, o.approvalSnapshot = some saved ∧ saved.decision.approved = true ∧
    saved.decision.approvalId = o.approvalId
  target : o.targetSnapshot =
    { o.beforeSnapshot with configuration := desiredConfiguration o.planSnapshot }
  /-- The patch was built from what was read. -/
  built : ∃ resource, IncidentAgent.targetSnapshot lib o.planSnapshot.parameters resource =
      .ok o.beforeSnapshot ∧ o.beforeSnapshot.uid.getD "" ≠ "" ∧
    buildPatch o.planSnapshot resource o.beforeSnapshot = .ok o.requestPatch

/-- **A write is confirmed by its answer**: the object is the one that was read, in a new version
and as planned, and the result says so. -/
structure Operation.ConfirmedBy (o : Operation) (after : ResourceSnapshot)
    (result : ActionExecutionResult) : Prop where
  uid : after.uid = o.beforeSnapshot.uid
  configuration : after.configuration = o.targetSnapshot.configuration
  version : after.resourceVersion ≠ "" ∧ after.resourceVersion ≠ o.beforeSnapshot.resourceVersion
  status : result.status = .succeeded
  approval : result.approvalId = o.approvalId ∧ result.action = o.action
  snapshots : result.beforeSnapshot = some o.beforeSnapshot ∧ result.afterSnapshot = some after
  patch : result.appliedPatch = o.requestPatch

/-- The outcomes of a write that is known to have been carried out. -/
def OperationState.done : OperationState → Bool
  | .succeeded | .reconciled => true
  | _ => false

/-- **What the row of an operation says.** -/
structure Operation.Journaled (env : Env) (lib : LedgerLibrary) (o : Operation) : Prop
    extends Operation.Planned env lib o where
  /-- The attribution is that of the state. -/
  attributed : o.attribution = .confirmed ↔ o.state.done = true
  settled : o.state.done = true → ∃ after result, o.responseSnapshot = some after ∧
    o.result = some result ∧ o.ConfirmedBy after result
  /-- What was read again is what the write was answered. -/
  observed : o.state = .reconciled → o.observedSnapshot = o.responseSnapshot
  unsent : o.state = .prepared → o.responseSnapshot = none ∧ o.result = none
  withdrawn : o.errorCode = some supersededCode → o.state = .rejected

/-! ### What is asked for -/

/-- **An outcome that an operation accepts.** -/
structure Operation.Accepts (o : Operation) (state : OperationState) (args : RecordArgs) :
    Prop where
  code : args.code ≠ some supersededCode
  succeeded : state = .succeeded → args.attribution = .confirmed ∧ ∃ after result,
    args.response = some after ∧ args.result = some result ∧ o.ConfirmedBy after result
  reconciled : state = .reconciled → args.attribution = .confirmed ∧ args.response = none ∧
    args.result = none ∧ ∃ observed, args.observed = some observed ∧
      o.responseSnapshot = some observed
  otherwise : state.done = false → args.attribution = .notEstablished

/-- **A faithful request**: it prepares a write as it was planned, and records an outcome that its
operation accepts. -/
def Request.Faithful (env : Env) (lib : LedgerLibrary) (db : Db) : Request → Prop
  | .prepare lease args => ∀ now, (Operation.initial env lease args now).Planned env lib
  | .record lease state args => (∀ o : Operation, o.Accepts state args) ∨
      ∃ o ∈ db.operations, o.runId = lease.row.runId ∧ o.Accepts state args
  | _ => True

section Moves

variable {request : Request} {o o' : Operation}

/-- What no statement updates says what it said. -/
theorem Operation.Planned.of_fixed (h : o.Planned env lib) (hfixed : o'.fixed = o.fixed) :
    o'.Planned env lib where
  operationId := by
    have hid := column_eq hfixed Operation.operationId fun _ => rfl
    have hrun := column_eq hfixed Operation.runId fun _ => rfl
    have hrevision := column_eq hfixed Operation.planRevision fun _ => rfl
    have happroval := column_eq hfixed Operation.approvalId fun _ => rfl
    rw [hid, hrun, hrevision, happroval]
    exact h.operationId
  revision := by
    rw [column_eq hfixed Operation.planRevision fun _ => rfl,
      column_eq hfixed Operation.planSnapshot fun _ => rfl]
    exact h.revision
  action := by
    rw [column_eq hfixed Operation.action fun _ => rfl,
      column_eq hfixed Operation.planSnapshot fun _ => rfl]
    exact h.action
  approved := by
    rw [column_eq hfixed Operation.approvalSnapshot fun _ => rfl,
      column_eq hfixed Operation.approvalId fun _ => rfl]
    exact h.approved
  target := by
    rw [column_eq hfixed Operation.targetSnapshot fun _ => rfl,
      column_eq hfixed Operation.beforeSnapshot fun _ => rfl,
      column_eq hfixed Operation.planSnapshot fun _ => rfl]
    exact h.target
  built := by
    rw [column_eq hfixed Operation.beforeSnapshot fun _ => rfl,
      column_eq hfixed Operation.planSnapshot fun _ => rfl,
      column_eq hfixed Operation.requestPatch fun _ => rfl]
    exact h.built

theorem Operation.ConfirmedBy.of_fixed {after : ResourceSnapshot} {result : ActionExecutionResult}
    (h : o.ConfirmedBy after result) (hfixed : o'.fixed = o.fixed) :
    o'.ConfirmedBy after result := by
  have hbefore := column_eq hfixed Operation.beforeSnapshot fun _ => rfl
  have htarget := column_eq hfixed Operation.targetSnapshot fun _ => rfl
  have happroval := column_eq hfixed Operation.approvalId fun _ => rfl
  have haction := column_eq hfixed Operation.action fun _ => rfl
  have hpatch := column_eq hfixed Operation.requestPatch fun _ => rfl
  refine ⟨?_, ?_, ?_, h.status, ?_, ?_, ?_⟩
  · exact hbefore ▸ h.uid
  · exact htarget ▸ h.configuration
  · exact hbefore ▸ h.version
  · exact happroval ▸ haction ▸ h.approval
  · exact hbefore ▸ h.snapshots
  · exact hpatch ▸ h.patch

/-- An outcome stays acceptable. -/
theorem Operation.Accepts.advances {state : OperationState} {args : RecordArgs}
    (h : o.Accepts state args) (ha : o.Advances o') : o'.Accepts state args where
  code := h.code
  succeeded hs := by
    obtain ⟨hattribution, after, result, hresponse, hresult, hconfirmed⟩ := h.succeeded hs
    exact ⟨hattribution, after, result, hresponse, hresult, hconfirmed.of_fixed ha.fixed⟩
  reconciled hs := by
    obtain ⟨hattribution, hresponse, hresult, observed, hobserved, hsaved⟩ := h.reconciled hs
    exact ⟨hattribution, hresponse, hresult, observed, hobserved, ha.response observed hsaved⟩
  otherwise := h.otherwise

/-- **An acceptable outcome is journaled.** -/
theorem Operation.Journaled.recorded {state : OperationState} {args : RecordArgs}
    (h : o.Journaled env lib) (hallowed : recordAllowed state o.state = true)
    (haccepts : o.Accepts state args) : (o.recorded state args).Journaled env lib := by
  have hplanned : (o.recorded state args).Planned env lib := h.toPlanned.of_fixed rfl
  have hprepared : state ≠ .prepared := (recordAllowed_ne hallowed).1
  cases hdone : state.done with
  | false =>
    have hnot := haccepts.otherwise hdone
    refine ⟨hplanned, ⟨fun hc => ?_, fun hd => ?_⟩, fun hd => ?_, fun hr => ?_, fun hp => ?_,
      fun hw => absurd hw haccepts.code⟩
    · exact absurd (hnot.symm.trans hc) (by decide)
    · exact absurd (hdone.symm.trans hd) (by decide)
    · exact absurd (hdone.symm.trans hd) (by decide)
    · have hr : state = .reconciled := hr
      rw [hr] at hdone
      cases hdone
    · exact absurd hp hprepared
  | true =>
    have hcases : state = .succeeded ∨ state = .reconciled := by
      revert hdone
      cases state <;> simp [OperationState.done]
    rcases hcases with rfl | rfl
    · obtain ⟨hconfirmed, after, result, hresponse, hresult, hby⟩ := haccepts.succeeded rfl
      refine ⟨hplanned, ⟨fun _ => rfl, fun _ => hconfirmed⟩, fun _ => ⟨after, result, ?_, ?_, ?_⟩,
        fun hr => (by cases hr), fun hp => (by cases hp), fun hw => absurd hw haccepts.code⟩
      · simp [Operation.recorded, hresponse]
      · simp [Operation.recorded, hresult]
      · exact hby.of_fixed rfl
    · obtain ⟨hconfirmed, hresponse, hresult, observed, hobserved, hsaved⟩ :=
        haccepts.reconciled rfl
      -- What is reconciled was done before.
      have hbefore : o.state.done = true := by
        revert hallowed
        cases o.state <;> simp [recordAllowed, OperationState.done]
      obtain ⟨after, result, hafter, hsettled, hby⟩ := h.settled hbefore
      refine ⟨hplanned, ⟨fun _ => rfl, fun _ => hconfirmed⟩, fun _ => ⟨after, result, ?_, ?_, ?_⟩,
        fun _ => ?_, fun hp => (by cases hp), fun hw => absurd hw haccepts.code⟩
      · simp [Operation.recorded, hresponse, hafter]
      · simp [Operation.recorded, hresult, hsettled]
      · exact hby.of_fixed rfl
      · simp [Operation.recorded, hresponse, hobserved, hsaved]

/-- **A move keeps what the row says**, if the outcome that it records is acceptable. -/
theorem Operation.Journaled.moves (h : o.Journaled env lib) (hmoves : o.Moves request o')
    (haccepts : ∀ lease state args, request = .record lease state args →
      o.runId = lease.row.runId → o.Accepts state args) : o'.Journaled env lib := by
  cases hmoves with
  | kept => exact h
  | withdrawn hprepared =>
    have hplanned : o.withdrawn.Planned env lib := h.toPlanned.of_fixed rfl
    refine ⟨hplanned, ⟨fun hc => ?_, fun hd => (by cases hd)⟩, fun hd => (by cases hd),
      fun hr => (by cases hr), fun hp => (by cases hp), fun _ => rfl⟩
    have hdone := h.attributed.1 hc
    rw [hprepared] at hdone
    cases hdone
  | @dispatched lease _ _ _ _ hprepared =>
    have hplanned : (o.dispatching lease).Planned env lib := h.toPlanned.of_fixed rfl
    refine ⟨hplanned, ⟨fun hc => ?_, fun hd => (by cases hd)⟩, fun hd => (by cases hd),
      fun hr => (by cases hr), fun hp => (by cases hp), fun hw => ?_⟩
    · have hdone := h.attributed.1 hc
      rw [hprepared] at hdone
      cases hdone
    · have hrejected := h.withdrawn hw
      rw [hprepared] at hrejected
      cases hrejected
  | recorded hr hrun hallowed _ _ => exact h.recorded hallowed (haccepts _ _ _ hr hrun)

/-- An operation that is entered as planned says nothing of an outcome. -/
theorem Operation.Planned.journaled {lease : Lease} {args : PrepareArgs} {now : Nat}
    (h : (Operation.initial env lease args now).Planned env lib) :
    (Operation.initial env lease args now).Journaled env lib :=
  ⟨h, ⟨fun hc => (by cases hc), fun hd => (by cases hd)⟩, fun hd => (by cases hd),
    fun hr => (by cases hr), fun _ => ⟨rfl, rfl⟩, fun hw => (by cases hw)⟩

end Moves

/-! ### The journal -/

section Requests

variable {request : Request} {db db' : Db}

/-- What was faithful stays so. -/
theorem Request.Faithful.later (h : request.Faithful env lib db) {now : Nat}
    (hlater : Db.Later now db db') : request.Faithful env lib db' := by
  cases request with
  | record lease state args =>
    rcases h with hall | ⟨o, ho, hrun, haccepts⟩
    · exact Or.inl hall
    · obtain ⟨o', ho', hadv⟩ := hlater.operations o ho
      exact Or.inr ⟨o', ho', hadv.runId.trans hrun, haccepts.advances hadv⟩
  | prepare lease args => exact h
  | _ => trivial

/-- **A faithful request keeps what the journal says.** -/
theorem Db.Journals.journaled (h : db.Journals env request db') (hk : db.Keys)
    (hfaithful : request.Faithful env lib db)
    (hjournaled : ∀ o ∈ db.operations, o.Journaled env lib) :
    ∀ o ∈ db'.operations, o.Journaled env lib := by
  intro o' ho'
  rcases h.cases_of_mem ho' with ⟨o, ho, hmoves⟩ | ⟨lease, args, now, rfl, rfl⟩
  · refine (hjournaled o ho).moves hmoves fun lease state args hr hrun => ?_
    subst hr
    rcases hfaithful with hall | ⟨p, hp, hprun, haccepts⟩
    · exact hall o
    · rwa [hk.operations.eq_of_key ho hp (hrun.trans hprun.symm)]
  · exact (hfaithful now).journaled

end Requests

end IncidentAgent
