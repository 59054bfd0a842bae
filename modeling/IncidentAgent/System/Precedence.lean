import IncidentAgent.System.Arbitration

/-!
# Who comes first: the human or the write

The arbitration between humans and workers, as a property of whole runs of the system. A
control that is recorded before the write of the latest diagnosis is dispatched withdraws
the diagnosis, and no transaction takes that write any further (`Sys.Sound.withdrawn`,
`Sys.Sound.barred`). A control that is recorded after the dispatch leaves the write alone,
and the diagnosis is never published as a result (`Sys.Sound.stopped_after_dispatch`,
`Sys.Sound.unpublished`).
-/

namespace IncidentAgent

/-! ### What takes a write towards the cluster -/

/-- The requests that take the write of a run towards the cluster. -/
def Request.Forwards (runId : String) : Request → Prop
  | .prepare lease _ | .dispatch lease _ => lease.row.runId = runId
  | .queueApproval id _ _ => id = runId
  | _ => False

section Store

variable {env : Env} {tx : Tx} {db db' : Db}

/-- What takes a write towards the cluster has checked the revision of its run. -/
theorem transact_forwards {skipped : List String} {request : Request} {response : Response}
    {runId : String} (hforwards : request.Forwards runId)
    (h : transact env tx skipped request db = .ok (response, db')) :
    assertRevision db runId = .ok ⟨⟩ := by
  cases request <;> simp only [Request.Forwards] at hforwards <;> subst hforwards <;>
    simp only [transact, map_eq_ok, Prod.mk.injEq] at h
  case queueApproval =>
    obtain ⟨db₁, h, -⟩ := h
    obtain ⟨_, -, hrev, -⟩ := queueApproval_eq_ok h
    exact hrev
  case prepare =>
    obtain ⟨⟨o, db₁⟩, h, -⟩ := h
    exact (prepare_eq_ok h).2.2.1
  case dispatch =>
    obtain ⟨db₁, h, -⟩ := h
    exact (dispatch_eq_ok h).2.1

/-- **What a new control does to the latest diagnosis** and to its operation. -/
theorem control_latest (hs : db.History env) {incidentId : String} {body : ControlRequest}
    {expectedParent : Option String} {snapshot : Json} {view : ControlView} {latest : Run}
    (hnew : db.controlByClient? incidentId body.clientMessageId = none)
    (hlatest : db.latest incidentId = some latest)
    (h : control env tx incidentId body expectedParent snapshot db = .ok (view, db')) :
    (∀ r' ∈ db'.runs, r'.runId = latest.runId → r'.runKind = .diagnosis →
      r' = latest.arbitrated tx.now (writeDispatched (db.operation? latest.runId)) snapshot) ∧
    db'.operation? latest.runId = (db.operation? latest.runId).map fun o =>
      if latest.active ∧ writeDispatched (db.operation? latest.runId) = false ∧
          o.runId = latest.runId ∧ o.state = .prepared then
        { o with state := .rejected, errorCode := some "INPUT_SUPERSEDED" } else o := by
  obtain ⟨hl, -, -⟩ := Db.mem_lane.1 (Db.mem_lane_of_latest hlatest)
  rcases control_eq_ok h with ⟨_, hfound, -⟩ |
    ⟨_, message, db₁, row, -, hlatest', hmessage, -, -, -, hinsert⟩
  · simp [hnew] at hfound
  · obtain rfl := Option.some.inj (hlatest.symm.trans hlatest')
    obtain ⟨-, rfl⟩ := Db.insertControl_eq_ok hinsert
    have happ := (messageInTransaction_eq_ok hmessage).1
    have hedits : Db.Edits env tx false db db₁ := happ.edits
    have hk₁ : db₁.Keys := hedits.keys hs.keys
    have hop : db₁.operation? latest.runId = db.operation? latest.runId := by
      rcases happ with rfl | ⟨_, -, rfl⟩ <;> rfl
    constructor
    · intro r' hr' hid hkind
      obtain ⟨r, hr, rfl⟩ := arbitrate_run hk₁ (happ.runs ▸ hl) hr' hkind
      rw [happ.runs] at hr
      by_cases hsel : r.runId = latest.runId
      · obtain rfl := hs.keys.runs.eq_of_key hr hl hsel
        rw [if_pos rfl, hop]
      · rw [if_neg hsel] at hid
        exact absurd hid hsel
    · rw [← hop]
      exact arbitrate_operation _

end Store

/-! ### Runs of the system -/

namespace Sys

variable {σ : Type} {env : Env} {s s' : Sys σ}

/-- A diagnosis keeps its row over a run. -/
theorem Sound.follow (h : s.Sound env) {es : List (Event σ)}
    (hrun : Transition.run (next env) s es = some s') {r : Run} (hr : r ∈ s.db.runs) :
    ∃ r' ∈ s'.db.runs, r'.runId = r.runId ∧ r.Advances s.now r' ∧
      ∀ q ∈ s'.db.runs, q.runId = r.runId → q = r' := by
  obtain ⟨hs', -, hlater⟩ := h.run hrun
  obtain ⟨r', hr', hadv⟩ := hlater.runs r hr
  exact ⟨r', hr', hadv.runId, hadv, fun q hq hid =>
    hs'.store.keys.runs.eq_of_key hq hr' (hid.trans hadv.runId.symm)⟩

/-- **Nothing takes the write of a stopped run further.** -/
theorem Sound.barred (h : s.Sound env) {r : Run} (hr : r ∈ s.db.runs)
    (hstop : r.stopRequested = true) {es : List (Event σ)} {s₁ s₂ : Sys σ}
    (hrun : Transition.run (next env) s es = some s₁) {request : Request} {response : Response}
    (hc : s₁.Commits env request response s₂) : ¬ request.Forwards r.runId := by
  intro hforwards
  obtain ⟨hs₁, -, -⟩ := h.run hrun
  obtain ⟨r₁, hr₁, hid, hadv, -⟩ := h.follow hrun hr
  obtain ⟨tx, skipped, -, -, -, hok⟩ := hs₁.of_commits hc
  have hrev := transact_forwards hforwards hok
  rw [← hid] at hrev
  have hfree := (hs₁.store.keys.current hr₁ hrev).1
  have hstopped : r₁.stopRequested = true := hadv.stopped hstop
  simp [Db.work, hstopped] at hfree

/-- **A control before the dispatch withdraws the diagnosis.** -/
theorem Sound.withdrawn (h : s.Sound env) {incidentId : String} {body : ControlRequest}
    {expectedParent : Option String} {snapshot : Json} {view : ControlView} {r : Run}
    (hnew : s.db.controlByClient? incidentId body.clientMessageId = none)
    (hlatest : s.db.latest incidentId = some r) (hactive : r.active)
    (hw : ∀ o ∈ s.db.operation? r.runId, o.state = .prepared ∨ o.state = .rejected)
    (hc : s.Commits env (.control incidentId body expectedParent snapshot) (.view view) s') :
    (∃ r' ∈ s'.db.runs, r'.runId = r.runId ∧ r'.status = .cancelled ∧
      r'.stopRequested = true) ∧
    (s'.db.operation? r.runId).map (·.state) =
      (s.db.operation? r.runId).map fun _ => .rejected := by
  obtain ⟨tx, skipped, -, -, -, hok⟩ := h.of_commits hc
  obtain ⟨_, _, _, _, _, hnext, -⟩ := hc
  simp only [transact, map_eq_ok, Prod.mk.injEq] at hok
  obtain ⟨⟨view', db⟩, hok, -, rfl⟩ := hok
  obtain ⟨hrow, hop⟩ := control_latest h.store.history hnew hlatest hok
  obtain ⟨hr, -, hkind⟩ := Db.mem_lane.1 (Db.mem_lane_of_latest hlatest)
  have hdispatched : writeDispatched (s.db.operation? r.runId) = false := by
    cases hfound : s.db.operation? r.runId with
    | none => rfl
    | some o => rcases hw o hfound with ho | ho <;> simp [writeDispatched, ho,
        OperationState.dispatched]
  constructor
  · obtain ⟨-, -, hlater⟩ := h.step hnext
    obtain ⟨r', hr', hadv⟩ := hlater.runs r hr
    obtain rfl := hrow r' hr' hadv.runId (hadv.runKind.trans hkind)
    refine ⟨_, hr', hadv.runId, ?_, ?_⟩ <;>
      simp [Run.arbitrated, hactive, hdispatched, Run.superseded, Run.stopped]
  · rw [hop]
    cases hfound : s.db.operation? r.runId with
    | none => rfl
    | some o =>
      have horun := (Db.mem_of_operation? hfound).2
      rw [hfound] at hdispatched
      rcases hw o hfound with ho | ho <;> simp [hactive, hdispatched, horun, ho]

/-- **A control after the dispatch leaves the write alone** and asks the diagnosis to stop. -/
theorem Sound.stopped_after_dispatch (h : s.Sound env) {incidentId : String}
    {body : ControlRequest} {expectedParent : Option String} {snapshot : Json}
    {view : ControlView} {r : Run}
    (hnew : s.db.controlByClient? incidentId body.clientMessageId = none)
    (hlatest : s.db.latest incidentId = some r) (hactive : r.active)
    (hw : ∃ o ∈ s.db.operation? r.runId, o.state ≠ .prepared ∧ o.state ≠ .rejected)
    (hc : s.Commits env (.control incidentId body expectedParent snapshot) (.view view) s') :
    (∃ r' ∈ s'.db.runs, r'.runId = r.runId ∧ r'.status = r.status ∧ r'.stopRequested = true) ∧
    s'.db.operation? r.runId = s.db.operation? r.runId := by
  obtain ⟨tx, skipped, -, -, -, hok⟩ := h.of_commits hc
  obtain ⟨_, _, _, _, _, hnext, -⟩ := hc
  simp only [transact, map_eq_ok, Prod.mk.injEq] at hok
  obtain ⟨⟨view', db⟩, hok, -, rfl⟩ := hok
  obtain ⟨hrow, hop⟩ := control_latest h.store.history hnew hlatest hok
  obtain ⟨hr, -, hkind⟩ := Db.mem_lane.1 (Db.mem_lane_of_latest hlatest)
  have hdispatched : writeDispatched (s.db.operation? r.runId) = true := by
    obtain ⟨o, ho, hne⟩ := hw
    rw [Option.mem_def] at ho
    rw [ho]
    cases hstate : o.state <;> simp_all [writeDispatched, OperationState.dispatched]
  constructor
  · obtain ⟨-, -, hlater⟩ := h.step hnext
    obtain ⟨r', hr', hadv⟩ := hlater.runs r hr
    obtain rfl := hrow r' hr' hadv.runId (hadv.runKind.trans hkind)
    refine ⟨_, hr', hadv.runId, ?_, ?_⟩ <;>
      simp [Run.arbitrated, hactive, hdispatched, Run.stopped]
  · rw [hop]
    simp [hdispatched]

/-- **A stopped diagnosis is not published**: no step takes it to a result or to a wait. -/
theorem Sound.unpublished (h : s.Sound env) {r : Run} (hr : r ∈ s.db.runs)
    (hkind : r.runKind = .diagnosis) (hstop : r.stopRequested = true) {e : Event σ}
    (hnext : next env s e = some s') {r' : Run} (hr' : r' ∈ s'.db.runs)
    (hid : r'.runId = r.runId) (hp : r'.status.published = true) : r'.status = r.status := by
  obtain ⟨hs', -, hlater⟩ := h.step hnext
  obtain ⟨q, hq, hadv⟩ := hlater.runs r hr
  obtain rfl := hs'.store.keys.runs.eq_of_key hr' hq (hid.trans hadv.runId.symm)
  rcases h.moves hnext r' hr' (hadv.runKind.trans hkind) with ⟨p, hp', hpid, -, hstep⟩ | ⟨hnew, -⟩
  · obtain rfl := h.store.keys.runs.eq_of_key hp' hr (hpid.trans hid)
    exact hstep.never_published hstop hp
  · exact absurd hid.symm (hnew r hr)

/-- A stopped diagnosis that has not ended comes to no result. -/
theorem Sound.no_result (h : s.Sound env) {r : Run} (hr : r ∈ s.db.runs)
    (hkind : r.runKind = .diagnosis) (hstop : r.stopRequested = true) (hactive : r.active)
    {es : List (Event σ)} (hrun : Transition.run (next env) s es = some s') {r' : Run}
    (hr' : r' ∈ s'.db.runs) (hid : r'.runId = r.runId) :
    r'.status ≠ .succeeded ∧ r'.status ≠ .failed := by
  have hinv : ∀ q ∈ s'.db.runs, q.runId = r.runId →
      q.stopRequested = true ∧ q.runKind = .diagnosis ∧ q.status ≠ .succeeded ∧
        q.status ≠ .failed := by
    refine (Transition.Run.invariant (P := fun m : Sys σ => m.Sound env ∧
      (∃ q ∈ m.db.runs, q.runId = r.runId) ∧ ∀ q ∈ m.db.runs, q.runId = r.runId →
      q.stopRequested = true ∧ q.runKind = .diagnosis ∧ q.status ≠ .succeeded ∧
        q.status ≠ .failed) ?_ ⟨h, ⟨r, hr, rfl⟩, ?_⟩ hrun).2.2
    · rintro m e m' ⟨hm, ⟨q, hq, hqid⟩, hall⟩ hnext
      obtain ⟨hm', -, hlater⟩ := hm.step hnext
      obtain ⟨q', hq', hadv⟩ := hlater.runs q hq
      refine ⟨hm', ⟨q', hq', hadv.runId.trans hqid⟩, fun p hp hpid => ?_⟩
      obtain rfl := hm'.store.keys.runs.eq_of_key hp hq'
        (hpid.trans (hadv.runId.trans hqid).symm)
      obtain ⟨hqs, hqk, hsucceeded, hfailed⟩ := hall q hq hqid
      have hsame : p.status.published = true → p.status = q.status := fun hpub =>
        hm.unpublished hq hqk hqs hnext hp (hpid.trans hqid.symm) hpub
      refine ⟨hadv.stopped hqs, hadv.runKind.trans hqk, fun hp => ?_, fun hp => ?_⟩
      · exact hsucceeded ((hsame (by rw [hp]; rfl)).symm.trans hp)
      · exact hfailed ((hsame (by rw [hp]; rfl)).symm.trans hp)
    · intro q hq hqid
      obtain rfl := h.store.keys.runs.eq_of_key hq hr hqid
      have ha : q.status.terminal = false := by simpa [Run.active] using hactive
      exact ⟨hstop, hkind, fun hs => by simp [hs, RunStatus.terminal] at ha,
        fun hs => by simp [hs, RunStatus.terminal] at ha⟩
  exact (hinv r' hr' hid).2.2

/-- **What is finished over a request to stop** is cancelled, or reconciled first. -/
theorem Sound.finish_remapped (h : s.Sound env) {r : Run} (hr : r ∈ s.db.runs)
    (hstop : r.stopRequested = true) {lease : Lease} {status published : RunStatus}
    {args : FinishArgs} (hid : lease.row.runId = r.runId) (hp : status.published = true)
    (hc : s.Commits env (.finish lease status args) (.status published) s') :
    published = .cancelled ∨ published = .reconciling := by
  obtain ⟨tx, skipped, -, -, -, hok⟩ := h.of_commits hc
  simp only [transact, map_eq_ok, Prod.mk.injEq, Response.status.injEq] at hok
  obtain ⟨⟨p, db⟩, hok, rfl, -⟩ := hok
  obtain ⟨row, phase, code, hfence, -, -, hout, -⟩ := finish_eq_ok hok
  have hrow := h.store.keys.eq_of_fence hfence r hr hid.symm
  rw [← hrow] at hout
  rcases finishOutcome_cases hout with ⟨hsame, hnever⟩ | ⟨-, hrec, -⟩ | ⟨-, hcan, -⟩
  · obtain ⟨h₁, h₂, h₃, h₄⟩ := hnever hstop
    have hpublished : p.published = true := hsame ▸ hp
    cases p <;> simp_all [RunStatus.published]
  · exact Or.inr hrec
  · exact Or.inl hcan

/-- **The earlier of the two wins.** What holds of a state in which a human and the write of
the latest diagnosis of an incident race, whichever comes first, and of every diagnosis
meanwhile. -/
structure Precedence (env : Env) (s : Sys σ) : Prop where
  /-- A control that is recorded before the dispatch withdraws the diagnosis for good. -/
  withdrawn : ∀ incidentId body expectedParent snapshot view s' r,
    s.db.controlByClient? incidentId body.clientMessageId = none →
    s.db.latest incidentId = some r → r.active →
    (∀ o ∈ s.db.operation? r.runId, o.state = .prepared ∨ o.state = .rejected) →
    s.Commits env (.control incidentId body expectedParent snapshot) (.view view) s' →
      (∃ r' ∈ s'.db.runs, r'.runId = r.runId ∧ r'.status = .cancelled) ∧
      (s'.db.operation? r.runId).map (·.state) =
        (s.db.operation? r.runId).map (fun _ => .rejected) ∧
      ∀ es s₁, Transition.run (next env) s' es = some s₁ →
        ∀ request response s₂, s₁.Commits env request response s₂ → ¬ request.Forwards r.runId
  /-- A control that is recorded after the dispatch leaves the write alone, and the
  diagnosis comes to no result and no wait from then on. -/
  stopped : ∀ incidentId body expectedParent snapshot view s' r,
    s.db.controlByClient? incidentId body.clientMessageId = none →
    s.db.latest incidentId = some r → r.active →
    (∃ o ∈ s.db.operation? r.runId, o.state ≠ .prepared ∧ o.state ≠ .rejected) →
    s.Commits env (.control incidentId body expectedParent snapshot) (.view view) s' →
      (∃ r' ∈ s'.db.runs, r'.runId = r.runId ∧ r'.status = r.status ∧
        r'.stopRequested = true) ∧
      s'.db.operation? r.runId = s.db.operation? r.runId ∧
      ∀ es s₁, Transition.run (next env) s' es = some s₁ →
        ∀ r₁ ∈ s₁.db.runs, r₁.runId = r.runId →
          (r₁.status ≠ .succeeded ∧ r₁.status ≠ .failed) ∧
          (∀ e s₂, next env s₁ e = some s₂ → ∀ r₂ ∈ s₂.db.runs, r₂.runId = r.runId →
            r₂.status.published → r₂.status = r₁.status) ∧
          ∀ lease status args published s₂, lease.row.runId = r.runId → status.published →
            s₁.Commits env (.finish lease status args) (.status published) s₂ →
              published = .cancelled ∨ published = .reconciling
  /-- The write of a cancelled diagnosis has a known outcome, if there is one. -/
  cancelled : ∀ r ∈ s.db.runs, r.runKind = .diagnosis → r.status = .cancelled →
    ∀ o ∈ s.db.operations, o.runId = r.runId →
      o.state = .rejected ∨ o.state = .succeeded ∨ o.state = .reconciled
  /-- An active diagnosis that was not asked to stop is at the revision of its incident. -/
  current : ∀ r ∈ s.db.runs, r.runKind = .diagnosis → r.active → r.stopRequested = false →
    ∃ i ∈ s.db.incidents, i.incidentId = r.incidentId ∧ r.eventRevision = i.eventRevision

/-- **Human control and the dispatch of a write are arbitrated**, in every reachable state. -/
theorem Reachable.arbitrated (hs : s.Reachable env) : s.Precedence env where
  withdrawn := by
    intro incidentId body expectedParent snapshot view s' r hnew hlatest hactive hw hc
    have h := hs.sound
    obtain ⟨⟨r', hr', hid, hstatus, hstop⟩, hop⟩ := h.withdrawn hnew hlatest hactive hw hc
    refine ⟨⟨r', hr', hid, hstatus⟩, hop, fun es s₁ hrun request response s₂ hc' => ?_⟩
    obtain ⟨_, _, _, _, _, hnext, -⟩ := hc
    exact hid ▸ (h.step hnext).1.barred hr' hstop hrun hc'
  stopped := by
    intro incidentId body expectedParent snapshot view s' r hnew hlatest hactive hw hc
    have h := hs.sound
    obtain ⟨⟨r', hr', hid, hstatus, hstop⟩, hop⟩ :=
      h.stopped_after_dispatch hnew hlatest hactive hw hc
    refine ⟨⟨r', hr', hid, hstatus, hstop⟩, hop, fun es s₁ hrun r₁ hr₁ hid₁ => ?_⟩
    obtain ⟨_, _, _, _, _, hnext, -⟩ := hc
    obtain ⟨hs', -, hlater⟩ := h.step hnext
    obtain ⟨hs₁, -, -⟩ := hs'.run hrun
    obtain ⟨hr, -, hkind⟩ := Db.mem_lane.1 (Db.mem_lane_of_latest hlatest)
    have hkind' : r'.runKind = .diagnosis := by
      obtain ⟨q, hq, hadv⟩ := hlater.runs r hr
      obtain rfl := hs'.store.keys.runs.eq_of_key hr' hq (hid.trans hadv.runId.symm)
      exact hadv.runKind.trans hkind
    have hactive' : r'.active := by
      simpa only [Run.active, hstatus] using hactive
    obtain ⟨q, hq, hqid, hadv, -⟩ := hs'.follow hrun hr'
    obtain rfl := hs₁.store.keys.runs.eq_of_key hr₁ hq (hid₁.trans (hqid.trans hid).symm)
    have hstop₁ : r₁.stopRequested = true := hadv.stopped hstop
    refine ⟨hs'.no_result hr' hkind' hstop hactive' hrun hr₁ (hid₁.trans hid.symm),
      fun e s₂ hnext₂ r₂ hr₂ hid₂ hp => ?_, fun lease status args published s₂ hlease hp hc₂ => ?_⟩
    · exact hs₁.unpublished hr₁ (hadv.runKind.trans hkind') hstop₁ hnext₂ hr₂
        (hid₂.trans hid₁.symm) hp
    · exact hs₁.finish_remapped hr₁ hstop₁ (hlease.trans hid₁.symm) hp hc₂
  cancelled := by
    intro r hr hkind hstatus o ho hrun
    have hfound := hs.sound.store.keys.operation?_eq ho
    rw [hrun] at hfound
    refine ((hs.settled r hr hkind).cancelled hstatus).2 o.state ?_
    simp [Db.work, hfound]
  current := by
    intro r hr hkind hactive hstop
    have hcurrent := (hs.settled r hr hkind).current (by simpa [Run.active, Db.work] using hactive)
      hstop
    simp only [Db.work, decide_eq_true_eq] at hcurrent
    obtain ⟨i, hi, hrev⟩ := Option.map_eq_some_iff.1 hcurrent
    obtain ⟨hmem, hid⟩ := Db.mem_of_incident? hi
    exact ⟨i, hmem, hid, hrev.symm⟩

/-- A human approves the repair of the diagnosis, which is claimed again. -/
def approved : List (Sys σ → List (Event σ)) :=
  [ask (fun s => .finish s.lease .waitingApproval default) default,
    ask (fun _ => .queueApproval "run-1" ⟨"approval-1", true, "operator", ""⟩ "binding") default,
    ask (fun _ => .claim "worker-2" 30 3) default]

/-- The write is prepared and dispatched. -/
def dispatched : List (Sys σ → List (Event σ)) :=
  [ask (fun s => .prepare s.lease default) default,
    ask (fun s => .dispatch s.lease (operationId .plain "run-1" "" "")) default]

/-- In the state after the dispatch, a human and the write race for the diagnosis. -/
theorem arbitrated_dispatched : ∃ s : Sys Unit, s.Reachable .plain ∧
    (s.db.run? "run-1").map (·.status) = some .running ∧
    (s.db.operation? "run-1").map (·.state) = some .dispatching ∧ s.Precedence .plain := by
  obtain ⟨s, -, hs, hrunning, hdispatching⟩ := Transition.exists_reachable (next .plain) (start Unit)
    (opening ++ approved ++ dispatched)
    (fun s => (s.db.run? "run-1").map (·.status) = some .running ∧
      (s.db.operation? "run-1").map (·.state) = some .dispatching) (by decide +kernel)
  exact ⟨s, hs, hrunning, hdispatching, Reachable.arbitrated hs⟩

end Sys

end IncidentAgent
