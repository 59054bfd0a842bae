import IncidentAgent.System.Lineage

/-!
# A stop is final, and a control is consumed once

A diagnosis may come from an explicit request, from an interaction that investigates, or
from a control that waited; each of them can be in flight when a human says stop. The stop
supersedes the pending control of the incident and ends its interaction in one
transaction, so that neither opens a round afterwards (`Sys.Sound.stopped`), and a control
that is started has its one child from the transaction that started it
(`Sys.Sound.started_with_child`).
-/

namespace IncidentAgent

/-! ### What a transaction does to the controls -/

section Controls

variable {env : Env} {tx : Tx} {db db' : Db}

theorem SideOnly.controls (h : SideOnly db db') : db'.controls = db.controls := by
  obtain ⟨⟨_, _, _, _, rfl⟩, -⟩ := h
  rfl

theorem Appends.controls {incidentId : String} (h : Appends tx incidentId db db') :
    db'.controls = db.controls := by
  rcases h with rfl | ⟨_, -, rfl⟩ <;> rfl

/-- **Only a control, an answer and the start of a control touch the controls.** -/
theorem transact_controls {skipped : List String} {request : Request} {response : Response}
    (hrechecks : db.Rechecks)
    (hcontrol : ∀ incidentId body expectedParent snapshot,
      request ≠ .control incidentId body expectedParent snapshot)
    (hanswer : ∀ incidentId runId body, request ≠ .answer incidentId runId body)
    (hactivate : ∀ controlId, request ≠ .activateControl controlId)
    (h : transact env tx skipped request db = .ok (response, db')) :
    db'.controls = db.controls := by
  cases request <;> simp only [transact, map_eq_ok, Prod.mk.injEq, Except.ok.injEq] at h
  case accept =>
    obtain ⟨⟨row, db₁⟩, h, -, rfl⟩ := h
    obtain ⟨-, -, hinsert⟩ := accept_eq_ok h
    obtain ⟨-, -, rfl⟩ := Db.insertRun_eq_ok hinsert
    rfl
  case createIncident =>
    obtain ⟨db₁, h, -, rfl⟩ := h
    obtain ⟨_, -, -, -, rfl⟩ := createIncident_eq_ok h
    rfl
  case updatePhase =>
    obtain ⟨-, rfl⟩ := h
    rfl
  case claim owner seconds maxAttempts =>
    obtain ⟨-, rfl⟩ := h
    rcases claim_cases (Prod.mk.eta (p := claim tx owner seconds maxAttempts skipped db)).symm with
      ⟨-, hdb⟩ | ⟨row, -, _, -, -, -, hdb⟩
    · rw [hdb]
    · rw [hdb]
      rfl
  case assertOwned =>
    obtain ⟨_, -, -, rfl⟩ := h
    rfl
  case heartbeat =>
    obtain ⟨db₁, h, -, rfl⟩ := h
    obtain ⟨-, rfl⟩ := heartbeat_eq_ok h
    rfl
  case markCheckpointStarted =>
    obtain ⟨db₁, h, -, rfl⟩ := h
    obtain ⟨-, rfl⟩ := markCheckpointStarted_eq_ok h
    rfl
  case finish =>
    obtain ⟨⟨status, db₁⟩, h, -, rfl⟩ := h
    obtain ⟨_, phase, _, -, -, -, -, -, rfl⟩ := finish_eq_ok h
    cases phase <;> rfl
  case queueApproval =>
    obtain ⟨db₁, h, -, rfl⟩ := h
    obtain ⟨_, -, -, ⟨-, rfl⟩ | ⟨-, -, -, rfl⟩⟩ := queueApproval_eq_ok h <;> rfl
  case prepare =>
    obtain ⟨⟨o, db₁⟩, h, -, rfl⟩ := h
    obtain ⟨-, -, -, ⟨-, rfl, -⟩ | ⟨-, -, -, rfl⟩⟩ := prepare_eq_ok h <;> rfl
  case dispatch =>
    obtain ⟨db₁, h, -, rfl⟩ := h
    obtain ⟨-, -, -, rfl⟩ := dispatch_eq_ok h
    rfl
  case record =>
    obtain ⟨db₁, h, -, rfl⟩ := h
    obtain ⟨-, -, rfl⟩ := record_eq_ok h
    rfl
  case acceptRound =>
    obtain ⟨⟨row, db₁⟩, h, -, rfl⟩ := h
    exact acceptRound_controls h
  case acceptInteraction =>
    obtain ⟨⟨row, db₁⟩, h, -, rfl⟩ := h
    rcases acceptInteraction_eq_ok h with rfl | ⟨db₂, _, happ, -, -, -, hinsert⟩
    · rfl
    · obtain ⟨-, -, rfl⟩ := Db.insertRun_eq_ok hinsert
      exact happ.controls
  case saveProgress =>
    obtain ⟨db₁, h, -, rfl⟩ := h
    obtain ⟨-, rfl⟩ := saveProgress_eq_ok h
    rfl
  case saveRecheck =>
    obtain ⟨db₁, h, -, rfl⟩ := h
    obtain ⟨-, _, rfl⟩ := saveRecheck_eq_ok h
    rfl
  case complete =>
    obtain ⟨db₁, h, -, rfl⟩ := h
    obtain ⟨row, db₂, db₃, output', -, hround, happ, rfl⟩ := complete_eq_ok h
    refine Eq.trans happ.controls ?_
    rcases openRound_eq_ok hround with ⟨-, -, rfl⟩ | ⟨-, _, _, child, -, hr, -⟩
    · rfl
    · have hcontrols := acceptRound_controls hr
      exact hcontrols
  case control => exact absurd rfl (hcontrol _ _ _ _)
  case activateControl => exact absurd rfl (hactivate _)
  case answer => exact absurd rfl (hanswer _ _ _)
  case appendMessage =>
    obtain ⟨⟨m, db₁⟩, h, -, rfl⟩ := h
    exact (appendMessage_eq_ok h).controls
  case activateDue =>
    obtain ⟨db₁, h, -, rfl⟩ := h
    rcases activateDue_eq_ok hrechecks h with hside | ⟨_, -, -, _, -, db₂, hside, rfl⟩ |
      ⟨row, incident, db₂, -, -, -, -, -, -, -, -, hinsert, rfl⟩
    · exact hside.controls
    · exact hside.controls
    · obtain ⟨-, -, rfl⟩ := Db.insertRun_eq_ok hinsert
      rfl
  case inspectDelayed =>
    obtain ⟨⟨row, db₁⟩, h, -, rfl⟩ := h
    exact (inspectDelayed_eq_ok hrechecks h).2.controls
  case exhaustDelayed =>
    obtain ⟨db₁, h, -, rfl⟩ := h
    exact (exhaustDelayed_eq_ok hrechecks h).2.controls
  case publishDelayed =>
    obtain ⟨db₁, h, -, rfl⟩ := h
    exact (publishDelayed_eq_ok hrechecks h).2.controls
  case openWindow =>
    obtain ⟨⟨payload, db₁⟩, h, -, rfl⟩ := h
    exact (openWindow_eq_ok h).2.controls
  case saveWindow =>
    obtain ⟨db₁, h, -, rfl⟩ := h
    exact (saveWindow_eq_ok h).2.controls
  case editBudget =>
    obtain ⟨db₁, h, -, rfl⟩ := h
    exact (editBudget_eq_ok h).2.controls

/-- The controls after an arbitration are those before it, or superseded. -/
theorem arbitrate_controls {incidentId : String} {latest : Run} {dispatched : Bool}
    {action : ControlAction} {snapshot : Json} {c : Control}
    (hc : c ∈ (arbitrate tx incidentId latest dispatched action snapshot db).controls) :
    c ∈ db.controls ∨ c.status = .superseded := by
  have hstop : (stopDiagnosis tx incidentId latest dispatched snapshot (db.updateIncident incidentId
      fun i => { i with eventRevision := i.eventRevision + 1 })).controls = db.controls := by
    unfold stopDiagnosis
    split
    · split <;> rfl
    · rfl
  unfold arbitrate at hc
  split at hc
  · obtain ⟨d, hd, rfl⟩ := Table.mem_updateWhere.1 hc
    split
    · exact Or.inr rfl
    · exact Or.inl (hstop ▸ hd)
  · exact Or.inl (hstop ▸ hc)

/-- **A control is started by its own request only**, together with a round under its key. -/
theorem transact_started {skipped : List String} {request : Request} {response : Response}
    (hk : db.Keys) (hrechecks : db.Rechecks)
    (h : transact env tx skipped request db = .ok (response, db')) {c' : Control}
    (hc' : c' ∈ db'.controls) (hstarted : c'.status = .started) :
    c' ∈ db.controls ∨ ∃ c ∈ db.controls, c.Advances c' ∧ c.status = .pending ∧
      ∃ latest, db.latest c.incidentId = some latest ∧ latest.runId = c.parentRunId := by
  cases request with
  | control incidentId body expectedParent snapshot =>
    simp only [transact, map_eq_ok, Prod.mk.injEq] at h
    obtain ⟨⟨view, db₁⟩, h, -, rfl⟩ := h
    rcases control_eq_ok h with ⟨_, -, -, -, rfl⟩ |
      ⟨latest, message, db₂, row, -, -, hmessage, -, rfl, -, hinsert⟩
    · exact Or.inl hc'
    · obtain ⟨-, rfl⟩ := Db.insertControl_eq_ok hinsert
      rcases List.mem_append.1 hc' with hmem | hmem
      · rcases arbitrate_controls hmem with hold | hsuperseded
        · exact Or.inl ((messageInTransaction_eq_ok hmessage).1.controls ▸ hold)
        · simp [hsuperseded] at hstarted
      · rw [List.mem_singleton.1 hmem] at hstarted
        by_cases haction : body.action = .investigate <;>
          simp [Control.initial, haction] at hstarted
  | answer incidentId runId body =>
    simp only [transact, map_eq_ok, Prod.mk.injEq] at h
    obtain ⟨⟨view, db₁⟩, h, -, rfl⟩ := h
    rcases answer_eq_ok h with ⟨_, -, -, rfl⟩ |
      ⟨incident, row, question, message, db₂, -, -, -, -, -, -, -, -, hmessage, hinsert⟩
    · exact Or.inl hc'
    · obtain ⟨-, rfl⟩ := Db.insertControl_eq_ok hinsert
      rcases List.mem_append.1 hc' with hmem | hmem
      · exact Or.inl ((messageInTransaction_eq_ok hmessage).1.controls ▸ hmem)
      · rw [List.mem_singleton.1 hmem] at hstarted
        simp [Control.receipt] at hstarted
  | activateControl controlId =>
    simp only [transact, map_eq_ok, Prod.mk.injEq] at h
    obtain ⟨db₁, h, -, rfl⟩ := h
    obtain ⟨c, hc, rfl | ⟨-, rfl⟩ | ⟨latest, child, db₂, hpending, hlatest, hstart, hchild, rfl⟩⟩ :=
      activateControl_eq_ok h
    · exact Or.inl hc'
    · obtain ⟨d, hd, rfl⟩ := Table.mem_updateWhere.1 hc'
      split at hstarted
      · cases hstarted
      · rename_i hsel
        simp only [hsel]
        exact Or.inl hd
    · obtain ⟨hmem, hid⟩ := Db.mem_of_control? hc
      obtain ⟨message, -, hround⟩ := acceptForControl_eq_ok hchild
      obtain ⟨d, hd, rfl⟩ := Table.mem_updateWhere.1 hc'
      rw [acceptRound_controls hround] at hd
      by_cases hsel : d.controlId = controlId
      · obtain rfl := hk.controls.eq_of_key hd hmem (hsel.trans hid.symm)
        rw [if_pos (by simpa using hsel)]
        exact Or.inr ⟨d, hd, ⟨rfl, fun h => absurd hpending h, by simp⟩, hpending, latest, hlatest,
          hstart.1⟩
      · rw [if_neg (by simpa using hsel)]
        exact Or.inl hd
  | _ =>
    refine Or.inl (transact_controls hrechecks ?_ ?_ ?_ h ▸ hc')
    · rintro _ _ _ _ ⟨⟩
    · rintro _ _ _ ⟨⟩
    · rintro _ ⟨⟩

/-! ### What a control leaves behind -/

/-- After an arbitration, no interaction of the incident is active. -/
theorem arbitrate_interactions {incidentId : String} {latest : Run} {dispatched : Bool}
    {action : ControlAction} {snapshot : Json} :
    ∀ r ∈ (arbitrate tx incidentId latest dispatched action snapshot db).runs,
      r.incidentId = incidentId → r.runKind = .interaction → r.status.terminal = true := by
  intro r hr hinc hkind
  have hdropped : ∀ db₁ : Db, r ∈ (dropInteractions tx incidentId db₁).runs →
      r.status.terminal = true := by
    intro db₁ hr
    obtain ⟨q, -, rfl⟩ := Table.mem_updateWhere.1 hr
    by_cases hsel : q.incidentId = incidentId ∧ q.runKind = .interaction ∧ q.active
    · rw [if_pos (by simpa using hsel)]
      rfl
    · rw [if_neg (by simpa using hsel)] at hinc hkind ⊢
      have hactive : ¬ q.active := fun hactive => hsel ⟨hinc, hkind, hactive⟩
      simpa [Run.active] using hactive
  unfold arbitrate at hr
  split at hr <;> exact hdropped _ hr

/-- **What a new control leaves**: no active interaction in its incident, and no pending
control if it is a stop. -/
theorem control_leaves {incidentId : String} {body : ControlRequest}
    {expectedParent : Option String} {snapshot : Json} {view : ControlView}
    (hnew : db.controlByClient? incidentId body.clientMessageId = none)
    (h : control env tx incidentId body expectedParent snapshot db = .ok (view, db')) :
    (∀ r ∈ db'.runs, r.incidentId = incidentId → r.runKind = .interaction →
      r.status.terminal = true) ∧
    (body.action = .stop → ∀ c ∈ db'.controls, c.incidentId = incidentId →
      c.status ≠ .pending) := by
  rcases control_eq_ok h with ⟨_, hfound, -, -, -⟩ |
    ⟨latest, message, db₁, row, -, -, -, -, rfl, -, hinsert⟩
  · simp [hnew] at hfound
  · obtain ⟨-, rfl⟩ := Db.insertControl_eq_ok hinsert
    refine ⟨arbitrate_interactions, fun haction c hc hinc => ?_⟩
    rcases List.mem_append.1 hc with hmem | hmem
    · exact arbitrate_settled (Or.inl haction) c hmem hinc
    · rw [List.mem_singleton.1 hmem]
      simp [Control.initial, haction]

/-- **The receipt of a control is recorded** under the identifier of its client. -/
theorem control_recorded {incidentId : String} {body : ControlRequest}
    {expectedParent : Option String} {snapshot : Json} {view : ControlView}
    (h : control env tx incidentId body expectedParent snapshot db = .ok (view, db')) :
    (∃ incident ∈ db.incidents, incident.incidentId = incidentId) ∧
      ∃ row ∈ db'.controls, row.incidentId = incidentId ∧
        row.clientMessageId = body.clientMessageId ∧
        row.requestSha256 = env.requestDigest body.dump ∧ view = row.view := by
  constructor
  · simp only [control, bind_eq_ok, rowOr_eq_ok] at h
    obtain ⟨incident, hi, -⟩ := h
    exact ⟨incident, Db.mem_of_incident? hi⟩
  · rcases control_eq_ok h with ⟨row, hrow, hsha, hview, rfl⟩ |
      ⟨latest, message, db₁, row, -, -, -, -, rfl, hview, hinsert⟩
    · have hp := List.find?_some hrow
      simp only [decide_eq_true_eq] at hp
      exact ⟨row, List.mem_of_find?_eq_some hrow, hp.1, hp.2, hsha, hview⟩
    · obtain ⟨-, rfl⟩ := Db.insertControl_eq_ok hinsert
      exact ⟨_, List.mem_append_right _ (List.mem_singleton_self _), rfl, rfl, rfl, hview⟩

/-- A control that was recorded is answered with its receipt, and nothing changes. -/
theorem control_again (hst : db.Standing) (hk : db.Keys) {incidentId : String}
    {body : ControlRequest} {row : Control}
    (hi : ∃ incident ∈ db.incidents, incident.incidentId = incidentId) (hrow : row ∈ db.controls)
    (hinc : row.incidentId = incidentId) (hclient : row.clientMessageId = body.clientMessageId)
    (hsha : row.requestSha256 = env.requestDigest body.dump) (expectedParent : Option String)
    (snapshot : Json) :
    control env tx incidentId body expectedParent snapshot db = .ok (row.view, db) := by
  obtain ⟨incident, hmem, hid⟩ := hi
  have hincident : db.incident? incidentId = some incident := hid ▸ hk.incident?_eq hmem
  have hfind : db.controlByClient? incidentId body.clientMessageId = some row := by
    cases hfound : db.controlByClient? incidentId body.clientMessageId with
    | none => simpa [hinc, hclient] using List.find?_eq_none.1 hfound row hrow
    | some other =>
      have hother := List.find?_some hfound
      simp only [decide_eq_true_eq] at hother
      rw [hst.receipts other (List.mem_of_find?_eq_some hfound) row hrow (hother.1.trans hinc.symm)
        (hother.2.trans hclient.symm)]
  simp [control, rowOr, hincident, hfind, replayControl, raiseIf, hsha, bind, Except.bind, pure,
    Except.pure]

/-- The start of a control that is not pending does nothing. -/
theorem activateControl_settled (hk : db.Keys) {c : Control} (hc : c ∈ db.controls)
    (hsettled : c.status ≠ .pending) (h : activateControl env tx c.controlId db = .ok db') :
    db' = db := by
  obtain ⟨d, hd, rfl | ⟨hpending, -⟩ | ⟨_, _, _, hpending, -⟩⟩ := activateControl_eq_ok h
  · rfl
  all_goals
    rw [hk.control?_eq hc] at hd
    exact absurd (Option.some.inj hd ▸ hpending) hsettled

end Controls

/-! ### Stops and starts of the system -/

namespace Sys

variable {σ : Type} {env : Env} {s s' : Sys σ}

/-- **On account of what was accepted**: the start of a control, or the publication of an
interaction, of an incident in a store. -/
def Accepted (db : Db) (incidentId : String) (request : Request) : Prop :=
  (∃ c ∈ db.controls, c.incidentId = incidentId ∧ request = .activateControl c.controlId) ∨
  ∃ lease output assistant investigate, lease.row.incidentId = incidentId ∧
    (∃ r ∈ db.runs, r.runId = lease.row.runId) ∧
    request = .complete lease output assistant investigate

/-- **After a stop, what was accepted before it opens nothing.** -/
theorem Sound.stopped (h : s.Sound env) {incidentId : String} {body : ControlRequest}
    {expectedParent : Option String} {snapshot : Json} {view : ControlView}
    (hstop : body.action = .stop)
    (hnew : s.db.controlByClient? incidentId body.clientMessageId = none)
    (hc : s.Commits env (.control incidentId body expectedParent snapshot) (.view view) s')
    {es : List (Event σ)} {s₁ s₂ : Sys σ} (hrun : Transition.run (next env) s' es = some s₁)
    {request : Request} {response : Response} (hacc : Accepted s'.db incidentId request)
    (hc' : s₁.Commits env request response s₂) : s₂.db = s₁.db := by
  obtain ⟨tx, skipped, -, -, -, hok⟩ := h.of_commits hc
  obtain ⟨_, _, _, _, _, hnext, -⟩ := hc
  simp only [transact, map_eq_ok, Prod.mk.injEq] at hok
  obtain ⟨⟨view', db⟩, hok, -, rfl⟩ := hok
  obtain ⟨hinteractions, hcontrols⟩ := control_leaves hnew hok
  obtain ⟨hs', -, -⟩ := h.step hnext
  obtain ⟨hs₁, -, hlater⟩ := hs'.run hrun
  obtain ⟨tx', skipped', -, hready, -, hok'⟩ := hs₁.of_commits hc'
  rcases hacc with ⟨c, hmem, hinc, rfl⟩ | ⟨lease, output, assistant, investigate, hinc, hrow, rfl⟩
  · -- A control of the store after the stop waits for nothing any more.
    have hsettled := hcontrols hstop c hmem hinc
    obtain ⟨c', hmem', hadv⟩ := hlater.controls c hmem
    obtain rfl := hadv.settled hsettled
    simp only [transact, map_eq_ok, Prod.mk.injEq] at hok'
    obtain ⟨db₁, hok', -, rfl⟩ := hok'
    exact activateControl_settled hs₁.store.keys hmem' hsettled hok'
  · -- An interaction of the store after the stop has ended, and its lease owns nothing.
    exfalso
    obtain ⟨r, hr, hid⟩ := hrow
    obtain ⟨r', hr', hadv⟩ := hlater.runs r hr
    have hfixed := hready.leased lease rfl r' hr' (hadv.runId.trans hid)
    have hrinc : r.incidentId = incidentId :=
      hadv.incidentId.symm.trans ((column_eq hfixed Run.incidentId fun _ => rfl).trans hinc)
    have hrkind : r.runKind = .interaction :=
      hadv.runKind.symm.trans ((column_eq hfixed Run.runKind fun _ => rfl).trans hready.proper.1)
    have hended := hinteractions r hr hrinc hrkind
    obtain ⟨row, hfence⟩ := transact_owns hs₁.store.history.rechecks hok' lease rfl
    have hrow := hs₁.store.keys.eq_of_fence hfence r' hr' (hadv.runId.trans hid)
    have hrunning := (fence_eq_ok hfence).2.2.2.2.2.1
    rw [← hrow, hadv.ended hended] at hrunning
    rw [hrunning] at hended
    cases hended

/-- **A control is started together with its child**: no run of the store before has its
key. -/
theorem Sound.started_with_child (h : s.Sound env) {e : Event σ} (hnext : next env s e = some s')
    {c' : Control} (hc' : c' ∈ s'.db.controls) (hstarted : c'.status = .started)
    (hbefore : ∀ c ∈ s.db.controls, c.controlId = c'.controlId → c.status ≠ .started) :
    ∀ r ∈ s.db.runs, r.idempotency ≠ some c'.key := by
  rcases next_db hnext with hdb | ⟨request, response, hc⟩
  · exact absurd hstarted (hbefore c' (hdb ▸ hc') rfl)
  · obtain ⟨tx, skipped, -, -, -, hok⟩ := h.of_commits hc
    rcases transact_started h.store.keys h.store.history.rechecks hok hc' hstarted with hold |
      ⟨c, hmem, hadv, hpending, latest, hlatest, hparent⟩
    · exact absurd hstarted (hbefore c' hold rfl)
    · rw [hadv.key]
      exact h.store.standing.unnamed h.store.history hmem hpending hlatest hparent

/-- A control that was answered once is answered ever after with its receipt. -/
theorem Sound.control_again (h : s.Sound env) {incidentId : String} {body : ControlRequest}
    {expectedParent : Option String} {snapshot : Json} {view : ControlView}
    (hc : s.Commits env (.control incidentId body expectedParent snapshot) (.view view) s')
    {es : List (Event σ)} {s'' : Sys σ} (hrun : Transition.run (next env) s' es = some s'')
    (tx : Tx) (expectedParent' : Option String) (snapshot' : Json) :
    ∃ row ∈ s''.db.controls, row.controlId = view.controlId ∧ row.messageId = view.messageId ∧
      control env tx incidentId body expectedParent' snapshot' s''.db =
        .ok (row.view, s''.db) := by
  obtain ⟨tx₀, skipped, -, -, -, hok⟩ := h.of_commits hc
  obtain ⟨_, _, _, _, _, hnext, -⟩ := hc
  simp only [transact, map_eq_ok, Prod.mk.injEq, Response.view.injEq] at hok
  obtain ⟨⟨view₀, db⟩, hok, rfl, rfl⟩ := hok
  obtain ⟨hs', -, hlater⟩ := h.step hnext
  obtain ⟨hs'', -, hlater'⟩ := hs'.run hrun
  obtain ⟨⟨incident, hmem, hid⟩, row, hrow, hinc, hclient, hsha, rfl⟩ := control_recorded hok
  obtain ⟨i', hi', hadvi⟩ := hlater.incidents incident hmem
  obtain ⟨i'', hi'', hadvi'⟩ := hlater'.incidents i' hi'
  obtain ⟨row', hrow', hadv⟩ := hlater'.controls row hrow
  refine ⟨row', hrow', hadv.controlId, column_eq hadv.fixed Control.messageId fun _ => rfl, ?_⟩
  refine IncidentAgent.control_again hs''.store.standing hs''.store.keys
    ⟨i'', hi'', hadvi'.incidentId.trans (hadvi.incidentId.trans hid)⟩ hrow' ?_ ?_ ?_ _ _
  · exact (column_eq hadv.fixed Control.incidentId fun _ => rfl).trans hinc
  · exact (column_eq hadv.fixed Control.clientMessageId fun _ => rfl).trans hclient
  · exact (column_eq hadv.fixed Control.requestSha256 fun _ => rfl).trans hsha

/-- **Controls are consumed once.** What holds of the controls in a state, and of what becomes
of them in one step or in a run from there. -/
structure ConsumedOnce (env : Env) (s : Sys σ) : Prop where
  /-- After a stop, no control and no interaction accepted before it opens a diagnosis. -/
  final : ∀ incidentId body expectedParent snapshot view s', body.action = .stop →
    s.db.controlByClient? incidentId body.clientMessageId = none →
    s.Commits env (.control incidentId body expectedParent snapshot) (.view view) s' →
      ∀ es s₁, Transition.run (next env) s' es = some s₁ →
        ∀ request response s₂, Accepted s'.db incidentId request →
          s₁.Commits env request response s₂ →
            ∀ r ∈ s₂.db.runs, r.runKind = .diagnosis → ∃ q ∈ s₁.db.runs, q.runId = r.runId
  /-- An incident has at most one pending control. -/
  alone : ∀ c ∈ s.db.controls, ∀ d ∈ s.db.controls, c.incidentId = d.incidentId →
    c.status = .pending → d.status = .pending → c = d
  /-- A started control has exactly one child, a round of the parent that it stands on. -/
  child : ∀ c ∈ s.db.controls, c.status = .started →
    ∃ r ∈ s.db.runs, r.idempotency = some c.key ∧ r.parentRunId = some c.parentRunId ∧
      (∃ action, c.result = .control action c.parentRunId false (some r.runId)) ∧
      ∀ q ∈ s.db.runs, q.idempotency = some c.key → q = r
  /-- The event that marks a control as started inserts its child. -/
  together : ∀ e s', next env s e = some s' → ∀ c ∈ s'.db.controls, c.status = .started →
    (∀ d ∈ s.db.controls, d.controlId = c.controlId → d.status ≠ .started) →
      ∀ r ∈ s'.db.runs, r.idempotency = some c.key → ∀ q ∈ s.db.runs, q.runId ≠ r.runId
  /-- A control that is sent again is answered with its receipt and changes nothing. -/
  again : ∀ incidentId body expectedParent snapshot view s',
    s.Commits env (.control incidentId body expectedParent snapshot) (.view view) s' →
      ∀ es s'', Transition.run (next env) s' es = some s'' →
        ∀ tx expectedParent' snapshot', ∃ row ∈ s''.db.controls,
          row.controlId = view.controlId ∧ row.messageId = view.messageId ∧
          control env tx incidentId body expectedParent' snapshot' s''.db =
            .ok (row.view, s''.db)

/-- **A stop is final, and a control is consumed once**, in every reachable state. -/
theorem Reachable.consumed_once (hs : s.Reachable env) : s.ConsumedOnce env where
  final := by
    intro incidentId body expectedParent snapshot view s' hstop hnew hc es s₁ hrun request response
      s₂ hacc hc' r hr _
    have hdb := hs.sound.stopped hstop hnew hc hrun hacc hc'
    exact ⟨r, hdb ▸ hr, rfl⟩
  alone c hc d hd hinc hpc hpd := hs.sound.store.standing.alone c hc d hd hpc hpd hinc
  child := by
    intro c hc hstarted
    obtain ⟨r, hr, hkey, hparent, hresult⟩ := hs.sound.store.standing.launched c hc hstarted
    exact ⟨r, hr, hkey, hparent, hresult, fun q hq hqkey =>
      hs.sound.store.keys.idempotency q hq r hr c.key hqkey hkey⟩
  together := by
    intro e s' hnext c hc hstarted hbefore r hr hkey q hq hid
    obtain ⟨hs', -, hlater⟩ := hs.sound.step hnext
    obtain ⟨q', hq', hadv⟩ := hlater.runs q hq
    have hqr : q' = r := hs'.store.keys.runs.eq_of_key hq' hr (hadv.runId.trans hid)
    refine hs.sound.started_with_child hnext hc hstarted hbefore q hq ?_
    rw [← hadv.idempotency, hqr, hkey]
  again _ _ _ _ _ _ hc _ _ hrun tx expectedParent' snapshot' :=
    hs.sound.control_again hc hrun tx expectedParent' snapshot'

/-- A human asks to investigate again while the diagnosis runs, and the control is started. -/
def investigated : List (Sys σ → List (Event σ)) :=
  [ask (fun _ => .control "incident" ⟨"control-1", "Look at the selector.", .investigate⟩
      (some "run-1") .null) { (default : Draw) with messageId := "m-1", controlId := "c-1" },
    ask (fun _ => .activateControl "c-1")
      { (default : Draw) with runId := "run-2", threadId := "thread-2" }]

theorem consumed_once_investigated : ∃ s : Sys Unit, s.Reachable .plain ∧
    s.db.controls.map (·.status) = [.started] ∧ s.ConsumedOnce .plain := by
  obtain ⟨s, -, hs, hstarted⟩ := Transition.exists_reachable (next .plain) (start Unit)
    (opening ++ investigated) (fun s => s.db.controls.map (·.status) = [.started])
    (by decide +kernel)
  exact ⟨s, hs, hstarted, Reachable.consumed_once hs⟩

end Sys

end IncidentAgent
