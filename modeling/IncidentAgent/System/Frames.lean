import IncidentAgent.System.Lineage

/-!
# Frames of the transactions

What a transaction leaves alone. Most requests write neither messages, nor operations, nor
delayed rechecks; the few that do are named by `Request.speaks`, `Request.journals` and
`Request.rechecks`, and `transact_frame` says that the others leave these tables as they
were.
-/

namespace IncidentAgent

/-- The requests that may append a message. -/
def Request.speaks : Request → Bool
  | .acceptInteraction _ _ _ _ | .complete _ _ _ _ | .control _ _ _ _ | .answer _ _ _
  | .appendMessage _ _ => true
  | _ => false

/-- The requests that may write the journal of operations. -/
def Request.journals : Request → Bool
  | .prepare _ _ | .dispatch _ _ | .record _ _ _ | .control _ _ _ _ => true
  | _ => false

/-- The requests that may schedule a delayed recheck or change one. -/
def Request.rechecks : Request → Bool
  | .activateDue _ | .inspectDelayed _ | .exhaustDelayed _ | .publishDelayed _ _
  | .saveWindow _ _ _ _ _ _ => true
  | _ => false

/-- What a request leaves alone. -/
structure Request.Frame (request : Request) (db db' : Db) : Prop where
  messages : request.speaks = false → db'.messages = db.messages
  operations : request.journals = false → db'.operations = db.operations
  delayed : request.rechecks = false → db'.delayed = db.delayed

section Frame

variable {env : Env} {tx : Tx} {db db' : Db}

/-- Two databases with the same messages, operations and delayed rechecks. -/
def Db.Aligned (db db' : Db) : Prop :=
  db'.messages = db.messages ∧ db'.operations = db.operations ∧ db'.delayed = db.delayed

theorem Db.Aligned.frame {request : Request} (h : db.Aligned db') : request.Frame db db' :=
  ⟨fun _ => h.1, fun _ => h.2.1, fun _ => h.2.2⟩

theorem Db.insertRun_aligned {r : Run} (h : db.insertRun r = .ok db') : db.Aligned db' := by
  obtain ⟨-, -, rfl⟩ := Db.insertRun_eq_ok h
  exact ⟨rfl, rfl, rfl⟩

/-- A round is accepted among the runs and the incidents only. -/
theorem acceptRound_aligned {incidentId messageId key : String} {parentRunId : Option String}
    {previous : Json} {row : Run}
    (h : acceptRound env tx incidentId messageId key parentRunId previous db = .ok (row, db')) :
    db.Aligned db' := by
  rcases acceptRound_eq_ok h with ⟨-, -, rfl⟩ | ⟨_, _, _, -, -, -, -, -, -, -, hinsert⟩
  · exact ⟨rfl, rfl, rfl⟩
  · obtain ⟨-, -, rfl⟩ := insertRound_eq_ok hinsert
    cases db.latest incidentId <;> exact ⟨rfl, rfl, rfl⟩

/-- A message is appended to the messages only. -/
theorem Appends.frame {incidentId : String} (h : Appends tx incidentId db db') :
    db'.operations = db.operations ∧ db'.delayed = db.delayed := by
  rcases h with rfl | ⟨_, -, rfl⟩ <;> exact ⟨rfl, rfl⟩

/-- A side effect leaves the messages and the operations alone. -/
theorem SideOnly.frames (h : SideOnly db db') :
    db'.messages = db.messages ∧ db'.operations = db.operations := by
  obtain ⟨⟨_, _, _, _, rfl⟩, -⟩ := h
  exact ⟨rfl, rfl⟩

theorem SideOnly.request_frame {request : Request} (h : SideOnly db db')
    (hr : request.rechecks = true) : request.Frame db db' :=
  ⟨fun _ => h.frames.1, fun _ => h.frames.2, fun hn => by simp [hr] at hn⟩

/-- An arbitration leaves the delayed rechecks alone. -/
theorem arbitrate_delayed {incidentId : String} {latest : Run} {dispatched : Bool}
    {action : ControlAction} {snapshot : Json} :
    (arbitrate tx incidentId latest dispatched action snapshot db).delayed = db.delayed := by
  unfold arbitrate stopDiagnosis
  split <;> split <;> first | rfl | (split <;> rfl)

/-- **A request leaves alone what it does not write.** -/
theorem transact_frame {skipped : List String} {request : Request} {response : Response}
    (hrechecks : db.Rechecks) (h : transact env tx skipped request db = .ok (response, db')) :
    request.Frame db db' := by
  cases request <;> simp only [transact, map_eq_ok, Prod.mk.injEq, Except.ok.injEq] at h
  case accept =>
    obtain ⟨⟨row, db₁⟩, h, -, rfl⟩ := h
    obtain ⟨-, -, hinsert⟩ := accept_eq_ok h
    have haligned := Db.insertRun_aligned hinsert
    exact ⟨fun _ => haligned.1, fun _ => haligned.2.1, fun _ => haligned.2.2⟩
  case createIncident =>
    obtain ⟨db₁, h, -, rfl⟩ := h
    obtain ⟨_, -, -, -, rfl⟩ := createIncident_eq_ok h
    exact ⟨fun _ => rfl, fun _ => rfl, fun _ => rfl⟩
  case updatePhase =>
    obtain ⟨-, rfl⟩ := h
    exact ⟨fun _ => rfl, fun _ => rfl, fun _ => rfl⟩
  case claim owner seconds maxAttempts =>
    obtain ⟨-, rfl⟩ := h
    rcases claim_cases (Prod.mk.eta (p := claim tx owner seconds maxAttempts skipped db)).symm with
      ⟨-, hdb⟩ | ⟨row, -, _, -, -, -, hdb⟩
    · rw [hdb]
      exact ⟨fun _ => rfl, fun _ => rfl, fun _ => rfl⟩
    · rw [hdb]
      exact ⟨fun _ => rfl, fun _ => rfl, fun _ => rfl⟩
  case assertOwned =>
    obtain ⟨_, -, -, rfl⟩ := h
    exact ⟨fun _ => rfl, fun _ => rfl, fun _ => rfl⟩
  case heartbeat =>
    obtain ⟨db₁, h, -, rfl⟩ := h
    obtain ⟨-, rfl⟩ := heartbeat_eq_ok h
    exact ⟨fun _ => rfl, fun _ => rfl, fun _ => rfl⟩
  case markCheckpointStarted =>
    obtain ⟨db₁, h, -, rfl⟩ := h
    obtain ⟨-, rfl⟩ := markCheckpointStarted_eq_ok h
    exact ⟨fun _ => rfl, fun _ => rfl, fun _ => rfl⟩
  case finish =>
    obtain ⟨⟨status, db₁⟩, h, -, rfl⟩ := h
    obtain ⟨_, phase, _, -, -, -, -, -, rfl⟩ := finish_eq_ok h
    cases phase <;> exact ⟨fun _ => rfl, fun _ => rfl, fun _ => rfl⟩
  case queueApproval =>
    obtain ⟨db₁, h, -, rfl⟩ := h
    obtain ⟨_, -, -, ⟨-, rfl⟩ | ⟨-, -, -, rfl⟩⟩ := queueApproval_eq_ok h <;>
      exact ⟨fun _ => rfl, fun _ => rfl, fun _ => rfl⟩
  case prepare =>
    obtain ⟨⟨o, db₁⟩, h, -, rfl⟩ := h
    obtain ⟨-, -, -, ⟨-, rfl, -⟩ | ⟨-, -, -, rfl⟩⟩ := prepare_eq_ok h <;>
      exact ⟨fun _ => rfl, fun hn => (by cases hn), fun _ => rfl⟩
  case dispatch =>
    obtain ⟨db₁, h, -, rfl⟩ := h
    obtain ⟨-, -, -, rfl⟩ := dispatch_eq_ok h
    exact ⟨fun _ => rfl, fun hn => (by cases hn), fun _ => rfl⟩
  case record =>
    obtain ⟨db₁, h, -, rfl⟩ := h
    obtain ⟨-, -, rfl⟩ := record_eq_ok h
    exact ⟨fun _ => rfl, fun hn => (by cases hn), fun _ => rfl⟩
  case acceptRound =>
    obtain ⟨⟨row, db₁⟩, h, -, rfl⟩ := h
    exact (acceptRound_aligned h).frame
  case acceptInteraction =>
    obtain ⟨⟨row, db₁⟩, h, -, rfl⟩ := h
    rcases acceptInteraction_eq_ok h with rfl | ⟨db₂, _, happ, -, -, -, hinsert⟩
    · exact ⟨fun _ => rfl, fun _ => rfl, fun _ => rfl⟩
    · have haligned := Db.insertRun_aligned hinsert
      exact ⟨fun hn => (by cases hn), fun _ => haligned.2.1.trans happ.frame.1,
        fun _ => haligned.2.2.trans happ.frame.2⟩
  case saveProgress =>
    obtain ⟨db₁, h, -, rfl⟩ := h
    obtain ⟨-, rfl⟩ := saveProgress_eq_ok h
    exact ⟨fun _ => rfl, fun _ => rfl, fun _ => rfl⟩
  case saveRecheck =>
    obtain ⟨db₁, h, -, rfl⟩ := h
    obtain ⟨-, _, rfl⟩ := saveRecheck_eq_ok h
    exact ⟨fun _ => rfl, fun _ => rfl, fun _ => rfl⟩
  case complete =>
    obtain ⟨db₁, h, -, rfl⟩ := h
    obtain ⟨row, db₂, db₃, output', -, hround, happ, rfl⟩ := complete_eq_ok h
    refine ⟨fun hn => (by cases hn), fun _ => happ.frame.1.trans ?_, fun _ => happ.frame.2.trans ?_⟩
    · rcases openRound_eq_ok hround with ⟨-, -, rfl⟩ | ⟨-, _, _, child, -, hr, -⟩
      · rfl
      · exact (acceptRound_aligned hr).2.1
    · rcases openRound_eq_ok hround with ⟨-, -, rfl⟩ | ⟨-, _, _, child, -, hr, -⟩
      · rfl
      · exact (acceptRound_aligned hr).2.2
  case control =>
    obtain ⟨⟨view, db₁⟩, h, -, rfl⟩ := h
    rcases control_eq_ok h with ⟨_, -, -, -, rfl⟩ |
      ⟨latest, message, db₂, row, -, -, hmessage, -, -, -, hinsert⟩
    · exact ⟨fun _ => rfl, fun _ => rfl, fun _ => rfl⟩
    · obtain ⟨-, rfl⟩ := Db.insertControl_eq_ok hinsert
      exact ⟨fun hn => (by cases hn), fun hn => (by cases hn),
        fun _ => arbitrate_delayed.trans (messageInTransaction_eq_ok hmessage).1.frame.2⟩
  case activateControl =>
    obtain ⟨db₁, h, -, rfl⟩ := h
    obtain ⟨c, hc, rfl | ⟨-, rfl⟩ |
      ⟨latest, child, db₂, hpending, hlatest, hstart, hchild, rfl⟩⟩ := activateControl_eq_ok h
    · exact ⟨fun _ => rfl, fun _ => rfl, fun _ => rfl⟩
    · exact ⟨fun _ => rfl, fun _ => rfl, fun _ => rfl⟩
    · obtain ⟨message, -, hround⟩ := acceptForControl_eq_ok hchild
      have haligned := acceptRound_aligned hround
      exact ⟨fun _ => haligned.1, fun _ => haligned.2.1, fun _ => haligned.2.2⟩
  case answer =>
    obtain ⟨⟨view, db₁⟩, h, -, rfl⟩ := h
    rcases answer_eq_ok h with ⟨_, -, -, rfl⟩ |
      ⟨incident, row, question, message, db₂, -, -, -, -, -, -, -, -, hmessage, hinsert⟩
    · exact ⟨fun _ => rfl, fun _ => rfl, fun _ => rfl⟩
    · obtain ⟨-, rfl⟩ := Db.insertControl_eq_ok hinsert
      have happ := (messageInTransaction_eq_ok hmessage).1
      exact ⟨fun hn => (by cases hn), fun _ => happ.frame.1, fun _ => happ.frame.2⟩
  case appendMessage =>
    obtain ⟨⟨m, db₁⟩, h, -, rfl⟩ := h
    have happ := appendMessage_eq_ok h
    exact ⟨fun hn => (by cases hn), fun _ => happ.frame.1, fun _ => happ.frame.2⟩
  case activateDue =>
    obtain ⟨db₁, h, -, rfl⟩ := h
    rcases activateDue_eq_ok hrechecks h with hside | ⟨_, -, -, _, -, db₂, hside, rfl⟩ |
      ⟨d, incident, db₂, -, -, -, -, -, -, -, -, hinsert, rfl⟩
    · exact hside.request_frame rfl
    · exact ⟨fun _ => hside.frames.1, fun _ => hside.frames.2, fun hn => (by cases hn)⟩
    · have haligned := Db.insertRun_aligned hinsert
      exact ⟨fun _ => haligned.1, fun _ => haligned.2.1, fun hn => (by cases hn)⟩
  case inspectDelayed =>
    obtain ⟨⟨row, db₁⟩, h, -, rfl⟩ := h
    exact (inspectDelayed_eq_ok hrechecks h).2.request_frame rfl
  case exhaustDelayed =>
    obtain ⟨db₁, h, -, rfl⟩ := h
    exact (exhaustDelayed_eq_ok hrechecks h).2.request_frame rfl
  case publishDelayed =>
    obtain ⟨db₁, h, -, rfl⟩ := h
    exact (publishDelayed_eq_ok hrechecks h).2.request_frame rfl
  case openWindow =>
    obtain ⟨⟨payload, db₁⟩, h, -, rfl⟩ := h
    simp only [openWindow, bind_eq_ok] at h
    obtain ⟨_, -, h⟩ := h
    split at h <;> obtain ⟨-, rfl⟩ := Prod.mk.inj (pure_eq_ok.1 h) <;>
      exact ⟨fun _ => rfl, fun _ => rfl, fun _ => rfl⟩
  case saveWindow =>
    obtain ⟨db₁, h, -, rfl⟩ := h
    exact (saveWindow_eq_ok h).2.request_frame rfl
  case editBudget =>
    obtain ⟨db₁, h, -, rfl⟩ := h
    simp only [editBudget, bind_eq_ok, pure_eq_ok] at h
    obtain ⟨row, -, rfl⟩ := h
    exact ⟨fun _ => rfl, fun _ => rfl, fun _ => rfl⟩

end Frame

/-! ### Windows -/

/-- The requests that write the windows of observations. -/
def Request.observes : Request → Bool
  | .openWindow _ _ _ _ _ | .saveWindow _ _ _ _ _ _ => true
  | _ => false

section Windows

variable {env : Env} {tx : Tx} {lease : Lease} {db db' : Db}

theorem Db.insertRun_windows {r : Run} (h : db.insertRun r = .ok db') :
    db'.windows = db.windows := by
  obtain ⟨-, -, rfl⟩ := Db.insertRun_eq_ok h
  rfl

theorem Appends.windows {incidentId : String} (h : Appends tx incidentId db db') :
    db'.windows = db.windows := by
  rcases h with rfl | ⟨_, -, rfl⟩ <;> rfl

theorem acceptRound_windows {incidentId messageId key : String} {parentRunId : Option String}
    {previous : Json} {row : Run}
    (h : acceptRound env tx incidentId messageId key parentRunId previous db = .ok (row, db')) :
    db'.windows = db.windows := by
  rcases acceptRound_eq_ok h with ⟨-, -, rfl⟩ | ⟨_, _, _, -, -, -, -, -, -, -, hinsert⟩
  · rfl
  · obtain ⟨-, -, rfl⟩ := insertRound_eq_ok hinsert
    cases db.latest incidentId <;> rfl

theorem openRound_windows {investigate : Bool} {output output' : Json}
    (h : openRound env tx lease investigate output db = .ok (output', db')) :
    db'.windows = db.windows := by
  rcases openRound_eq_ok h with ⟨-, -, rfl⟩ | ⟨-, _, _, child, -, hr, -⟩
  · rfl
  · exact acceptRound_windows hr

theorem arbitrate_windows {incidentId : String} {latest : Run} {dispatched : Bool}
    {action : ControlAction} {snapshot : Json} :
    (arbitrate tx incidentId latest dispatched action snapshot db).windows = db.windows := by
  unfold arbitrate stopDiagnosis
  split <;> split <;> first | rfl | (split <;> rfl)

theorem control_windows {incidentId : String} {body : ControlRequest}
    {expectedParent : Option String} {snapshot : Json} {view : ControlView}
    (h : control env tx incidentId body expectedParent snapshot db = .ok (view, db')) :
    db'.windows = db.windows := by
  rcases control_eq_ok h with ⟨_, -, -, -, rfl⟩ |
    ⟨latest, message, db₂, row, -, -, hmessage, -, -, -, hinsert⟩
  · rfl
  · obtain ⟨-, rfl⟩ := Db.insertControl_eq_ok hinsert
    exact arbitrate_windows.trans (messageInTransaction_eq_ok hmessage).1.windows

theorem lockedDelayed_windows {row : DelayedRecheck}
    (h : lockedDelayed tx lease db = .ok (row, db')) : db'.windows = db.windows := by
  obtain ⟨d, -, incident, -, -, -, -, ⟨-, -, -, rfl⟩ | ⟨-, rfl, -⟩⟩ := lockedDelayed_eq_ok h
  · rfl
  · rfl

theorem activateDue_windows {delayedId : String} (h : activateDue env tx delayedId db = .ok db') :
    db'.windows = db.windows := by
  simp only [activateDue, bind_eq_ok, rowOr_eq_ok] at h
  obtain ⟨row, -, incident, -, h⟩ := h
  split at h
  · rw [← pure_eq_ok.1 h]
  · split at h
    · split at h <;> rw [← pure_eq_ok.1 h] <;> rfl
    · split at h
      · simp only [bind_eq_ok] at h
        obtain ⟨run, -, h⟩ := h
        split at h <;> rw [← pure_eq_ok.1 h] <;> rfl
      · split at h
        · rw [← pure_eq_ok.1 h]
          rfl
        · simp only [bind_eq_ok, pure_eq_ok] at h
          obtain ⟨db₁, hinsert, rfl⟩ := h
          have hinserted := Db.insertRun_windows hinsert
          exact hinserted

/-- **Only an observation writes windows.** -/
theorem transact_windows {skipped : List String} {request : Request} {response : Response}
    (hobserves : request.observes = false)
    (h : transact env tx skipped request db = .ok (response, db')) : db'.windows = db.windows := by
  cases request <;> simp only [transact, map_eq_ok, Prod.mk.injEq, Except.ok.injEq] at h
  case accept =>
    obtain ⟨⟨row, db₁⟩, h, -, rfl⟩ := h
    obtain ⟨-, -, hinsert⟩ := accept_eq_ok h
    have hinserted := Db.insertRun_windows hinsert
    exact hinserted
  case createIncident =>
    obtain ⟨db₁, h, -, rfl⟩ := h
    obtain ⟨_, -, -, -, rfl⟩ := createIncident_eq_ok h
    rfl
  case updatePhase =>
    obtain ⟨-, rfl⟩ := h
    rfl
  case claim owner seconds maxAttempts =>
    obtain ⟨-, rfl⟩ := h
    rcases claim_cases (Prod.mk.eta (p := claim tx owner seconds maxAttempts skipped db)).symm with
      ⟨-, hdb⟩ | ⟨row, -, _, -, -, -, hdb⟩ <;> rw [hdb]
    rfl
  case assertOwned =>
    obtain ⟨_, -, -, rfl⟩ := h
    rfl
  case heartbeat =>
    obtain ⟨db₁, h, -, rfl⟩ := h
    obtain ⟨-, rfl⟩ := heartbeat_eq_ok h
    rfl
  case markCheckpointStarted =>
    obtain ⟨db₁, h, -, rfl⟩ := h
    obtain ⟨-, rfl⟩ := markCheckpointStarted_eq_ok h
    rfl
  case finish =>
    obtain ⟨⟨status, db₁⟩, h, -, rfl⟩ := h
    obtain ⟨_, phase, _, -, -, -, -, -, rfl⟩ := finish_eq_ok h
    cases phase <;> rfl
  case queueApproval =>
    obtain ⟨db₁, h, -, rfl⟩ := h
    obtain ⟨_, -, -, ⟨-, rfl⟩ | ⟨-, -, -, rfl⟩⟩ := queueApproval_eq_ok h <;> rfl
  case prepare =>
    obtain ⟨⟨o, db₁⟩, h, -, rfl⟩ := h
    obtain ⟨-, -, -, ⟨-, rfl, -⟩ | ⟨-, -, -, rfl⟩⟩ := prepare_eq_ok h <;> rfl
  case dispatch =>
    obtain ⟨db₁, h, -, rfl⟩ := h
    obtain ⟨-, -, -, rfl⟩ := dispatch_eq_ok h
    rfl
  case record =>
    obtain ⟨db₁, h, -, rfl⟩ := h
    obtain ⟨-, -, rfl⟩ := record_eq_ok h
    rfl
  case acceptRound =>
    obtain ⟨⟨row, db₁⟩, h, -, rfl⟩ := h
    exact acceptRound_windows h
  case acceptInteraction =>
    obtain ⟨⟨row, db₁⟩, h, -, rfl⟩ := h
    rcases acceptInteraction_eq_ok h with rfl | ⟨db₂, _, happ, -, -, -, hinsert⟩
    · rfl
    · exact (Db.insertRun_windows hinsert).trans happ.windows
  case saveProgress =>
    obtain ⟨db₁, h, -, rfl⟩ := h
    obtain ⟨-, rfl⟩ := saveProgress_eq_ok h
    rfl
  case saveRecheck =>
    obtain ⟨db₁, h, -, rfl⟩ := h
    obtain ⟨-, _, rfl⟩ := saveRecheck_eq_ok h
    rfl
  case complete =>
    obtain ⟨db₁, h, -, rfl⟩ := h
    obtain ⟨row, db₂, db₃, output', -, hround, happ, rfl⟩ := complete_eq_ok h
    have happended := happ.windows
    have hopened := openRound_windows hround
    exact happended.trans hopened
  case control =>
    obtain ⟨⟨view, db₁⟩, h, -, rfl⟩ := h
    exact control_windows h
  case activateControl =>
    obtain ⟨db₁, h, -, rfl⟩ := h
    obtain ⟨c, hc, rfl | ⟨-, rfl⟩ |
      ⟨latest, child, db₂, hpending, hlatest, hstart, hchild, rfl⟩⟩ := activateControl_eq_ok h
    · rfl
    · rfl
    · obtain ⟨message, -, hround⟩ := acceptForControl_eq_ok hchild
      have haccepted := acceptRound_windows hround
      exact haccepted
  case answer =>
    obtain ⟨⟨view, db₁⟩, h, -, rfl⟩ := h
    rcases answer_eq_ok h with ⟨_, -, -, rfl⟩ |
      ⟨incident, row, question, message, db₂, -, -, -, -, -, -, -, -, hmessage, hinsert⟩
    · rfl
    · obtain ⟨-, rfl⟩ := Db.insertControl_eq_ok hinsert
      exact (messageInTransaction_eq_ok hmessage).1.windows
  case appendMessage =>
    obtain ⟨⟨m, db₁⟩, h, -, rfl⟩ := h
    exact (appendMessage_eq_ok h).windows
  case activateDue =>
    obtain ⟨db₁, h, -, rfl⟩ := h
    exact activateDue_windows h
  case inspectDelayed =>
    obtain ⟨⟨row, db₁⟩, h, -, rfl⟩ := h
    simp only [inspectDelayed, bind_eq_ok] at h
    obtain ⟨_, -, h⟩ := h
    exact lockedDelayed_windows h
  case exhaustDelayed =>
    obtain ⟨db₁, h, -, rfl⟩ := h
    simp only [exhaustDelayed, bind_eq_ok] at h
    obtain ⟨_, -, ⟨row, db₂⟩, hlocked, h⟩ := h
    have hwindows := lockedDelayed_windows hlocked
    split at h <;> rw [← pure_eq_ok.1 h] <;> exact hwindows
  case publishDelayed =>
    obtain ⟨db₁, h, -, rfl⟩ := h
    simp only [publishDelayed, bind_eq_ok] at h
    obtain ⟨_, -, ⟨row, db₂⟩, hlocked, h⟩ := h
    have hwindows := lockedDelayed_windows hlocked
    split at h <;> rw [← pure_eq_ok.1 h] <;> exact hwindows
  case openWindow => cases hobserves
  case saveWindow => cases hobserves
  case editBudget =>
    obtain ⟨db₁, h, -, rfl⟩ := h
    simp only [editBudget, bind_eq_ok, pure_eq_ok] at h
    obtain ⟨row, -, rfl⟩ := h
    rfl

end Windows

end IncidentAgent
