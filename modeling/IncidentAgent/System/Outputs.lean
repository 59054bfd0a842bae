import IncidentAgent.System.Frames

/-!
# Who speaks for an interaction

Messages of the assistant and outputs of interactions are written by one request only, the
completion of an interaction: every other request that appends a message appends one of the
user (`transact_appends`), and none of the others writes the output of an interaction
(`transact_unpublished`), although several of them write the outputs of diagnoses.
-/

namespace IncidentAgent

/-! ### Messages of the assistant -/

/-- A reply to an interaction. -/
def Message.RepliesTo (m : Message) (runId : String) : Prop :=
  m.role = .assistant ∧ m.relatedRunId = some runId

/-- At most one message is appended, of a role and about a run. -/
def Db.Tells (role : Role) (related : Option String) (db db' : Db) : Prop :=
  db'.messages = db.messages ∨ ∃ m, db'.messages = db.messages ++ [m] ∧ m.role = role ∧
    m.relatedRunId = related

section Messages

variable {env : Env} {tx : Tx} {lease : Lease} {db db' : Db}

theorem appendMessage_tells {incidentId : String} {draft : MessageDraft} {m : Message}
    (h : appendMessage tx incidentId draft db = .ok (m, db')) :
    db.Tells draft.role draft.relatedRunId db' ∧ m ∈ db'.messages ∧ m.role = draft.role ∧
      m.relatedRunId = draft.relatedRunId ∧ m.content = draft.content := by
  simp only [appendMessage, bind_eq_ok, rowOr_eq_ok] at h
  obtain ⟨incident, -, h⟩ := h
  split at h
  · rename_i existing hexisting
    simp only [bind_eq_ok, raiseIf_eq_ok, pure_eq_ok, not_or, not_not] at h
    obtain ⟨-, ⟨hcontent, hrelated, -⟩, h⟩ := h
    obtain ⟨rfl, rfl⟩ := Prod.mk.inj h
    have hsaved := List.find?_some hexisting
    simp only [decide_eq_true_eq] at hsaved
    exact ⟨Or.inl rfl, List.mem_of_find?_eq_some hexisting, hsaved.2.1, hrelated, hcontent⟩
  · simp only [bind_eq_ok, raiseIf_eq_ok, pure_eq_ok] at h
    obtain ⟨-, -, -, -, db₁, hinsert, h⟩ := h
    obtain ⟨rfl, rfl⟩ := Prod.mk.inj h
    obtain ⟨-, rfl⟩ := Db.insertMessage_eq_ok hinsert
    exact ⟨Or.inr ⟨_, rfl, rfl, rfl⟩, by simp, rfl, rfl, rfl⟩

theorem messageInTransaction_tells {incidentId key content : String} {m : Message}
    (h : messageInTransaction tx incidentId key content db = .ok (m, db')) :
    db.Tells .user none db' := by
  unfold messageInTransaction at h
  split at h
  · simp only [bind_eq_ok, raiseIf_eq_ok, pure_eq_ok] at h
    obtain ⟨-, -, h⟩ := h
    exact Or.inl (by rw [← (Prod.mk.inj h).2])
  · simp only [bind_eq_ok, pure_eq_ok] at h
    obtain ⟨db₁, hinsert, h⟩ := h
    obtain ⟨-, rfl⟩ := Prod.mk.inj h
    obtain ⟨-, rfl⟩ := Db.insertMessage_eq_ok hinsert
    exact Or.inr ⟨_, rfl, rfl, rfl⟩

theorem interactionMessage_tells {incidentId : String} {body : CreateInteraction} {m : Message}
    (h : interactionMessage tx incidentId body db = .ok (m, db')) : db.Tells .user none db' := by
  unfold interactionMessage at h
  split at h
  · simp only [bind_eq_ok, raiseIf_eq_ok, pure_eq_ok] at h
    obtain ⟨-, -, h⟩ := h
    exact Or.inl (by rw [← (Prod.mk.inj h).2])
  · simp only [bind_eq_ok, pure_eq_ok] at h
    obtain ⟨db₁, hinsert, h⟩ := h
    obtain ⟨-, rfl⟩ := Prod.mk.inj h
    obtain ⟨-, rfl⟩ := Db.insertMessage_eq_ok hinsert
    exact Or.inr ⟨_, rfl, rfl, rfl⟩

/-- **The reply of a completion**: appended unless there is nothing to say. -/
theorem appendReply_tells {output : Json} {assistant : Option String}
    (h : appendReply tx lease output assistant db = .ok db') :
    db.Tells .assistant (some lease.row.runId) db' ∧
      ∀ content ∈ assistant, content ≠ "" → ∃ m ∈ db'.messages,
        m.RepliesTo lease.row.runId ∧ m.content = content := by
  unfold appendReply at h
  split at h
  · rename_i hnone
    refine ⟨Or.inl (by rw [← pure_eq_ok.1 h]), fun content hcontent hne => ?_⟩
    rw [Option.mem_def] at hcontent
    simp [hcontent, hne] at hnone
  · rename_i content hsome
    simp only [bind_eq_ok, pure_eq_ok] at h
    obtain ⟨⟨m, db₁⟩, happend, rfl⟩ := h
    obtain ⟨htells, hm, hrole, hrelated, hcontent⟩ := appendMessage_tells happend
    refine ⟨htells, fun text htext _ => ⟨m, hm, ⟨hrole, hrelated⟩, hcontent.trans ?_⟩⟩
    rw [Option.mem_def] at htext
    rw [htext, Option.filter_eq_some_iff] at hsome
    exact (Option.some.inj hsome.1).symm

/-- **What a transaction says**: a message of the user, or the reply of a completion. -/
theorem transact_appends {skipped : List String} {request : Request} {response : Response}
    (hrechecks : db.Rechecks) (hready : request.Ready tx db)
    (h : transact env tx skipped request db = .ok (response, db')) :
    (∃ related, db.Tells .user related db') ∨ ∃ lease output assistant investigate,
      request = .complete lease output assistant investigate ∧
        db.Tells .assistant (some lease.row.runId) db' := by
  cases hspeaks : request.speaks with
  | false => exact Or.inl ⟨none, Or.inl ((transact_frame hrechecks h).messages hspeaks)⟩
  | true =>
    cases request <;> simp only [Request.speaks, Bool.false_eq_true] at hspeaks <;>
      simp only [transact, map_eq_ok, Prod.mk.injEq] at h
    case acceptInteraction =>
      obtain ⟨⟨row, db₁⟩, h, -, rfl⟩ := h
      simp only [acceptInteraction, bind_eq_ok, rowOr_eq_ok] at h
      obtain ⟨incident, -, h⟩ := h
      refine Or.inl ⟨none, ?_⟩
      split at h
      · simp only [bind_eq_ok, pure_eq_ok] at h
        obtain ⟨_, -, h⟩ := h
        exact Or.inl (by rw [← (Prod.mk.inj h).2])
      · simp only [bind_eq_ok, raiseIf_eq_ok, pure_eq_ok] at h
        obtain ⟨-, -, -, -, ⟨message, db₂⟩, hmessage, db₃, hinsert, h⟩ := h
        obtain ⟨-, rfl⟩ := Prod.mk.inj h
        have htells := interactionMessage_tells hmessage
        rwa [Db.Tells, ← (Db.insertRun_aligned hinsert).1] at htells
    case complete lease output assistant investigate =>
      obtain ⟨db₁, h, -, rfl⟩ := h
      simp only [complete, bind_eq_ok, pure_eq_ok] at h
      obtain ⟨row, -, ⟨output', db₂⟩, hround, db₃, hreply, rfl⟩ := h
      have htells := (appendReply_tells hreply).1
      have hmessages : db₂.messages = db.messages := by
        rcases openRound_eq_ok hround with ⟨-, -, rfl⟩ | ⟨-, _, _, child, -, hr, -⟩
        · rfl
        · exact (acceptRound_aligned hr).1
      rw [Db.Tells, hmessages] at htells
      exact Or.inr ⟨_, _, _, _, rfl, htells⟩
    case control =>
      obtain ⟨⟨view, db₁⟩, h, -, rfl⟩ := h
      refine Or.inl ⟨none, ?_⟩
      rcases control_eq_ok h with ⟨_, -, -, -, rfl⟩ |
        ⟨latest, message, db₂, row, -, -, hmessage, -, -, -, hinsert⟩
      · exact Or.inl rfl
      · obtain ⟨-, rfl⟩ := Db.insertControl_eq_ok hinsert
        have htells := messageInTransaction_tells hmessage
        rwa [Db.Tells, ← arbitrate_messages] at htells
    case answer =>
      obtain ⟨⟨view, db₁⟩, h, -, rfl⟩ := h
      refine Or.inl ⟨none, ?_⟩
      rcases answer_eq_ok h with ⟨_, -, -, rfl⟩ |
        ⟨incident, row, question, message, db₂, -, -, -, -, -, -, -, -, hmessage, hinsert⟩
      · exact Or.inl rfl
      · obtain ⟨-, rfl⟩ := Db.insertControl_eq_ok hinsert
        have htells := messageInTransaction_tells hmessage
        exact htells
    case appendMessage =>
      obtain ⟨⟨m, db₁⟩, h, -, rfl⟩ := h
      have htells := (appendMessage_tells h).1
      rw [hready.proper] at htells
      exact Or.inl ⟨_, htells⟩

end Messages

/-! ### The outputs of interactions -/

/-- No output of an interaction is published. -/
def Db.Unpublished (db db' : Db) : Prop :=
  ∀ r' ∈ db'.runs, r'.runKind = .interaction → ∀ o ∈ r'.outputSnapshot,
    ∃ r ∈ db.runs, r.runKind = .interaction ∧ r.runId = r'.runId ∧ o ∈ r.outputSnapshot

namespace Db.Unpublished

variable {db db₁ db₂ db₃ : Db}

theorem of_runs (h : db₂.runs = db₁.runs) : db₁.Unpublished db₂ :=
  fun r hr hkind _ ho => ⟨r, h ▸ hr, hkind, rfl, ho⟩

theorem trans (h : db₁.Unpublished db₂) (h' : db₂.Unpublished db₃) : db₁.Unpublished db₃ := by
  intro r₃ hr₃ hkind o ho
  obtain ⟨r₂, hr₂, hkind₂, hid, ho₂⟩ := h' r₃ hr₃ hkind o ho
  obtain ⟨r₁, hr₁, hkind₁, hid₁, ho₁⟩ := h r₂ hr₂ hkind₂ o ho₂
  exact ⟨r₁, hr₁, hkind₁, hid₁.trans hid, ho₁⟩

/-- An update publishes no output of an interaction, if it leaves the output of those that it
meets alone. -/
theorem update {p : Run → Bool} {f : Run → Run} (h : db₂.runs = Table.updateWhere p f db.runs)
    (hfixed : ∀ r, (f r).fixed = r.fixed)
    (hf : ∀ r ∈ db.runs, p r = true → r.runKind = .interaction →
      (f r).outputSnapshot = r.outputSnapshot) : db.Unpublished db₂ := by
  intro r' hr' hkind o ho
  rw [h] at hr'
  obtain ⟨r, hr, rfl⟩ := Table.mem_updateWhere.1 hr'
  by_cases hp : p r = true
  · simp only [hp, if_true] at hkind ho ⊢
    have hsame : r.runKind = .interaction :=
      (column_eq (hfixed r) Run.runKind fun _ => rfl).symm.trans hkind
    rw [hf r hr hp hsame] at ho
    exact ⟨r, hr, hsame, (column_eq (hfixed r) Run.runId fun _ => rfl).symm, ho⟩
  · simp only [hp] at hkind ho ⊢
    exact ⟨r, hr, hkind, rfl, ho⟩

/-- A run is inserted without an output. -/
theorem insert {r : Run} (hr : r.outputSnapshot = none) (h : db₁.insertRun r = .ok db₂) :
    db₁.Unpublished db₂ := by
  obtain ⟨-, -, rfl⟩ := Db.insertRun_eq_ok h
  intro r' hr' hkind o ho
  rcases List.mem_append.1 hr' with hold | hnew
  · exact ⟨r', hold, hkind, rfl, ho⟩
  · rw [List.mem_singleton.1 hnew, hr] at ho
    cases ho

end Db.Unpublished

section Outputs

variable {env : Env} {tx : Tx} {lease : Lease} {db db' : Db}

/-- A round writes the output of the diagnosis before it, and of no interaction. -/
theorem acceptRound_unpublished (hk : db.Keys) {incidentId messageId key : String}
    {parentRunId : Option String} {previous : Json} {row : Run}
    (h : acceptRound env tx incidentId messageId key parentRunId previous db = .ok (row, db')) :
    db.Unpublished db' := by
  rcases acceptRound_eq_ok h with ⟨-, -, rfl⟩ |
    ⟨incident, message, context, -, -, -, -, -, -, hrow, hinsert⟩
  · exact .of_runs rfl
  · simp only [insertRound, bind_eq_ok, pure_eq_ok] at hinsert
    obtain ⟨db₁, hinsert, rfl⟩ := hinsert
    have hfirst : db.Unpublished db₁ := .insert (hrow ▸ rfl) hinsert
    cases hlatest : db.latest incidentId with
    | none => exact hfirst.trans (.of_runs rfl)
    | some p =>
      obtain ⟨hp, -, hdiag⟩ := Db.mem_lane.1 (Db.mem_lane_of_latest hlatest)
      obtain ⟨-, -, rfl⟩ := Db.insertRun_eq_ok hinsert
      refine hfirst.trans (.update rfl (fun _ => rfl) ?_)
      intro r hr hid hinter
      exfalso
      rcases List.mem_append.1 hr with hold | hnew
      · rw [hk.runs.eq_of_key hold hp (by simpa using hid), hdiag] at hinter
        cases hinter
      · rw [List.mem_singleton.1 hnew, hrow] at hinter
        cases hinter

/-- A control writes the output of the diagnosis that it stops, and of no interaction. -/
theorem arbitrate_unpublished (hk : db.Keys) {incidentId : String} {latest : Run}
    (hl : latest ∈ db.runs) (hdiag : latest.runKind = .diagnosis) {dispatched : Bool}
    {action : ControlAction} {snapshot : Json} :
    db.Unpublished (arbitrate tx incidentId latest dispatched action snapshot db) := by
  have hkind : ∀ r ∈ db.runs, r.runId = latest.runId → r.runKind ≠ .interaction := by
    intro r hr hid
    rw [hk.runs.eq_of_key hr hl hid, hdiag]
    decide
  have hstop : db.Unpublished (stopDiagnosis tx incidentId latest dispatched snapshot
      (db.updateIncident incidentId fun i => { i with eventRevision := i.eventRevision + 1 })) := by
    have hstopped : db.Unpublished (db.updateRun latest.runId (Run.stopped tx.now)) :=
      .update rfl (fun _ => rfl) fun _ _ _ _ => rfl
    unfold stopDiagnosis
    split
    · split
      · exact hstopped
      · refine hstopped.trans (.update rfl (fun _ => rfl) ?_)
        intro r hr hid hinter
        obtain ⟨q, hq, rfl⟩ := Table.mem_updateWhere.1 hr
        refine absurd hinter ?_
        split
        · rename_i hsel
          exact hkind q hq (by simpa using hsel)
        · rename_i hsel
          simp [hsel] at hid hsel
    · exact .of_runs rfl
  have hdrop : db.Unpublished (dropInteractions tx incidentId (stopDiagnosis tx incidentId latest
      dispatched snapshot
        (db.updateIncident incidentId fun i => { i with eventRevision := i.eventRevision + 1 }))) :=
    hstop.trans (.update rfl (fun _ => rfl) fun _ _ _ _ => rfl)
  unfold arbitrate
  split
  · exact hdrop.trans (.of_runs rfl)
  · exact hdrop

/-- The requests that complete an interaction. -/
def Request.completes : Request → Bool
  | .complete _ _ _ _ => true
  | _ => false

/-- **Only its completion publishes the output of an interaction.** -/
theorem transact_unpublished {skipped : List String} {request : Request} {response : Response}
    (hs : db.History env) (hready : request.Ready tx db) (hcompletes : request.completes = false)
    (h : transact env tx skipped request db = .ok (response, db')) : db.Unpublished db' := by
  have hk := hs.keys
  cases request <;> simp only [Request.completes, Bool.true_eq_false] at hcompletes <;>
    simp only [transact, map_eq_ok, Prod.mk.injEq, Except.ok.injEq] at h
  case accept =>
    obtain ⟨⟨row, db₁⟩, h, -, rfl⟩ := h
    obtain ⟨-, rfl, hinsert⟩ := accept_eq_ok h
    have hnew := Db.Unpublished.insert rfl hinsert
    exact hnew
  case createIncident =>
    obtain ⟨db₁, h, -, rfl⟩ := h
    obtain ⟨_, -, -, -, rfl⟩ := createIncident_eq_ok h
    exact .of_runs rfl
  case updatePhase =>
    obtain ⟨-, rfl⟩ := h
    exact .of_runs rfl
  case claim owner seconds maxAttempts =>
    obtain ⟨-, rfl⟩ := h
    rcases claim_cases (Prod.mk.eta (p := claim tx owner seconds maxAttempts skipped db)).symm with
      ⟨-, hdb⟩ | ⟨row, -, recoveryOnly, -, -, -, hdb⟩
    · exact .of_runs (by rw [hdb])
    · rw [hdb]
      exact .update rfl (fun _ => rfl) fun _ _ _ _ => rfl
  case assertOwned =>
    obtain ⟨_, -, -, rfl⟩ := h
    exact .of_runs rfl
  case heartbeat =>
    obtain ⟨db₁, h, -, rfl⟩ := h
    obtain ⟨-, rfl⟩ := heartbeat_eq_ok h
    exact .update rfl (fun _ => rfl) fun _ _ _ _ => rfl
  case markCheckpointStarted =>
    obtain ⟨db₁, h, -, rfl⟩ := h
    obtain ⟨-, rfl⟩ := markCheckpointStarted_eq_ok h
    exact .update rfl (fun _ => rfl) fun _ _ _ _ => rfl
  case finish lease status args =>
    obtain ⟨⟨published, db₁⟩, h, -, rfl⟩ := h
    obtain ⟨_, phase, code, -, -, -, -, -, rfl⟩ := finish_eq_ok h
    have hfinished : db.Unpublished
        (db.updateRun lease.row.runId (Run.finished tx.now published code args)) := by
      refine .update rfl (fun _ => rfl) ?_
      intro r hr hid hinter
      have hkind : lease.row.runKind = .interaction :=
        (column_eq (hready.leased lease rfl r hr (by simpa using hid)) Run.runKind
          fun _ => rfl).symm.trans hinter
      simp [Run.finished, (hready.proper.2 hkind).2]
    cases phase <;> exact hfinished
  case queueApproval =>
    obtain ⟨db₁, h, -, rfl⟩ := h
    obtain ⟨_, -, -, ⟨-, rfl⟩ | ⟨-, -, -, rfl⟩⟩ := queueApproval_eq_ok h
    · exact .of_runs rfl
    · exact .update rfl (fun _ => rfl) fun _ _ _ _ => rfl
  case prepare =>
    obtain ⟨⟨o, db₁⟩, h, -, rfl⟩ := h
    obtain ⟨-, -, -, ⟨-, rfl, -⟩ | ⟨-, -, -, rfl⟩⟩ := prepare_eq_ok h <;> exact .of_runs rfl
  case dispatch =>
    obtain ⟨db₁, h, -, rfl⟩ := h
    obtain ⟨-, -, -, rfl⟩ := dispatch_eq_ok h
    exact .of_runs rfl
  case record =>
    obtain ⟨db₁, h, -, rfl⟩ := h
    obtain ⟨-, -, rfl⟩ := record_eq_ok h
    exact .of_runs rfl
  case acceptRound =>
    obtain ⟨⟨row, db₁⟩, h, -, rfl⟩ := h
    exact acceptRound_unpublished hk h
  case acceptInteraction =>
    obtain ⟨⟨row, db₁⟩, h, -, rfl⟩ := h
    rcases acceptInteraction_eq_ok h with rfl | ⟨db₂, context, happ, -, -, rfl, hinsert⟩
    · exact .of_runs rfl
    · exact (Db.Unpublished.of_runs happ.runs).trans (.insert rfl hinsert)
  case saveProgress =>
    obtain ⟨db₁, h, -, rfl⟩ := h
    obtain ⟨-, rfl⟩ := saveProgress_eq_ok h
    exact .update rfl (fun _ => rfl) fun _ _ _ _ => rfl
  case saveRecheck =>
    obtain ⟨db₁, h, -, rfl⟩ := h
    obtain ⟨-, _, rfl⟩ := saveRecheck_eq_ok h
    exact .of_runs rfl
  case control incidentId body expectedParent snapshot =>
    obtain ⟨⟨view, db₁⟩, h, -, rfl⟩ := h
    rcases control_eq_ok h with ⟨_, -, -, -, rfl⟩ |
      ⟨latest, message, db₂, row, -, hlatest, hmessage, -, -, -, hinsert⟩
    · exact .of_runs rfl
    · obtain ⟨-, rfl⟩ := Db.insertControl_eq_ok hinsert
      obtain ⟨hl, -, hdiag⟩ := Db.mem_lane.1 (Db.mem_lane_of_latest hlatest)
      have happ := (messageInTransaction_eq_ok hmessage).1
      have hedits : Db.Edits env tx true db db₂ := happ.edits
      have hstop : db₂.Unpublished (arbitrate tx incidentId latest
          (writeDispatched (db₂.operation? latest.runId)) body.action snapshot db₂) :=
        arbitrate_unpublished (hedits.keys hk) (happ.runs ▸ hl) hdiag
      exact (Db.Unpublished.of_runs happ.runs).trans (hstop.trans (.of_runs rfl))
  case activateControl =>
    obtain ⟨db₁, h, -, rfl⟩ := h
    obtain ⟨c, hc, rfl | ⟨-, rfl⟩ |
      ⟨latest, child, db₂, -, -, -, hchild, rfl⟩⟩ := activateControl_eq_ok h
    · exact .of_runs rfl
    · exact .of_runs rfl
    · obtain ⟨message, -, hround⟩ := acceptForControl_eq_ok hchild
      exact (acceptRound_unpublished hk hround).trans (.of_runs rfl)
  case answer =>
    obtain ⟨⟨view, db₁⟩, h, -, rfl⟩ := h
    rcases answer_eq_ok h with ⟨_, -, -, rfl⟩ |
      ⟨incident, row, question, message, db₂, -, -, -, -, -, -, -, -, hmessage, hinsert⟩
    · exact .of_runs rfl
    · obtain ⟨-, rfl⟩ := Db.insertControl_eq_ok hinsert
      have happ := (messageInTransaction_eq_ok hmessage).1
      exact (Db.Unpublished.of_runs happ.runs).trans
        (.update rfl (fun _ => rfl) fun _ _ _ _ => rfl)
  case appendMessage =>
    obtain ⟨⟨m, db₁⟩, h, -, rfl⟩ := h
    exact .of_runs (appendMessage_eq_ok h).runs
  case activateDue =>
    obtain ⟨db₁, h, -, rfl⟩ := h
    rcases activateDue_eq_ok hs.rechecks h with hside | ⟨_, -, -, _, -, db₂, hside, rfl⟩ |
      ⟨row, incident, db₂, -, -, -, -, -, -, -, -, hinsert, rfl⟩
    · exact .of_runs hside.runs
    · exact (Db.Unpublished.of_runs hside.runs).trans
        (.update rfl (fun _ => rfl) fun _ _ _ _ => rfl)
    · have hnew := Db.Unpublished.insert rfl hinsert
      exact hnew.trans (.of_runs rfl)
  case inspectDelayed =>
    obtain ⟨⟨row, db₁⟩, h, -, rfl⟩ := h
    exact .of_runs (inspectDelayed_eq_ok hs.rechecks h).2.runs
  case exhaustDelayed =>
    obtain ⟨db₁, h, -, rfl⟩ := h
    exact .of_runs (exhaustDelayed_eq_ok hs.rechecks h).2.runs
  case publishDelayed =>
    obtain ⟨db₁, h, -, rfl⟩ := h
    exact .of_runs (publishDelayed_eq_ok hs.rechecks h).2.runs
  case openWindow =>
    obtain ⟨⟨payload, db₁⟩, h, -, rfl⟩ := h
    exact .of_runs (openWindow_eq_ok h).2.runs
  case saveWindow =>
    obtain ⟨db₁, h, -, rfl⟩ := h
    exact .of_runs (saveWindow_eq_ok h).2.runs
  case editBudget =>
    obtain ⟨db₁, h, -, rfl⟩ := h
    exact .of_runs (editBudget_eq_ok h).2.runs

end Outputs

end IncidentAgent
