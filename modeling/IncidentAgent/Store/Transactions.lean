import IncidentAgent.Store.Standing

/-!
# Transactions are sequences of edits

For each transaction of the repository, the sequence of edits that a committed one makes.
The hypotheses are what a transaction takes from its caller: that the run it was told of as
the latest is older than the transaction, that a lease names the run it was granted for,
and that the identifiers it draws are new.
-/

namespace IncidentAgent

section Transactions

variable {env : Env} {tx : Tx} {quiet : Bool} {lease : Lease} {db db' : Db}

/-- The rows with the identifier of a leased run are the row that the fence returned. -/
theorem Db.Keys.eq_of_fence (hk : db.Keys) {row : Run} (h : fence tx lease db = .ok row) :
    ∀ r ∈ db.runs, r.runId = lease.row.runId → r = row := by
  intro r hr hid
  have hrow := fence_eq_ok h
  exact hk.runs.eq_of_key hr hrow.1 (hid.trans hrow.2.1.symm)

/-- An update of the leased run is an edit, if it advances the row that the fence
returned. -/
theorem Db.Edits.owned (hk : db.Keys) {row : Run} (h : fence tx lease db = .ok row)
    {f : Run → Run} (hf : row.Advances tx.now (f row))
    (hq : quiet → row.runKind = .diagnosis → (f row).core = row.core) :
    Db.Edits env tx quiet db (db.updateRun lease.row.runId f) := by
  have hrow := hk.eq_of_fence h
  refine .single (.runs (fun r hr hp => ?_) fun hquiet r hr hp hkind => ?_)
  · rw [hrow r hr (by simpa using hp)]
    exact hf
  · rw [hrow r hr (by simpa using hp)] at hkind ⊢
    exact hq hquiet hkind

/-- An update of quiet columns of the leased run is a quiet edit. -/
theorem Db.Edits.owned_quiet (hk : db.Keys) (h : ∃ row, fence tx lease db = .ok row)
    {f : Run → Run} (hf : ∀ r, (f r).fixed = r.fixed ∧ (f r).leaseEpoch = r.leaseEpoch ∧
      (f r).core = r.core ∧ (f r).approvalPayload = r.approvalPayload ∧
      (f r).leaseOwner = r.leaseOwner ∧ (f r).leaseExpiresAt = r.leaseExpiresAt ∧
      (f r).outputSnapshot = r.outputSnapshot) :
    Db.Edits env tx quiet db (db.updateRun lease.row.runId f) := by
  obtain ⟨row, h⟩ := h
  obtain ⟨hfixed, hepoch, hcore, happ, howner, hexp, hout⟩ := hf row
  have hcore' := hcore
  simp only [Run.core, Prod.mk.injEq] at hcore'
  exact .owned hk h
    (.of_quiet hfixed hepoch hcore'.1 hcore'.2.1 hcore'.2.2.1 happ howner hexp hout)
    fun _ _ => hcore

theorem claim_edits (hk : db.Keys) {owner : String} {seconds maxAttempts : Nat}
    {skipped : List String} {granted : Option Lease}
    (h : claim tx owner seconds maxAttempts skipped db = (granted, db')) :
    Db.Edits env tx false db db' := by
  rcases claim_cases h with ⟨-, rfl⟩ | ⟨row, hrow, recoveryOnly, hclaim, -, -, rfl⟩
  · exact .refl
  · refine .single (.runs (fun r hr hp => ?_) (by simp))
    have hr : r = row := hk.runs.eq_of_key hr hrow (by simpa using hp)
    subst hr
    refine ⟨rfl, Nat.le_succ _, fun hended => ?_, id, id, fun _ h => h, fun he _ => ?_,
      fun hw => (by cases hw), fun _ h => h, fun _ => rfl⟩
    · rcases hclaim with hs | ⟨hs, -⟩ | ⟨hs, -⟩ <;> simp [hs, RunStatus.terminal] at hended
    · exact absurd he (Nat.succ_ne_self _)

theorem markCheckpointStarted_edits (hk : db.Keys)
    (h : markCheckpointStarted tx lease db = .ok db') : Db.Edits env tx quiet db db' := by
  obtain ⟨hrow, rfl⟩ := markCheckpointStarted_eq_ok h
  exact .owned_quiet hk hrow fun r => ⟨rfl, rfl, rfl, rfl, rfl, rfl, rfl⟩

theorem heartbeat_edits (hk : db.Keys) {seconds : Nat}
    (h : heartbeat tx lease seconds db = .ok db') : Db.Edits env tx quiet db db' := by
  obtain ⟨⟨row, hrow⟩, rfl⟩ := heartbeat_eq_ok h
  refine .owned hk hrow ?_ fun _ _ => rfl
  exact ⟨rfl, le_refl _, fun _ => rfl, id, id, fun _ h => h,
    fun _ hs => ⟨hs, rfl, Or.inr (fence_eq_ok hrow).2.2.2.2.2.2⟩, fun _ => Or.inl rfl,
    fun _ h => h, fun _ => rfl⟩

theorem finish_edits (hk : db.Keys) {status published : RunStatus} {args : FinishArgs}
    (hleased : ∀ r ∈ db.runs, r.runId = lease.row.runId → r.fixed = lease.row.fixed)
    (hlane : lease.row.runKind = .interaction → status ≠ .waitingUser ∧ status ≠ .waitingApproval)
    (h : finish tx lease status args db = .ok (published, db')) :
    Db.Edits env tx false db db' := by
  obtain ⟨row, phase, code, hrow, -, hnr, hout, -, rfl⟩ := finish_eq_ok h
  have hstatus : row.status = .running := (fence_eq_ok hrow).2.2.2.2.2.1
  have hpub : published ≠ .running := by
    rcases finishOutcome_cases hout with ⟨rfl, -⟩ | ⟨-, rfl, -⟩ | ⟨-, rfl, -⟩
    · exact hnr
    · decide
    · decide
  have hwait : published.waiting → row.runKind = .diagnosis := by
    intro hw
    have hfixed := hleased row (fence_eq_ok hrow).1 (fence_eq_ok hrow).2.1
    rw [column_eq hfixed Run.runKind fun _ => rfl]
    cases hkind : lease.row.runKind with
    | diagnosis => rfl
    | interaction =>
      obtain ⟨hu, ha⟩ := hlane hkind
      rcases finishOutcome_cases hout with ⟨rfl, -⟩ | ⟨-, rfl, -⟩ | ⟨-, rfl, -⟩
      · cases published <;> simp_all [RunStatus.waiting]
      · cases hw
      · cases hw
  have hrun : Db.Edits env tx false db
      (db.updateRun lease.row.runId (Run.finished tx.now published code args)) :=
    .owned hk hrow (.of_parked (by simp [hstatus, RunStatus.terminal]) rfl rfl id id
      (fun _ h => h) hpub hwait (Run.finished_published published code args)
      fun hopen => if_neg (by simpa [Run.finished] using hopen)) (by simp)
  cases phase with
  | none => exact hrun
  | some phase => exact hrun.tail (.incidents (fun i => ⟨rfl, le_refl _⟩) (by simp))

theorem queueApproval_edits (hk : db.Keys) {runId : String} {decision : ApprovalDecision}
    {binding : String} (h : queueApproval runId decision binding db = .ok db') :
    Db.Edits env tx false db db' := by
  obtain ⟨row, hrow, -, h⟩ := queueApproval_eq_ok h
  rcases h with ⟨-, rfl⟩ | ⟨hnone, hstatus, -, rfl⟩
  · exact .refl
  · refine .single (.runs (fun r hr hp => ?_) (by simp))
    obtain ⟨hmem, hid⟩ := Db.mem_of_run? hrow
    have hr : r = row := hk.runs.eq_of_key hr hmem (by simpa [hid] using hp)
    subst hr
    exact .of_parked (by simp [hstatus, RunStatus.terminal]) rfl rfl id id (by simp [hnone])
      (by simp) (fun hw => by cases hw) (fun _ h => h) fun _ => rfl

theorem prepare_edits {args : PrepareArgs} {o : Operation}
    (hleased : ∀ r ∈ db.runs, r.runId = lease.row.runId → r.fixed = lease.row.fixed)
    (hkind : lease.row.runKind = .diagnosis)
    (h : prepare env tx lease args db = .ok (o, db')) : Db.Edits env tx false db db' := by
  obtain ⟨⟨row, hrow⟩, -, -, h⟩ := prepare_eq_ok h
  obtain ⟨hmem, hid, -⟩ := fence_eq_ok hrow
  have hfixed := hleased row hmem hid
  rcases h with ⟨-, rfl, -⟩ | ⟨-, rfl, hc, rfl⟩
  · exact .refl
  · exact .single (.operation rfl hc ⟨row, hmem, hid,
      column_eq hfixed Run.incidentId fun _ => rfl,
      (column_eq hfixed Run.runKind fun _ => rfl).trans hkind⟩)

theorem dispatch_edits {operationId : String} (h : dispatch tx lease operationId db = .ok db') :
    Db.Edits env tx false db db' := by
  obtain ⟨-, -, -, rfl⟩ := dispatch_eq_ok h
  refine .single (.operations rfl fun o _ hp => ?_)
  have hs : o.state = .prepared := by
    simp only [dispatchSelects, decide_eq_true_eq] at hp
    exact hp.2.2
  exact ⟨rfl, by simp [Operation.dispatching, hs, OperationState.leads], fun _ h => h, fun _ h => h⟩

theorem record_edits (hk : db.Keys) {state : OperationState} {args : RecordArgs}
    (h : record tx lease state args db = .ok db') : Db.Edits env tx false db db' := by
  obtain ⟨-, ⟨o, ho, hallowed, hsome⟩, rfl⟩ := record_eq_ok h
  obtain ⟨hmem, hid⟩ := Db.mem_of_operation? ho
  refine .single (.operations rfl fun p hp hsel => ?_)
  have hp : p = o := hk.operations.eq_of_key hp hmem (by simpa [hid] using hsel)
  subst hp
  rw [not_or] at hsome
  refine ⟨rfl, recordAllowed_leads hallowed, fun r hr => ?_, fun r hr => ?_⟩
  · have hnone : args.response = none := by
      by_contra hne
      exact hsome.1 ⟨Option.isSome_iff_ne_none.2 hne, by rw [Option.mem_def.1 hr]; rfl⟩
    simpa [Operation.recorded, hnone] using hr
  · have hnone : args.result = none := by
      by_contra hne
      exact hsome.2 ⟨Option.isSome_iff_ne_none.2 hne, by rw [Option.mem_def.1 hr]; rfl⟩
    simpa [Operation.recorded, hnone] using hr

theorem saveProgress_edits (hk : db.Keys) {progress : Json}
    (h : saveProgress tx lease progress db = .ok db') : Db.Edits env tx quiet db db' := by
  obtain ⟨hrow, rfl⟩ := saveProgress_eq_ok h
  exact .owned_quiet hk hrow fun r => ⟨rfl, rfl, rfl, rfl, rfl, rfl, rfl⟩

theorem saveRecheck_edits {recheckId : String} {result : Json}
    (h : saveRecheck tx lease recheckId result db = .ok db') : Db.Edits env tx quiet db db' := by
  obtain ⟨-, rechecks, rfl⟩ := saveRecheck_eq_ok h
  exact .single (.side .of_delayed)

theorem accept_edits {incidentId runId threadId : String} {payload : IncidentRequest}
    {key : Option String} {dialogue : Bool} {row : Run}
    (h : accept env tx incidentId runId threadId payload key dialogue db = .ok (row, db')) :
    Db.Edits env tx quiet db db' := by
  obtain ⟨hi, rfl, hinsert⟩ := accept_eq_ok h
  obtain ⟨hkey, hc, rfl⟩ := Db.insertRun_eq_ok hinsert
  exact .single (.first hi ⟨hkey, hc⟩)

theorem createIncident_edits {incidentId threadId phase : String} {payload : IncidentRequest}
    (h : createIncident incidentId threadId payload phase db = .ok db') :
    Db.Edits env tx quiet db db' := by
  obtain ⟨i, -, -, hi, rfl⟩ := createIncident_eq_ok h
  exact .single (.incident hi)

/-- An update of the phase of an incident is a quiet edit. -/
theorem Db.phase_edits (db : Db) (incidentId phase : String) :
    Db.Edits env tx quiet db (db.updateIncident incidentId fun i => { i with phase := phase }) :=
  .single (.incidents (fun _ => ⟨rfl, le_refl _⟩) fun _ _ => rfl)

/-- The publication of the output of a run that has ended is a quiet edit. -/
theorem Db.output_edits {runId : String} {f : Run → Option Json}
    (hf : ∀ r ∈ db.runs, r.runId = runId → r.status.terminal = true ∧
      ∀ o ∈ r.outputSnapshot, o ∈ f r) :
    Db.Edits env tx quiet db (db.updateRun runId fun r => { r with outputSnapshot := f r }) := by
  refine .single (.runs (fun r hr hp => ?_) fun _ _ _ _ _ => rfl)
  obtain ⟨hended, hout⟩ := hf r hr (by simpa using hp)
  exact .of_published hended hout

theorem acceptRound_edits (hk : db.Keys) {incidentId messageId key : String}
    {parentRunId : Option String}
    (hprior : ∀ p ∈ parentRunId, ∀ r ∈ db.runs, r.runId = p → r.createdAt < tx.start)
    {previous : Json} {row : Run}
    (h : acceptRound env tx incidentId messageId key parentRunId previous db = .ok (row, db')) :
    Db.Edits env tx quiet db db' := by
  rcases acceptRound_eq_ok h with ⟨-, -, rfl⟩ |
    ⟨incident, message, context, hi, -, hparent, havail, hm, hseq, rfl, hinsert⟩
  · exact .refl
  · obtain ⟨hkey, hc, rfl⟩ := insertRound_eq_ok hinsert
    obtain ⟨-, rfl⟩ := Db.mem_of_incident? hi
    obtain ⟨hidle, hop, hended⟩ := roundAvailable_eq_ok havail
    have hmsg := List.find?_some hm
    simp only [decide_eq_true_eq] at hmsg
    have holder : ∀ p ∈ db.latest incident.incidentId, p.createdAt < tx.start := by
      intro p hp
      rw [Option.mem_def] at hp
      exact hprior p.runId (by simp [← hparent, hp]) p (Db.mem_lane.1 (Db.mem_lane_of_latest hp)).1 rfl
    have hround : RoundInsert tx db incident message :=
      ⟨hi, hidle, List.mem_of_find?_eq_some hm, hmsg.1, hmsg.2.2, hseq, hended, holder, hop⟩
    have hmid : messageId = message.messageId := hmsg.2.1.symm
    subst hmid
    have hedit : Db.Edits env tx quiet db _ :=
      .single (.run (.round hround) ⟨hkey, hc⟩)
    cases hlatest : db.latest incident.incidentId with
    | none => exact (hlatest ▸ hedit).trans (Db.phase_edits _ _ _)
    | some p =>
      have hp := (Db.mem_lane.1 (Db.mem_lane_of_latest hlatest)).1
      have hpublish : ∀ r ∈ db.runs ++ [Run.round env tx incident (some p) message key
          (env.requestDigest (.obj [("message_id", .str message.messageId)])) context],
          r.runId = p.runId → r.status.terminal = true ∧
            ∀ o ∈ r.outputSnapshot, o ∈ r.outputSnapshot.or (some previous) := by
        intro r hr hid
        rcases List.mem_append.1 hr with hr | hr
        · obtain rfl := hk.runs.eq_of_key hr hp hid
          exact ⟨by simpa [Run.active] using hended r hlatest, fun o ho => by
            rw [Option.mem_def] at ho; simp [ho]⟩
        · rw [List.mem_singleton.1 hr] at hid
          exact absurd hid.symm (hc.1 p hp).1
      exact ((hlatest ▸ hedit).trans (Db.output_edits hpublish)).trans (Db.phase_edits _ _ _)

/-- A round that is accepted leaves the interactions alone. -/
theorem acceptRound_runs (hk : db.Keys) {incidentId messageId key : String} {parentRunId : Option String}
    {previous : Json} {row : Run}
    (h : acceptRound env tx incidentId messageId key parentRunId previous db = .ok (row, db')) :
    ∀ r ∈ db'.runs, r ∈ db.runs ∨ r.runKind = .diagnosis := by
  intro r' hr'
  rcases acceptRound_eq_ok h with ⟨-, -, rfl⟩ |
    ⟨incident, message, context, -, -, -, -, -, -, rfl, hinsert⟩
  · exact Or.inl hr'
  · obtain ⟨-, -, rfl⟩ := insertRound_eq_ok hinsert
    have hnew : ∀ r ∈ db.runs ++ [Run.round env tx incident (db.latest incidentId) message key
        (env.requestDigest (.obj [("message_id", .str messageId)])) context],
        r ∈ db.runs ∨ r.runKind = .diagnosis := by
      intro r hr
      rcases List.mem_append.1 hr with hr | hr
      · exact Or.inl hr
      · exact Or.inr (List.mem_singleton.1 hr ▸ rfl)
    cases hlatest : db.latest incidentId with
    | none =>
      rw [hlatest] at hr' hnew
      exact hnew r' hr'
    | some p =>
      obtain ⟨hp, -, hkind⟩ := Db.mem_lane.1 (Db.mem_lane_of_latest hlatest)
      rw [hlatest] at hr' hnew
      obtain ⟨r, hr, rfl⟩ := Table.mem_updateWhere.1 hr'
      by_cases hid : r.runId = p.runId
      · -- The latest diagnosis is updated: its output is frozen.
        right
        rw [if_pos (by simpa using hid)]
        rcases hnew r hr with hold | hdiag
        · rw [hk.runs.eq_of_key hold hp hid]
          exact hkind
        · exact hdiag
      · simpa [hid] using hnew r hr

/-- A round is accepted without a look at the controls. -/
theorem acceptRound_controls {incidentId messageId key : String} {parentRunId : Option String}
    {previous : Json} {row : Run}
    (h : acceptRound env tx incidentId messageId key parentRunId previous db = .ok (row, db')) :
    db'.controls = db.controls := by
  rcases acceptRound_eq_ok h with ⟨-, -, rfl⟩ | ⟨_, _, _, -, -, -, -, -, -, -, hinsert⟩
  · rfl
  · obtain ⟨-, -, rfl⟩ := insertRound_eq_ok hinsert
    cases db.latest incidentId <;> rfl

theorem Appends.edits {incidentId : String} (h : Appends tx incidentId db db') :
    Db.Edits env tx quiet db db' := by
  rcases h with rfl | ⟨draft, hc, rfl⟩
  · exact .refl
  · exact .single (.message hc)

/-- The runs of the store are those it had before a message was appended. -/
theorem Appends.runs {incidentId : String} (h : Appends tx incidentId db db') :
    db'.runs = db.runs := by
  rcases h with rfl | ⟨_, -, rfl⟩ <;> rfl

/-- An interaction is historical if its intent is. -/
theorem Run.interaction_historical (incidentId : String) (parentId : Option String)
    (body : CreateInteraction) (context : Json) :
    (Run.interaction env tx incidentId parentId body context).historical =
      body.intent.historical := by
  cases body with
  | mk _ _ intent _ _ => cases intent <;> rfl

/-- Where the latest diagnosis has ended, no diagnosis is active. -/
theorem Db.History.not_activeDiagnosis (h : db.History env) {incidentId : String}
    (hended : ∀ r ∈ db.latest incidentId, r.active = false) :
    ¬ db.activeDiagnosis incidentId := by
  rintro ⟨r, hr, rfl, hkind, hactive⟩
  rw [hended r (h.latest_of_active hr hkind hactive)] at hactive
  cases hactive

/-- The scopes of interactions and of rounds are different. -/
theorem interactionScope_ne (i j : String) : interactionScope i ≠ roundScope j := by
  intro h
  have := congrArg String.toList h
  simp [interactionScope, roundScope, String.toList_append] at this

theorem acceptInteraction_edits (hs : db.History env) {incidentId : String}
    {body : CreateInteraction} {parentId : Option String} {references : List Json} {row : Run}
    (h : acceptInteraction env tx incidentId body parentId references db = .ok (row, db')) :
    Db.Edits env tx quiet db db' := by
  rcases acceptInteraction_eq_ok h with rfl | ⟨db₁, context, happ, -, hlane, rfl, hinsert⟩
  · exact .refl
  · obtain ⟨hkey, hc, rfl⟩ := Db.insertRun_eq_ok hinsert
    refine happ.edits.tail (.run (.interaction rfl rfl rfl rfl rfl (fun i k he => ?_)
      (fun hhist => ?_) ⟨hkey, hc⟩) ⟨hkey, hc⟩)
    · exact interactionScope_ne incidentId i (Prod.mk.inj (Option.some.inj he)).1
    · rw [Run.interaction_historical] at hhist
      have hfree := hs.not_activeDiagnosis (hlane hhist)
      unfold Db.activeDiagnosis at hfree ⊢
      rwa [happ.runs]

/-- An interaction that is published gives up its lane. -/
theorem release_edits (hk : db.Keys) {row : Run} (hrow : fence tx lease db = .ok row)
    (hlane : ∀ r ∈ db.runs, r.runId = lease.row.runId → r.runKind = .interaction) :
    Db.Edits env tx quiet db (db.updateRun lease.row.runId (Run.released tx.now)) := by
  obtain ⟨hmem, hid, -, -, -, hstatus, -⟩ := fence_eq_ok hrow
  exact .owned hk hrow (.of_parked (by simp [hstatus, RunStatus.terminal]) rfl rfl id id
    (fun _ h => h) (by simp [Run.released]) (fun hw => by cases hw) (fun _ h => h)
    fun hopen => by cases hopen) fun _ hkind => by simp [hlane row hmem hid] at hkind

theorem complete_edits (hs : db.History env)
    (hlane : ∀ r ∈ db.runs, r.runId = lease.row.runId → r.runKind = .interaction)
    (hprior : ∀ p ∈ lease.row.parentRunId, ∀ r ∈ db.runs, r.runId = p → r.createdAt < tx.start)
    {output : Json} {assistant : Option String} {investigate : Bool}
    (h : complete env tx lease output assistant investigate db = .ok db') :
    Db.Edits env tx quiet db db' := by
  obtain ⟨row, db₁, db₂, output', hrow, hround, happ, rfl⟩ := complete_eq_ok h
  obtain ⟨hmem, hid, -, -, -, hstatus, -⟩ := fence_eq_ok hrow
  have hk := hs.keys
  have hrelease : Db.Edits env tx quiet db (db.updateRun lease.row.runId (Run.released tx.now)) :=
    release_edits hk hrow hlane
  have hk₁ := hrelease.keys hk
  have hopen : Db.Edits env tx quiet (db.updateRun lease.row.runId (Run.released tx.now)) db₁ := by
    rcases openRound_eq_ok hround with ⟨-, -, rfl⟩ | ⟨-, messageId, previous, child, -, hr, -⟩
    · exact .refl
    · refine acceptRound_edits hk₁ (fun p hp s hs hid => ?_) hr
      obtain ⟨r, hr, rfl⟩ := Table.mem_updateWhere.1 hs
      by_cases hsel : r.runId = lease.row.runId
      · simp only [hsel, decide_true, if_true] at hid ⊢
        exact hprior p hp r hr hid
      · simp only [hsel, decide_false, Bool.false_eq_true, if_false] at hid ⊢
        exact hprior p hp r hr hid
  have hend : ∀ r ∈ (db.updateRun lease.row.runId (Run.released tx.now)).runs,
      r.runId = lease.row.runId → r.status.terminal = true ∧ r.outputSnapshot = none := by
    intro r hr hrid
    obtain ⟨a, ha, rfl⟩ := Table.mem_updateWhere.1 hr
    by_cases hsel : a.runId = lease.row.runId
    · obtain rfl := hk.eq_of_fence hrow a ha hsel
      rw [if_pos (by simpa using hsel)]
      exact ⟨rfl, hs.unpublished a ha (by simp [Run.active, hstatus, RunStatus.terminal])⟩
    · simp [hsel] at hrid
  -- The round that is opened leaves the interaction alone.
  have hend₁ : ∀ r ∈ db₁.runs, r.runId = lease.row.runId →
      r.status.terminal = true ∧ r.outputSnapshot = none := by
    intro r hr hrid
    rcases openRound_eq_ok hround with ⟨-, -, rfl⟩ | ⟨-, _, _, child, -, hopened, -⟩
    · exact hend r hr hrid
    · rcases acceptRound_runs hk₁ hopened r hr with hold | hdiag
      · exact hend r hold hrid
      · exfalso
        obtain ⟨q, hq, hadv⟩ := Db.Edits.run_of_mem hopen
          (Table.mem_updateWhere_of_pos (f := Run.released tx.now) hmem (by simpa using hid))
        obtain rfl := (Db.Edits.keys hopen hk₁).runs.eq_of_key hr hq (hrid.trans (hid.symm.trans hadv.runId.symm))
        have hkind := hadv.runKind.trans (hlane row hmem hid)
        rw [hdiag] at hkind
        cases hkind
  refine ((hrelease.trans hopen).trans happ.edits).trans (Db.output_edits fun r hr hrid => ?_)
  obtain ⟨hended, hnone⟩ := hend₁ r (happ.runs ▸ hr) hrid
  exact ⟨hended, by simp [hnone]⟩

/-- What a control does to an active diagnosis advances it. -/
theorem stopDiagnosis_edits (hk : db.Keys) {incidentId : String} {latest : Run}
    (hlatest : latest ∈ db.runs) {dispatched : Bool} {snapshot : Json} :
    Db.Edits env tx false db (stopDiagnosis tx incidentId latest dispatched snapshot db) := by
  unfold stopDiagnosis
  split
  · rename_i hactive
    have hstop : Db.Edits env tx false db (db.updateRun latest.runId (Run.stopped tx.now)) :=
      .single (.runs (fun r _ _ => ⟨rfl, le_refl _, fun _ => rfl, fun _ => rfl, fun _ => rfl,
        fun _ h => h, fun _ h => ⟨h, rfl, Or.inl rfl⟩, fun _ => Or.inl rfl, fun _ h => h,
        fun _ => rfl⟩) (by simp))
    split
    · exact hstop
    · refine Relation.ReflTransGen.trans
        (b := rejectPrepared latest.runId (db.updateRun latest.runId (Run.stopped tx.now))) ?_ ?_
      · refine hstop.tail (.operations rfl fun o _ hsel => ?_)
        have hs : o.state = .prepared := by
          simp only [decide_eq_true_eq] at hsel
          exact hsel.2
        exact ⟨rfl, by simp [hs, OperationState.leads], fun _ h => h, fun _ h => h⟩
      · refine Relation.ReflTransGen.trans (.single (.runs (fun r hr hsel => ?_) (by simp)))
          (Db.phase_edits _ _ _)
        have hr' : r = latest.stopped tx.now := by
          have hk' := hstop.keys hk
          refine hk'.runs.eq_of_key hr ?_ (by simpa [Run.stopped] using hsel)
          exact Table.mem_updateWhere_of_pos hlatest (by simp)
        subst hr'
        exact .of_parked (by simpa [Run.active, Run.stopped] using hactive) rfl rfl id id
          (fun _ h => h) (by simp [Run.superseded]) (fun hw => by cases hw)
          (fun o ho => by rw [Option.mem_def] at ho; simp [Run.superseded, ho])
          fun hopen => by cases hopen
  · exact .refl

theorem dropInteractions_edits {incidentId : String} :
    Db.Edits env tx quiet db (dropInteractions tx incidentId db) := by
  refine .single (.runs (fun r _ hsel => ?_) fun _ r _ hsel hkind => ?_)
  · simp only [decide_eq_true_eq] at hsel
    exact .of_parked (by simpa [Run.active] using hsel.2.2) rfl rfl (fun _ => rfl) (fun _ => rfl)
      (fun _ h => h) (by simp [Run.dropped]) (fun hw => by cases hw) (fun _ h => h)
      fun hopen => by cases hopen
  · simp [hkind] at hsel

theorem supersedePending_edits {incidentId : String} :
    Db.Edits env tx quiet db (supersedePending incidentId db) := by
  refine .single (.controls (fun c _ hsel => ?_) (by simp))
  simp only [decide_eq_true_eq] at hsel
  exact ⟨rfl, fun h => absurd hsel.2 h, by simp⟩

theorem arbitrate_edits (hk : db.Keys) {incidentId : String} {latest : Run}
    (hlatest : latest ∈ db.runs) {dispatched : Bool} {action : ControlAction} {snapshot : Json} :
    Db.Edits env tx false db
      (arbitrate tx incidentId latest dispatched action snapshot db) := by
  have hrevision : Db.Edits env tx false db
      (db.updateIncident incidentId fun i => { i with eventRevision := i.eventRevision + 1 }) :=
    .single (.incidents (fun _ => ⟨rfl, Nat.le_succ _⟩) (by simp))
  have hstop : Db.Edits env tx false db (dropInteractions tx incidentId
      (stopDiagnosis tx incidentId latest dispatched snapshot (db.updateIncident incidentId
        fun i => { i with eventRevision := i.eventRevision + 1 }))) :=
    (hrevision.trans (stopDiagnosis_edits (hrevision.keys hk) hlatest)).trans dropInteractions_edits
  unfold arbitrate
  split
  · exact hstop.trans supersedePending_edits
  · exact hstop

/-- An arbitration changes no column that is fixed. -/
theorem arbitrate_fixed {incidentId : String} {latest : Run} {dispatched : Bool}
    {action : ControlAction} {snapshot : Json} :
    (arbitrate tx incidentId latest dispatched action snapshot db).runs.map Run.fixed =
      db.runs.map Run.fixed := by
  have hstop : (stopDiagnosis tx incidentId latest dispatched snapshot
      (db.updateIncident incidentId fun i =>
        { i with eventRevision := i.eventRevision + 1 })).runs.map Run.fixed =
      db.runs.map Run.fixed := by
    have hstopped : (Table.updateWhere (fun r => r.runId = latest.runId) (Run.stopped tx.now)
        db.runs).map Run.fixed = db.runs.map Run.fixed :=
      Table.map_updateWhere fun _ _ _ => rfl
    unfold stopDiagnosis
    split
    · split
      · exact hstopped
      · refine Eq.trans ?_ hstopped
        exact Table.map_updateWhere (f := Run.superseded tx.now snapshot) fun _ _ _ => rfl
    · rfl
  unfold arbitrate
  split <;>
    exact (Table.map_updateWhere (f := Run.dropped tx.now) fun _ _ _ => rfl).trans hstop

/-- An arbitration writes no message. -/
theorem arbitrate_messages {incidentId : String} {latest : Run} {dispatched : Bool}
    {action : ControlAction} {snapshot : Json} :
    (arbitrate tx incidentId latest dispatched action snapshot db).messages = db.messages := by
  unfold arbitrate stopDiagnosis
  split <;> split <;> first | rfl | (split <;> rfl)

/-- After the arbitration of a control to stop or to investigate, no control of its incident
waits. -/
theorem arbitrate_settled {incidentId : String} {latest : Run} {dispatched : Bool}
    {action : ControlAction} {snapshot : Json} (haction : action = .stop ∨ action = .investigate) :
    ∀ c ∈ (arbitrate tx incidentId latest dispatched action snapshot db).controls,
      c.incidentId = incidentId → c.status ≠ .pending := by
  intro c hc hinc
  simp only [arbitrate, haction, if_true, supersedePending] at hc
  obtain ⟨d, -, rfl⟩ := Table.mem_updateWhere.1 hc
  by_cases hsel : d.incidentId = incidentId ∧ d.status = .pending
  · simp [hsel]
  · simp only [hsel, decide_false, Bool.false_eq_true, if_false] at hinc ⊢
    exact fun hpending => hsel ⟨hinc, hpending⟩

/-- A run found among rows with the same fixed columns. -/
theorem exists_of_fixed {t t' : List Run} (h : t'.map Run.fixed = t.map Run.fixed) {r : Run}
    (hr : r ∈ t) : ∃ r' ∈ t', r'.fixed = r.fixed := by
  have hmem : r.fixed ∈ t'.map Run.fixed := h ▸ List.mem_map_of_mem hr
  exact List.mem_map.1 hmem

theorem control_edits (hk : db.Keys) {incidentId : String} {body : ControlRequest}
    {expectedParent : Option String} {snapshot : Json} {view : ControlView}
    (hnew : ∀ r ∈ db.runs, ∀ i, r.idempotency ≠ some (roundScope i, "control-" ++ tx.controlId))
    (h : control env tx incidentId body expectedParent snapshot db = .ok (view, db')) :
    Db.Edits env tx false db db' := by
  rcases control_eq_ok h with ⟨_, -, -, -, rfl⟩ |
    ⟨latest, message, db₁, row, -, hlatest, hmessage, hseq, rfl, -, hinsert⟩
  · exact .refl
  · obtain ⟨hc, rfl⟩ := Db.insertControl_eq_ok hinsert
    obtain ⟨happ, hsaved, hinc, hrole⟩ := messageInTransaction_eq_ok hmessage
    obtain ⟨hmem, hlinc, hlkind⟩ := Db.mem_lane.1 (Db.mem_lane_of_latest hlatest)
    have hfixed : (arbitrate tx incidentId latest (writeDispatched (db₁.operation? latest.runId))
        body.action snapshot db₁).runs.map Run.fixed = db.runs.map Run.fixed := by
      rw [arbitrate_fixed, happ.runs]
    have hsave : Db.Edits env tx false db db₁ := happ.edits
    refine (hsave.trans (arbitrate_edits (hsave.keys hk) (happ.runs ▸ hmem))).tail
      (.control ⟨hc, rfl, fun r hr he => ?_, ?_, fun hpending => ?_, fun hpending => ?_⟩)
    · obtain ⟨r₀, hr₀, he₀⟩ := exists_of_fixed hfixed.symm hr
      refine hnew r₀ hr₀ incidentId ?_
      rw [column_eq he₀ Run.idempotency fun _ => rfl]
      exact he
    · by_cases haction : body.action = .investigate <;> simp [Control.initial, haction]
    · have haction : body.action = .investigate := by
        by_contra hne
        simp [Control.initial, hne] at hpending
      exact arbitrate_settled (Or.inr haction)
    · obtain ⟨p, hp, hpf⟩ := exists_of_fixed hfixed hmem
      refine ⟨⟨_, _, rfl⟩, p, hp, column_eq hpf Run.runId fun _ => rfl, ?_, ?_, message, ?_, hinc,
        hrole, ?_⟩
      · exact (column_eq hpf Run.incidentId fun _ => rfl).trans hlinc
      · exact (column_eq hpf Run.runKind fun _ => rfl).trans hlkind
      · rw [arbitrate_messages]
        exact hsaved
      · rw [column_eq hpf Run.inputMessageSequence fun _ => rfl]
        exact hseq

/-- The round that `accept_round` returns is in the store. -/
theorem acceptRound_mem {incidentId messageId key : String} {parentRunId : Option String}
    {previous : Json} {row : Run}
    (h : acceptRound env tx incidentId messageId key parentRunId previous db = .ok (row, db')) :
    row ∈ db'.runs := by
  rcases acceptRound_eq_ok h with ⟨hrow, -, rfl⟩ | ⟨_, _, _, -, -, -, -, -, -, hrow, hinsert⟩
  · exact List.mem_of_find?_eq_some hrow
  · obtain ⟨-, hc, rfl⟩ := insertRound_eq_ok hinsert
    cases hlatest : db.latest incidentId with
    | none => simp [Db.updateIncident]
    | some p =>
      have hne : row.runId ≠ p.runId :=
        (hc.1 p (Db.mem_lane.1 (Db.mem_lane_of_latest hlatest)).1).1.symm
      exact Table.mem_updateWhere_of_not (by simp) (by simpa using hne)

theorem activateControl_edits (hs : db.History env) (hst : db.Standing) {controlId : String}
    (hprior : ∀ c ∈ db.control? controlId, ∀ r ∈ db.runs, r.runId = c.parentRunId →
      r.createdAt < tx.start)
    (h : activateControl env tx controlId db = .ok db') : Db.Edits env tx quiet db db' := by
  obtain ⟨c, hc, h⟩ := activateControl_eq_ok h
  obtain ⟨hmem, hid⟩ := Db.mem_of_control? hc
  have hsel : ∀ d ∈ db.controls, d.controlId = controlId → d = c := fun d hd he =>
    hs.keys.controls.eq_of_key hd hmem (he.trans hid.symm)
  rcases h with rfl | ⟨hpending, rfl⟩ |
    ⟨latest, child, db₁, hpending, hlatest, hstart, hchild, rfl⟩
  · exact .refl
  · refine .single (.controls (fun d hd hp => ?_) (by simp))
    rw [hsel d hd (by simpa using hp)]
    exact ⟨rfl, fun h => absurd hpending h, by simp⟩
  · obtain ⟨message, -, hround⟩ := acceptForControl_eq_ok hchild
    have hprior' : ∀ p ∈ some latest.runId, ∀ r ∈ db.runs, r.runId = p → r.createdAt < tx.start := by
      intro p hp r hr hid
      cases hp
      exact hprior c hc r hr (hid.trans hstart.1)
    have hcontrols := acceptRound_controls hround
    refine (acceptRound_edits hs.keys hprior' hround).tail (.controls (fun d hd hp => ?_) fun d hd hp _ => ?_)
    · rw [hcontrols] at hd
      rw [hsel d hd (by simpa using hp)]
      exact ⟨rfl, fun h => absurd hpending h, by simp⟩
    · rw [hcontrols] at hd
      rw [hsel d hd (by simpa using hp)]
      obtain ⟨⟨action, deferred, hresult⟩, -⟩ := hst.stands c hmem hpending
      rcases acceptRound_eq_ok hround with ⟨hreplay, -, -⟩ |
        ⟨incident, _, _, hi, -, -, -, -, -, hrow, -⟩
      · -- No round has the key of the control, so this was not a replay.
        have hkey := List.find?_some hreplay
        simp only [decide_eq_true_eq] at hkey
        exact absurd hkey (hst.unnamed hs hmem hpending hlatest hstart.1 child
          (List.mem_of_find?_eq_some hreplay))
      · refine ⟨child, acceptRound_mem hround, ?_, ?_, action, ?_⟩
        · rw [hrow, ← (Db.mem_of_incident? hi).2]
          rfl
        · rw [hrow, hlatest]
          exact congrArg some hstart.1
        · simp [Receipt.started, hresult]

theorem answer_edits (hk : db.Keys) {incidentId runId : String} {body : AnswerQuestion}
    {view : ControlView}
    (hnew : ∀ r ∈ db.runs, ∀ i, r.idempotency ≠ some (roundScope i, "control-" ++ tx.controlId))
    (h : answer env tx incidentId runId body db = .ok (view, db')) :
    Db.Edits env tx false db db' := by
  rcases answer_eq_ok h with ⟨_, -, -, rfl⟩ |
    ⟨incident, row, question, message, db₁, -, -, hmem, -, hid, hstatus, -, -, hmessage, hinsert⟩
  · exact .refl
  · obtain ⟨hc, rfl⟩ := Db.insertControl_eq_ok hinsert
    have happ := (messageInTransaction_eq_ok hmessage).1
    have hsave : Db.Edits env tx false db db₁ := happ.edits
    have hk₁ : db₁.Keys := hsave.keys hk
    refine (hsave.trans ?_).tail
      (.control ⟨hc, rfl, fun r hr he => ?_, by simp [Control.receipt],
        by simp [Control.receipt], by simp [Control.receipt]⟩)
    · refine (Relation.ReflTransGen.single
        (.incidents (fun _ => ⟨rfl, Nat.le_succ _⟩) (by simp))).tail
          (.runs (fun r hr hp => ?_) (by simp))
      have hr' : r = row := hk₁.runs.eq_of_key hr (happ.runs ▸ hmem) (by simpa [hid] using hp)
      subst hr'
      exact .of_parked (by simp [hstatus, RunStatus.terminal]) rfl rfl id id (fun _ h => h)
        (by simp [Run.answered]) (fun hw => by cases hw) (fun _ h => h) fun _ => rfl
    · obtain ⟨r₀, hr₀, rfl⟩ := Table.mem_updateWhere.1 hr
      refine hnew r₀ (happ.runs ▸ hr₀) incidentId (Eq.trans ?_ he)
      split <;> rfl

theorem activateDue_edits (hrechecks : db.Rechecks)
    (hlane : ∀ d ∈ db.delayed, ∀ id ∈ d.runId, ∀ r ∈ db.runs, r.runId = id →
      r.runKind = .interaction)
    {delayedId : String} (h : activateDue env tx delayedId db = .ok db') :
    Db.Edits env tx quiet db db' := by
  rcases activateDue_eq_ok hrechecks h with h | ⟨d, hd, -, runId, hid, db₁, hside, rfl⟩ |
    ⟨row, incident, db₁, hrow, hrowid, hpending, -, -, -, hbusy, -, hinsert, rfl⟩
  · exact .single (.side h)
  · have hruns : db₁.runs = db.runs := by
      obtain ⟨⟨_, _, _, _, rfl⟩, -⟩ := hside
      rfl
    refine (Relation.ReflTransGen.single (.side hside)).tail
      (.runs (fun r _ hp => ?_) fun _ r hr hp hkind => ?_)
    · simp only [decide_eq_true_eq] at hp
      exact .of_parked (by simpa [Run.active] using hp.2) rfl rfl id id (fun _ h => h)
        (by simp [Run.abandoned]) (fun hw => by cases hw) (fun _ h => h)
        fun hopen => by cases hopen
    · simp only [decide_eq_true_eq] at hp
      simp [hlane d hd runId hid r (hruns ▸ hr) hp.1] at hkind
  · obtain ⟨hkey, hc, rfl⟩ := Db.insertRun_eq_ok hinsert
    have hfree : ¬ db.activeDiagnosis row.incidentId := by
      rintro ⟨r, hr, hinc, -, hactive⟩
      exact hbusy ⟨r, hr, hinc, hactive⟩
    have hopens : Db.Opens env tx db (Run.delayedRecheck env tx row incident) :=
      .interaction rfl rfl rfl rfl rfl (fun i k he => by cases he) (fun _ => hfree) ⟨hkey, hc⟩
    have hsame : ∀ d ∈ db.delayed, d.delayedId = delayedId → d = row := fun d hd hid =>
      hrechecks.keyed.eq_of_key hd hrow (hid.trans hrowid.symm)
    refine (Relation.ReflTransGen.single (.run hopens ⟨hkey, hc⟩)).tail
      (.bind (fun _ => ⟨rfl, rfl, rfl⟩) (fun d hd hid => ?_)
        ⟨_, List.mem_append_right _ (List.mem_singleton_self _), rfl, rfl, fun d hd hid => ?_⟩)
    · rw [hsame d hd hid]
      exact ⟨hpending, hrechecks.unstarted row hrow hpending⟩
    · rw [hsame d hd hid]
      rfl

end Transactions

end IncidentAgent
