import IncidentAgent.System.Invariant

/-!
# One line of diagnoses

Three requests open a round: the explicit one of a client, the publication of an
interaction that investigates, and the start of a pending control. They read the parent at
different moments, before they hold the lock of the incident. `transact_creates` says which
run a transaction inserts, on whose account, and what it found: the parent of a round is
the diagnosis that is the latest *when the round is inserted*, and that one has ended.

From this and the invariant of the store follows the history of an incident
(`Sys.Reachable.one_line`).
-/

namespace IncidentAgent

/-! ### Who opens which run -/

/-- **A round for a message under a key**, as it was inserted: after the latest diagnosis,
which had ended, while no write of the incident was unresolved. -/
structure Run.RoundOf (env : Env) (tx : Tx) (db : Db) (incidentId messageId key : String)
    (r : Run) : Prop where
  incident : r.incidentId = incidentId
  kind : r.runKind = .diagnosis
  idempotency : r.idempotency = some (roundScope incidentId, key)
  requested : r.Requested env messageId
  created : r.createdAt = tx.start
  parent : r.parentRunId = (db.latest incidentId).map (·.runId)
  ended : ∀ p ∈ db.latest incidentId, p.status.terminal = true
  resolved : ¬ db.unresolvedOperation incidentId

/-- **The run that a request inserts**, and on whose account. -/
inductive Request.Creates (env : Env) (tx : Tx) (db : Db) : Request → Run → Prop
  | first {incidentId runId threadId : String} {payload : IncidentRequest} {key : Option String}
      {dialogue : Bool}
      (h : db.IncidentConstraints (Incident.initial incidentId threadId payload)) :
      Request.Creates env tx db (.accept incidentId runId threadId payload key dialogue)
        (Run.first env tx incidentId runId threadId payload key dialogue)
  | round {incidentId messageId key : String} {parentRunId : Option String} {previous : Json}
      {r : Run} (h : r.RoundOf env tx db incidentId messageId key) :
      Request.Creates env tx db (.acceptRound incidentId messageId key parentRunId previous) r
  /-- An interaction that is published as an investigation. -/
  | investigation {lease : Lease} {output : Json} {assistant : Option String} {messageId : String}
      {r : Run}
      (h : r.RoundOf env tx db lease.row.incidentId messageId ("interaction-" ++ lease.row.runId)) :
      Request.Creates env tx db (.complete lease output assistant true) r
  /-- A pending control that is started. -/
  | started {controlId messageId : String} {c : Control} {r : Run}
      (hc : db.control? controlId = some c) (hpending : c.status = .pending)
      (hparent : (db.latest c.incidentId).map (·.runId) = some c.parentRunId)
      (h : r.RoundOf env tx db c.incidentId messageId ("control-" ++ c.controlId)) :
      Request.Creates env tx db (.activateControl controlId) r
  | interaction {request : Request} {r : Run} (h : r.runKind = .interaction) :
      Request.Creates env tx db request r

section Creates

variable {env : Env} {tx : Tx} {db db' : Db}

theorem Db.updateRun_fixed (db : Db) (id : String) {f : Run → Run}
    (hf : ∀ r, (f r).fixed = r.fixed) :
    (db.updateRun id f).runs.map Run.fixed = db.runs.map Run.fixed :=
  Table.map_updateWhere fun r _ _ => hf r

theorem insertRun_fixed {r : Run} (h : db.insertRun r = .ok db') :
    db'.runs.map Run.fixed = db.runs.map Run.fixed ++ [r.fixed] := by
  obtain ⟨-, -, rfl⟩ := Db.insertRun_eq_ok h
  simp

/-- A side effect of an observation touches no run. -/
theorem SideOnly.runs (h : SideOnly db db') : db'.runs = db.runs := by
  obtain ⟨⟨_, _, _, _, rfl⟩, -⟩ := h
  rfl

/-- An accepted round is one that was recorded, or a new one. -/
theorem acceptRound_creates {incidentId messageId key : String} {parentRunId : Option String}
    {previous : Json} {row : Run}
    (h : acceptRound env tx incidentId messageId key parentRunId previous db = .ok (row, db')) :
    db' = db ∨ ((db.latest incidentId).map (·.runId) = parentRunId ∧
      row.RoundOf env tx db incidentId messageId key ∧
      db'.runs.map Run.fixed = db.runs.map Run.fixed ++ [row.fixed]) := by
  rcases acceptRound_eq_ok h with ⟨-, -, rfl⟩ |
    ⟨incident, message, context, hi, -, hparent, havail, hm, -, hrow, hinsert⟩
  · exact Or.inl rfl
  · obtain ⟨-, -, rfl⟩ := insertRound_eq_ok hinsert
    obtain ⟨-, hop, hended⟩ := roundAvailable_eq_ok havail
    have hinc := (Db.mem_of_incident? hi).2
    have hmsg := List.find?_some hm
    simp only [decide_eq_true_eq] at hmsg
    refine Or.inr ⟨hparent, ⟨?_, ?_, ?_, ⟨?_, ?_⟩, ?_, ?_, fun p hp => ?_, hop⟩, ?_⟩
    · rw [hrow]
      exact hinc
    · rw [hrow]
      rfl
    · rw [hrow, ← hinc]
      rfl
    · rw [hrow, ← hmsg.2.1]
      rfl
    · rw [hrow]
      rfl
    · rw [hrow]
      rfl
    · rw [hrow]
      rfl
    · simpa [Run.active] using hended p hp
    · cases db.latest incidentId with
      | none => simp [Db.updateIncident]
      | some p =>
        refine Eq.trans (Db.updateRun_fixed _ p.runId ?_) ?_
        · exact fun _ => rfl
        · simp

/-- The end of an interaction leaves the latest diagnosis as it was. -/
theorem Db.latest_updateRun {id : String} {f : Run → Run}
    (hf : ∀ r, (f r).incidentId = r.incidentId ∧ (f r).runKind = r.runKind)
    (hid : ∀ r ∈ db.runs, r.runId = id → r.runKind = .interaction) (incidentId : String) :
    (db.updateRun id f).latest incidentId = db.latest incidentId := by
  have hfilter : (db.updateRun id f).runs.filter (Run.diagnosisOf incidentId) =
      db.runs.filter (Run.diagnosisOf incidentId) := by
    rw [Db.updateRun, Table.filter_updateWhere (fun r _ => by simp [Run.diagnosisOf, hf r])]
    refine Table.updateWhere_of_none fun r hr => ?_
    obtain ⟨hmem, hdiag⟩ := List.mem_filter.1 hr
    have hkind := (Run.diagnosisOf_iff.1 hdiag).2
    simp only [decide_eq_false_iff_not]
    intro he
    simp [hid r hmem he] at hkind
  unfold Db.latest Table.latestBy
  rw [hfilter]

/-- The requests that may insert a run. -/
def Request.inserts : Request → Bool
  | .accept _ _ _ _ _ _ | .acceptRound _ _ _ _ _ | .acceptInteraction _ _ _ _
  | .complete _ _ _ _ | .activateControl _ | .activateDue _ => true
  | _ => false

/-- The other requests insert no run. -/
theorem transact_fixed {skipped : List String} {request : Request} {response : Response}
    (hrechecks : db.Rechecks) (hinserts : request.inserts = false)
    (h : transact env tx skipped request db = .ok (response, db')) :
    db'.runs.map Run.fixed = db.runs.map Run.fixed := by
  cases request <;> simp only [Request.inserts, Bool.true_eq_false] at hinserts <;>
    simp only [transact, map_eq_ok, Prod.mk.injEq, Except.ok.injEq] at h
  case createIncident =>
    obtain ⟨db₁, h, -, rfl⟩ := h
    obtain ⟨_, -, -, -, rfl⟩ := createIncident_eq_ok h
    rfl
  case updatePhase =>
    obtain ⟨-, rfl⟩ := h
    rfl
  case claim owner seconds maxAttempts =>
    obtain ⟨-, rfl⟩ := h
    rcases claim_cases (Prod.mk.eta (p := claim tx owner seconds maxAttempts skipped db)).symm with
      ⟨-, hdb⟩ | ⟨row, -, _, -, -, -, hdb⟩
    · rw [hdb]
    · rw [hdb]
      exact Db.updateRun_fixed _ _ fun _ => rfl
  case assertOwned =>
    obtain ⟨_, -, -, rfl⟩ := h
    rfl
  case heartbeat =>
    obtain ⟨db₁, h, -, rfl⟩ := h
    obtain ⟨-, rfl⟩ := heartbeat_eq_ok h
    exact Db.updateRun_fixed _ _ fun _ => rfl
  case markCheckpointStarted =>
    obtain ⟨db₁, h, -, rfl⟩ := h
    obtain ⟨-, rfl⟩ := markCheckpointStarted_eq_ok h
    exact Db.updateRun_fixed _ _ fun _ => rfl
  case finish =>
    obtain ⟨⟨status, db₁⟩, h, -, rfl⟩ := h
    obtain ⟨_, phase, _, -, -, -, -, -, rfl⟩ := finish_eq_ok h
    cases phase <;> exact Db.updateRun_fixed _ _ fun _ => rfl
  case queueApproval =>
    obtain ⟨db₁, h, -, rfl⟩ := h
    obtain ⟨_, -, -, ⟨-, rfl⟩ | ⟨-, -, -, rfl⟩⟩ := queueApproval_eq_ok h
    · rfl
    · exact Db.updateRun_fixed _ _ fun _ => rfl
  case prepare =>
    obtain ⟨⟨o, db₁⟩, h, -, rfl⟩ := h
    obtain ⟨-, -, -, ⟨-, rfl, -⟩ | ⟨-, -, -, rfl⟩⟩ := prepare_eq_ok h <;> rfl
  case dispatch =>
    obtain ⟨db₁, h, -, rfl⟩ := h
    obtain ⟨-, -, -, rfl⟩ := dispatch_eq_ok h
    rfl
  case record =>
    obtain ⟨db₁, h, -, rfl⟩ := h
    obtain ⟨-, -, rfl⟩ := record_eq_ok h
    rfl
  case saveProgress =>
    obtain ⟨db₁, h, -, rfl⟩ := h
    obtain ⟨-, rfl⟩ := saveProgress_eq_ok h
    exact Db.updateRun_fixed _ _ fun _ => rfl
  case saveRecheck =>
    obtain ⟨db₁, h, -, rfl⟩ := h
    obtain ⟨-, _, rfl⟩ := saveRecheck_eq_ok h
    rfl
  case control =>
    obtain ⟨⟨view, db₁⟩, h, -, rfl⟩ := h
    rcases control_eq_ok h with ⟨_, -, -, -, rfl⟩ |
      ⟨latest, message, db₂, row, -, -, hmessage, -, -, -, hinsert⟩
    · rfl
    · obtain ⟨-, rfl⟩ := Db.insertControl_eq_ok hinsert
      exact arbitrate_fixed.trans (by rw [(messageInTransaction_eq_ok hmessage).1.runs])
  case answer =>
    obtain ⟨⟨view, db₁⟩, h, -, rfl⟩ := h
    rcases answer_eq_ok h with ⟨_, -, -, rfl⟩ |
      ⟨incident, row, question, message, db₂, -, -, -, -, -, -, -, -, hmessage, hinsert⟩
    · rfl
    · obtain ⟨-, rfl⟩ := Db.insertControl_eq_ok hinsert
      rw [← (messageInTransaction_eq_ok hmessage).1.runs]
      exact Table.map_updateWhere (f := Run.answered _ _) fun _ _ _ => rfl
  case appendMessage =>
    obtain ⟨⟨m, db₁⟩, h, -, rfl⟩ := h
    rw [(appendMessage_eq_ok h).runs]
  case inspectDelayed =>
    obtain ⟨⟨row, db₁⟩, h, -, rfl⟩ := h
    rw [(inspectDelayed_eq_ok hrechecks h).2.runs]
  case exhaustDelayed =>
    obtain ⟨db₁, h, -, rfl⟩ := h
    rw [(exhaustDelayed_eq_ok hrechecks h).2.runs]
  case publishDelayed =>
    obtain ⟨db₁, h, -, rfl⟩ := h
    rw [(publishDelayed_eq_ok hrechecks h).2.runs]
  case openWindow =>
    obtain ⟨⟨payload, db₁⟩, h, -, rfl⟩ := h
    rw [(openWindow_eq_ok h).2.runs]
  case saveWindow =>
    obtain ⟨db₁, h, -, rfl⟩ := h
    rw [(saveWindow_eq_ok h).2.runs]
  case editBudget =>
    obtain ⟨db₁, h, -, rfl⟩ := h
    rw [(editBudget_eq_ok h).2.runs]

/-- **A transaction inserts at most one run**, the one that its request creates. -/
theorem transact_creates {skipped : List String} {request : Request} {response : Response}
    (hrechecks : db.Rechecks) (hready : request.Ready tx db)
    (h : transact env tx skipped request db = .ok (response, db')) :
    db'.runs.map Run.fixed = db.runs.map Run.fixed ∨
      ∃ r, request.Creates env tx db r ∧
        db'.runs.map Run.fixed = db.runs.map Run.fixed ++ [r.fixed] := by
  cases hinserts : request.inserts with
  | false => exact Or.inl (transact_fixed hrechecks hinserts h)
  | true =>
    cases request <;> simp only [Request.inserts, Bool.false_eq_true] at hinserts <;>
      simp only [transact, map_eq_ok, Prod.mk.injEq] at h
    case accept =>
      obtain ⟨⟨row, db₁⟩, h, -, rfl⟩ := h
      obtain ⟨hi, rfl, hinsert⟩ := accept_eq_ok h
      have hruns := insertRun_fixed hinsert
      exact Or.inr ⟨_, .first hi, hruns⟩
    case acceptRound =>
      obtain ⟨⟨row, db₁⟩, h, -, rfl⟩ := h
      rcases acceptRound_creates h with rfl | ⟨-, hround, hruns⟩
      · exact Or.inl rfl
      · exact Or.inr ⟨row, .round hround, hruns⟩
    case acceptInteraction =>
      obtain ⟨⟨row, db₁⟩, h, -, rfl⟩ := h
      rcases acceptInteraction_eq_ok h with rfl | ⟨db₂, context, happ, -, -, rfl, hinsert⟩
      · exact Or.inl rfl
      · exact Or.inr ⟨_, .interaction rfl, by rw [insertRun_fixed hinsert, happ.runs]⟩
    case complete lease output assistant investigate =>
      obtain ⟨db₁, h, -, rfl⟩ := h
      obtain ⟨row, db₂, db₃, output', hrow, hround, happ, rfl⟩ := complete_eq_ok h
      have hreleased : (db.updateRun lease.row.runId (Run.released tx.now)).runs.map Run.fixed =
          db.runs.map Run.fixed := Db.updateRun_fixed _ _ fun _ => rfl
      have houtput : (db₃.updateRun lease.row.runId fun r =>
          { r with outputSnapshot := some output' }).runs.map Run.fixed =
          db₂.runs.map Run.fixed := by
        rw [← happ.runs]
        exact Db.updateRun_fixed _ _ fun _ => rfl
      rw [houtput]
      rcases openRound_eq_ok hround with ⟨-, -, rfl⟩ | ⟨rfl, messageId, previous, child, -, hr, -⟩
      · exact Or.inl hreleased
      · rcases acceptRound_creates hr with rfl | ⟨-, hround, hruns⟩
        · exact Or.inl hreleased
        · -- The lane of diagnoses does not see the end of an interaction.
          have hlatest : (db.updateRun lease.row.runId (Run.released tx.now)).latest
              lease.row.incidentId = db.latest lease.row.incidentId :=
            Db.latest_updateRun (f := Run.released tx.now) (fun _ => ⟨rfl, rfl⟩) (fun r hr hid =>
              (column_eq (hready.leased lease rfl r hr hid) Run.runKind fun _ => rfl).trans
                hready.proper.1) lease.row.incidentId
          have hchild : child.RoundOf env tx db lease.row.incidentId messageId
              ("interaction-" ++ lease.row.runId) :=
            ⟨hround.incident, hround.kind, hround.idempotency, hround.requested, hround.created,
              hlatest ▸ hround.parent, hlatest ▸ hround.ended, hround.resolved⟩
          exact Or.inr ⟨child, .investigation hchild, by rw [hruns, hreleased]⟩
    case activateControl =>
      obtain ⟨db₁, h, -, rfl⟩ := h
      obtain ⟨c, hc, rfl | ⟨-, rfl⟩ |
        ⟨latest, child, db₂, hpending, hlatest, hstart, hchild, rfl⟩⟩ := activateControl_eq_ok h
      · exact Or.inl rfl
      · exact Or.inl rfl
      · obtain ⟨message, -, hround⟩ := acceptForControl_eq_ok hchild
        rcases acceptRound_creates hround with rfl | ⟨hparent, hround, hruns⟩
        · exact Or.inl rfl
        · exact Or.inr ⟨child, .started hc hpending (by rw [hlatest, ← hstart.1]; rfl) hround,
            hruns⟩
    case activateDue =>
      obtain ⟨db₁, h, -, rfl⟩ := h
      rcases activateDue_eq_ok hrechecks h with hside | ⟨_, -, -, _, -, db₂, hside, rfl⟩ |
        ⟨row, incident, db₂, -, -, -, -, -, -, -, -, hinsert, rfl⟩
      · exact Or.inl (by rw [hside.runs])
      · exact Or.inl ((Table.map_updateWhere (f := Run.abandoned tx.now) fun _ _ _ => rfl).trans
          (by rw [hside.runs]))
      · have hruns := insertRun_fixed hinsert
        exact Or.inr ⟨_, .interaction rfl, hruns⟩

end Creates

/-! ### Asking for a round again -/

section Replay

variable {env : Env} {tx : Tx} {db db' : Db} {incidentId messageId key : String}
  {parentRunId : Option String} {previous : Json} {row : Run}

/-- A round is recorded under the key of its request, with the digest of its message. -/
theorem acceptRound_recorded
    (h : acceptRound env tx incidentId messageId key parentRunId previous db = .ok (row, db')) :
    keyPattern key = true ∧ (∃ incident, db.incident? incidentId = some incident) ∧
      row.idempotency = some (roundScope incidentId, key) ∧
      row.requestSha256 = env.requestDigest (.obj [("message_id", .str messageId)]) := by
  have hguard : keyPattern key = true ∧ ∃ incident, db.incident? incidentId = some incident := by
    simp only [acceptRound, validateKey, bind_eq_ok, rowOr_eq_ok, raiseIf_eq_ok] at h
    obtain ⟨-, hkey, incident, hincident, -⟩ := h
    exact ⟨by simpa using hkey, incident, hincident⟩
  refine ⟨hguard.1, hguard.2, ?_⟩
  rcases acceptRound_eq_ok h with ⟨hrow, hsha, -⟩ |
    ⟨incident, message, context, hi, -, -, -, -, -, rfl, -⟩
  · exact ⟨by simpa using List.find?_some hrow, hsha⟩
  · rw [← (Db.mem_of_incident? hi).2]
    exact ⟨rfl, rfl⟩

/-- **A round that is asked for again** is returned, and nothing is created: whatever the
caller takes for the parent or for the saved state. -/
theorem acceptRound_again (hk : db.Keys) (hkey : keyPattern key = true)
    (hi : ∃ incident, db.incident? incidentId = some incident) (hrow : row ∈ db.runs)
    (hidem : row.idempotency = some (roundScope incidentId, key))
    (hsha : row.requestSha256 = env.requestDigest (.obj [("message_id", .str messageId)])) :
    acceptRound env tx incidentId messageId key parentRunId previous db = .ok (row, db) := by
  obtain ⟨incident, hi⟩ := hi
  have hfind : db.runByKey? (roundScope incidentId) key = some row := by
    cases hfound : db.runByKey? (roundScope incidentId) key with
    | none => simpa [hidem] using List.find?_eq_none.1 hfound row hrow
    | some other =>
      have hother : other.idempotency = some (roundScope incidentId, key) := by
        simpa using List.find?_some hfound
      rw [hk.idempotency other (List.mem_of_find?_eq_some hfound) row hrow _ hother hidem]
  simp [acceptRound, validateKey, raiseIf, hkey, rowOr, hi, hfind, replayRun, hsha, bind,
    Except.bind, pure, Except.pure]

end Replay

/-! ### The history of an incident -/

namespace Sys

variable {σ : Type} {env : Env} {s s' : Sys σ}

/-- A run of a later store that was not there is the one that the committed request
created. -/
theorem Sound.created (h : s.Sound env) {request : Request} {response : Response}
    (hc : s.Commits env request response s') {r : Run} (hr : r ∈ s'.db.runs)
    (hnew : ∀ q ∈ s.db.runs, q.runId ≠ r.runId) :
    ∃ tx c, tx.now = s.now ∧ request.Creates env tx s.db c ∧ r.fixed = c.fixed := by
  obtain ⟨tx, skipped, hnow, hready, -, hok⟩ := h.of_commits hc
  have hmem : r.fixed ∈ s'.db.runs.map Run.fixed := List.mem_map_of_mem hr
  have hold : r.fixed ∉ s.db.runs.map Run.fixed := by
    intro hin
    obtain ⟨q, hq, hfixed⟩ := List.mem_map.1 hin
    exact hnew q hq (column_eq hfixed Run.runId fun _ => rfl)
  rcases transact_creates h.store.history.rechecks hready hok with hsame | ⟨c, hcreates, happend⟩
  · exact absurd (hsame ▸ hmem) hold
  · rw [happend] at hmem
    rcases List.mem_append.1 hmem with hin | hin
    · exact absurd hin hold
    · exact ⟨tx, c, hnow, hcreates, List.mem_singleton.1 hin⟩

/-- **A new diagnosis follows the latest one**, which has ended, while no write of the
incident is unresolved. -/
theorem Sound.created_after_latest (h : s.Sound env) {e : Event σ}
    (hnext : next env s e = some s') {incidentId : String} {r : Run}
    (hr : r ∈ s'.db.lane incidentId) (hnew : ∀ q ∈ s.db.runs, q.runId ≠ r.runId) :
    r.parentRunId = (s.db.latest incidentId).map (·.runId) ∧
      (∀ p ∈ s.db.latest incidentId, p.status.terminal = true) ∧
      ¬ s.db.unresolvedOperation incidentId := by
  obtain ⟨hmem, hinc, hkind⟩ := Db.mem_lane.1 hr
  rcases next_db hnext with hdb | ⟨request, response, hc⟩
  · exact absurd rfl (hnew r (hdb ▸ hmem))
  · obtain ⟨tx, c, -, hcreates, hfixed⟩ := h.created hc hmem hnew
    have hparent : r.parentRunId = c.parentRunId := column_eq hfixed Run.parentRunId fun _ => rfl
    have hcinc : c.incidentId = incidentId :=
      (column_eq hfixed Run.incidentId fun _ => rfl).symm.trans hinc
    have hckind : c.runKind = .diagnosis :=
      (column_eq hfixed Run.runKind fun _ => rfl).symm.trans hkind
    have hround : ∀ {incidentId' messageId key : String},
        c.RoundOf env tx s.db incidentId' messageId key →
        r.parentRunId = (s.db.latest incidentId).map (·.runId) ∧
          (∀ p ∈ s.db.latest incidentId, p.status.terminal = true) ∧
          ¬ s.db.unresolvedOperation incidentId := by
      intro incidentId' messageId key hround
      obtain rfl : incidentId' = incidentId := hround.incident.symm.trans hcinc
      exact ⟨hparent.trans hround.parent, hround.ended, hround.resolved⟩
    cases hcreates with
    | @first id _ _ _ _ _ hi =>
      -- The incident is new: nothing in the store belongs to it.
      have hhome : ∀ i ∈ s.db.incidents, i.incidentId ≠ incidentId := by
        intro i hmem he
        exact (hi i hmem).1 (he.trans hcinc.symm)
      have hlatest : s.db.latest incidentId = none := by
        refine Table.latestBy_eq_none.2 fun q hq => ?_
        obtain ⟨i, hi', he⟩ := h.store.history.homes q hq
        refine Bool.eq_false_iff.2 fun hdiag => hhome i hi' ?_
        exact he.trans (Run.diagnosisOf_iff.1 hdiag).1
      refine ⟨hparent.trans (by rw [hlatest]; rfl), by simp [hlatest], ?_⟩
      rintro ⟨o, ho, hoinc, -⟩
      obtain ⟨q, hq, -, hqinc, -⟩ := h.store.history.writes o ho
      obtain ⟨i, hi', he⟩ := h.store.history.homes q hq
      exact hhome i hi' (he.trans (hqinc.trans hoinc))
    | round hr => exact hround hr
    | investigation hr => exact hround hr
    | started _ _ _ hr => exact hround hr
    | interaction hi => simp [hi] at hckind

/-- A request for a round that was answered once is answered ever after, with the same
round and without effect. -/
theorem Sound.round_again (h : s.Sound env) {incidentId messageId key : String}
    {parentRunId : Option String} {previous : Json} {row : Run}
    (hc : s.Commits env (.acceptRound incidentId messageId key parentRunId previous) (.run row) s')
    {es : List (Event σ)} {s'' : Sys σ} (hrun : Transition.run (next env) s' es = some s'')
    (tx : Tx) (parentRunId' : Option String) (previous' : Json) :
    ∃ row', row'.fixed = row.fixed ∧
      acceptRound env tx incidentId messageId key parentRunId' previous' s''.db =
        .ok (row', s''.db) := by
  obtain ⟨tx₀, skipped, -, -, -, hok⟩ := h.of_commits hc
  obtain ⟨_, _, _, _, _, hnext, -⟩ := hc
  simp only [transact, map_eq_ok, Prod.mk.injEq, Response.run.injEq] at hok
  obtain ⟨⟨row₀, db⟩, hok, rfl, rfl⟩ := hok
  obtain ⟨hs', -, hlater⟩ := h.step hnext
  obtain ⟨hs'', -, hlater'⟩ := hs'.run hrun
  obtain ⟨hkey, ⟨incident, hi⟩, hidem, hsha⟩ := acceptRound_recorded hok
  obtain ⟨row', hrow', hadv⟩ := hlater'.runs row₀ (acceptRound_mem hok)
  obtain ⟨hmem, rfl⟩ := Db.mem_of_incident? hi
  obtain ⟨i', hi', hadvi⟩ := hlater.incidents incident hmem
  obtain ⟨i'', hi'', hadvi'⟩ := hlater'.incidents i' hi'
  refine ⟨row', hadv.fixed, acceptRound_again hs''.store.keys hkey ⟨i'', ?_⟩ hrow'
    (hadv.idempotency.trans hidem)
    ((column_eq hadv.fixed Run.requestSha256 fun _ => rfl).trans hsha)⟩
  rw [← hadvi.incidentId, ← hadvi'.incidentId]
  exact hs''.store.keys.incident?_eq hi''

/-- **One line of rounds.** What holds of the diagnoses of an incident in a state, and of what
becomes of them in one step or in a run from there. -/
structure OneLine (env : Env) (s : Sys σ) (incidentId : String) : Prop where
  /-- In the order of their start times, the diagnoses are a chain: each has the one before
  it as its parent, the next revision, and the one before it has ended. -/
  ascending : (s.db.lane incidentId).Pairwise fun a b => a.createdAt < b.createdAt
  chain : Linear (s.db.lane incidentId)
  /-- Each is for a later message than all before it. -/
  sequences : (s.db.lane incidentId).Pairwise fun a b =>
    a.inputMessageSequence.getD 0 < b.inputMessageSequence.getD 0
  /-- A message is the source of at most one run. -/
  sources : ∀ a ∈ s.db.runs, ∀ b ∈ s.db.runs, ∀ id, a.sourceMessageId = some id →
    b.sourceMessageId = some id → a = b
  /-- Whatever event inserts a diagnosis, its parent is the latest one at that moment, which
  has ended, and no write of the incident is unresolved. -/
  created : ∀ e s', next env s e = some s' → ∀ r ∈ s'.db.lane incidentId,
    (∀ q ∈ s.db.runs, q.runId ≠ r.runId) →
      r.parentRunId = (s.db.latest incidentId).map (·.runId) ∧
      (∀ p ∈ s.db.latest incidentId, p.status.terminal = true) ∧
      ¬ s.db.unresolvedOperation incidentId
  /-- A round that is asked for again, with its key and message, is the same round. -/
  again : ∀ messageId key parentRunId previous row s',
    s.Commits env (.acceptRound incidentId messageId key parentRunId previous) (.run row) s' →
      ∀ es s'', Transition.run (next env) s' es = some s'' →
        ∀ tx parentRunId' previous', ∃ row', row'.runId = row.runId ∧
          acceptRound env tx incidentId messageId key parentRunId' previous' s''.db =
            .ok (row', s''.db)

/-- **Rounds form one linear history**, in every reachable state. -/
theorem Reachable.one_line (hs : s.Reachable env) (incidentId : String) :
    s.OneLine env incidentId where
  ascending := (hs.sound.store.history.linear incidentId).ascending
  chain := hs.sound.store.history.linear incidentId
  sequences := (hs.sound.store.history.linear incidentId).sequences
  sources := hs.sound.store.keys.sources
  created _ _ hnext _ hr hnew := hs.sound.created_after_latest hnext hr hnew
  again := by
    intro messageId key parentRunId previous row s' hc es s'' hrun tx parentRunId' previous'
    obtain ⟨row', hfixed, hagain⟩ := hs.sound.round_again hc hrun tx parentRunId' previous'
    exact ⟨row', column_eq hfixed Run.runId fun _ => rfl, hagain⟩

/-- The first diagnosis fails, the user says more, and asks for another round. -/
def nextRound : List (Sys σ → List (Event σ)) :=
  [ask (fun s => .finish s.lease .failed default) default,
    ask (fun _ => .appendMessage "incident" (userDraft "message-1" "Look again."))
      { (default : Draw) with messageId := "m-1" },
    ask (fun _ => .acceptRound "incident" "m-1" "round-1" (some "run-1") .null)
      { (default : Draw) with runId := "run-2", threadId := "thread-2" }]

theorem one_line_two_rounds : ∃ s : Sys Unit, s.Reachable .plain ∧
    (s.db.lane "incident").map (·.runId) = ["run-1", "run-2"] ∧ s.OneLine .plain "incident" := by
  obtain ⟨s, -, hs, hrounds⟩ := Transition.exists_reachable (next .plain) (start Unit)
    (opening ++ nextRound) (fun s => (s.db.lane "incident").map (·.runId) = ["run-1", "run-2"])
    (by decide +kernel)
  exact ⟨s, hs, hrounds, Reachable.one_line hs "incident"⟩

end Sys

end IncidentAgent
