import IncidentAgent.System.Lineage

/-!
# The lanes of an incident

An incident has a lane of diagnoses and a lane of interactions, and in each of them one run
is active at most. The lanes are not independent: an interaction that works on the incident
excludes an active diagnosis, while a question that only reads history may be asked during
the wait of a diagnosis, which can be queued again before the question is answered. So the
invariant is about the interactions that are not historical (`Db.Exclusive`), and it is kept
because each of the entry points that create work looks at the other lane before it inserts,
and nothing that has ended becomes active again.

The unique index on active runs says the same as the checks of the code: an insertion that
passed them is never rejected on account of the index (`Request.Attempts.free`).
-/

namespace IncidentAgent

/-! ### Exclusive lanes -/

/-- **The lanes of every incident are exclusive**: no two active runs of one kind, and no
active diagnosis besides an active interaction, unless that only reads history. -/
structure Db.Exclusive (db : Db) : Prop where
  single : ∀ r ∈ db.runs, ∀ q ∈ db.runs, r.incidentId = q.incidentId → r.runKind = q.runKind →
    r.active → q.active → r = q
  apart : ∀ r ∈ db.runs, ∀ q ∈ db.runs, r.incidentId = q.incidentId → r.runKind = .diagnosis →
    q.runKind = .interaction → r.active → q.active → q.historical = true

/-- What is active after an advance was active before. -/
theorem Run.Advances.active {now : Nat} {a b : Run} (h : a.Advances now b) (hb : b.active) :
    a.active := by
  by_contra ha
  have ha : a.status.terminal = true := by simpa [Run.active] using ha
  simp [Run.active, h.ended ha, ha] at hb

theorem Run.Advances.historical {now : Nat} {a b : Run} (h : a.Advances now b) :
    b.historical = a.historical := by
  unfold Run.historical
  rw [column_eq h.fixed Run.inputPayload fun _ => rfl]

theorem Db.exclusive_empty : Db.empty.Exclusive := ⟨by simp [Db.empty], by simp [Db.empty]⟩

section Exclusive

variable {env : Env} {tx : Tx} {quiet : Bool} {db db' : Db}

/-- Rows that advance, and no new one, keep the lanes exclusive. -/
theorem Db.Exclusive.of_advances {now : Nat} (he : db.Exclusive)
    (hk' : Table.Keyed Run.runId db'.runs)
    (h : ∀ r' ∈ db'.runs, ∃ r ∈ db.runs, r.Advances now r') : db'.Exclusive where
  single r' hr' q' hq' hinc hkind hr hq := by
    obtain ⟨r, hmr, hadv⟩ := h r' hr'
    obtain ⟨q, hmq, hadv'⟩ := h q' hq'
    have hsame : r = q := he.single r hmr q hmq
      (hadv.incidentId.symm.trans (hinc.trans hadv'.incidentId))
      (hadv.runKind.symm.trans (hkind.trans hadv'.runKind)) (hadv.active hr) (hadv'.active hq)
    refine hk'.eq_of_key hr' hq' ?_
    rw [hadv.runId, hadv'.runId, hsame]
  apart r' hr' q' hq' hinc hdiag hinter hr hq := by
    obtain ⟨r, hmr, hadv⟩ := h r' hr'
    obtain ⟨q, hmq, hadv'⟩ := h q' hq'
    rw [hadv'.historical]
    exact he.apart r hmr q hmq (hadv.incidentId.symm.trans (hinc.trans hadv'.incidentId))
      (hadv.runKind.symm.trans hdiag) (hadv'.runKind.symm.trans hinter) (hadv.active hr)
      (hadv'.active hq)

/-- The insertion of a run that meets the constraints keeps the lanes exclusive, if it meets
no active run in the other lane of its incident, or only reads history. -/
theorem Db.Exclusive.insert (he : db.Exclusive) {r : Run}
    (hfree : r.active → ∀ q ∈ db.runs, q.incidentId = r.incidentId → q.runKind = r.runKind →
      ¬ q.active)
    (hdiag : r.runKind = .diagnosis → ¬ db.activeInteraction r.incidentId)
    (hinter : r.runKind = .interaction → r.historical = false →
      ¬ db.activeDiagnosis r.incidentId) :
    Db.Exclusive { db with runs := db.runs ++ [r] } where
  single a ha b hb hinc hkind haa hab := by
    rcases List.mem_append.1 ha with ha' | ha' <;> rcases List.mem_append.1 hb with hb' | hb'
    · exact he.single a ha' b hb' hinc hkind haa hab
    · obtain rfl := List.mem_singleton.1 hb'
      exact absurd haa (hfree hab a ha' hinc hkind)
    · obtain rfl := List.mem_singleton.1 ha'
      exact absurd hab (hfree haa b hb' hinc.symm hkind.symm)
    · rw [List.mem_singleton.1 ha', List.mem_singleton.1 hb']
  apart a ha b hb hinc had hbi haa hab := by
    rcases List.mem_append.1 ha with ha' | ha' <;> rcases List.mem_append.1 hb with hb' | hb'
    · exact he.apart a ha' b hb' hinc had hbi haa hab
    · obtain rfl := List.mem_singleton.1 hb'
      by_contra hhist
      exact hinter hbi (by simpa using hhist) ⟨a, ha', hinc, had, haa⟩
    · obtain rfl := List.mem_singleton.1 ha'
      exact absurd ⟨b, hb', hinc.symm, hbi, hab⟩ (hdiag had)
    · rw [List.mem_singleton.1 ha'] at had
      rw [List.mem_singleton.1 hb', had] at hbi
      cases hbi

/-- A first diagnosis is of an incident that has no run. -/
theorem Db.History.none_of_initial (hs : db.History env) {i : Incident}
    (hi : db.IncidentConstraints i) : ∀ r ∈ db.runs, r.incidentId ≠ i.incidentId := by
  intro r hr hinc
  obtain ⟨j, hj, hid⟩ := hs.homes r hr
  exact (hi j hj).1 (hid.trans hinc)

/-- **An edit keeps the lanes exclusive.** -/
theorem Db.Edit.exclusive (h : Db.Edit env tx quiet db db') (hs : db.History env)
    (he : db.Exclusive) : db'.Exclusive := by
  have hk' := (h.keys hs.keys).runs
  cases h with
  | @runs p f h _ =>
    have hold : ∀ r' ∈ Table.updateWhere p f db.runs, ∃ r ∈ db.runs, r.Advances tx.now r' := by
      intro r' hr'
      obtain ⟨r, hr, rfl⟩ := Table.mem_updateWhere.1 hr'
      by_cases hp : p r = true
      · exact ⟨r, hr, by simpa [hp] using h r hr hp⟩
      · exact ⟨r, hr, by simpa [hp] using Run.Advances.refl tx.now r⟩
    exact he.of_advances hk' hold
  | @first incidentId runId threadId payload key dialogue hi hr =>
    have hnone := hs.none_of_initial hi
    have he' : Db.Exclusive { db with
        incidents := db.incidents ++ [Incident.initial incidentId threadId payload] } :=
      ⟨he.single, he.apart⟩
    refine he'.insert (fun hactive => hr.2.2.2.1 hactive) (fun _ => ?_) fun hkind => by cases hkind
    rintro ⟨q, hq, hinc, -⟩
    exact hnone q hq hinc
  | @run r ho hr =>
    refine he.insert (fun hactive => hr.2.2.2.1 hactive) (fun hkind => ?_) fun hkind hhist => ?_
    · cases ho with
      | first hi =>
        obtain ⟨j, hj, hid⟩ := hr.home
        exact absurd hid (hi j hj).1
      | round hround => exact hround.idle
      | interaction hinter _ _ _ _ _ _ _ => simp [hinter] at hkind
    · cases ho with
      | first _ => cases hkind
      | round _ => cases hkind
      | interaction _ _ _ _ _ _ hlane _ => exact hlane hhist
  | side h =>
    obtain ⟨⟨_, _, _, _, rfl⟩, -⟩ := h
    exact ⟨he.single, he.apart⟩
  | _ => exact ⟨he.single, he.apart⟩

/-- **Edits keep the lanes exclusive.** -/
theorem Db.Edits.exclusive (h : Db.Edits env tx quiet db db') (hs : db.History env)
    (he : db.Exclusive) : db'.Exclusive := by
  induction h with
  | refl => exact he
  | tail hfront h ih => exact h.exclusive (Db.Edits.history hfront hs) ih

end Exclusive

/-! ### Insertions that passed the checks -/

/-- The unique index on active runs rejects a row. -/
def Db.IndexRejects (db : Db) (r : Run) : Prop :=
  r.active ∧ ∃ q ∈ db.runs, q.incidentId = r.incidentId ∧ q.runKind = r.runKind ∧ q.active

/-- The checks of `accept_round` have passed, and the row is about to be inserted. -/
structure RoundAttempt (env : Env) (tx : Tx) (db : Db) (incidentId messageId key : String)
    (parentRunId : Option String) (previous : Json) (row : Run) : Prop where
  valid : validateKey (some key) = .ok ⟨⟩
  unrecorded : db.runByKey? (roundScope incidentId) key = none
  parent : (db.latest incidentId).map (·.runId) = parentRunId
  available : roundAvailable db incidentId (db.latest incidentId) previous = .ok ⟨⟩
  row : ∃ incident message context, db.incident? incidentId = some incident ∧
    db.messages.find? (fun m =>
      m.incidentId = incidentId ∧ m.messageId = messageId ∧ m.role = .user) = some message ∧
    (∀ r ∈ db.latest incidentId, r.inputMessageSequence.getD 0 < message.sequence) ∧
    (∀ r ∈ db.runs, r.sourceMessageId ≠ some messageId) ∧
    row = Run.round env tx incident (db.latest incidentId) message key
      (env.requestDigest (.obj [("message_id", .str messageId)])) context

/-- **The insertions into the table of runs that passed the checks of the code**: the
evaluation of the request on the database reaches the insertion of a row, and the database is
then this one. -/
inductive Request.Attempts (env : Env) (tx : Tx) (db : Db) : Request → Db → Run → Prop
  | first {incidentId runId threadId : String} {payload : IncidentRequest} {key : Option String}
      {dialogue : Bool} (hi : db.IncidentConstraints (Incident.initial incidentId threadId payload)) :
      Request.Attempts env tx db (.accept incidentId runId threadId payload key dialogue)
        { db with incidents := db.incidents ++ [Incident.initial incidentId threadId payload] }
        (Run.first env tx incidentId runId threadId payload key dialogue)
  | round {incidentId messageId key : String} {parentRunId : Option String} {previous : Json}
      {row : Run} (h : RoundAttempt env tx db incidentId messageId key parentRunId previous row) :
      Request.Attempts env tx db (.acceptRound incidentId messageId key parentRunId previous) db row
  | investigation {lease : Lease} {output : Json} {assistant : Option String} {messageId : String}
      {previous : Json} {owned row : Run} (howned : fence tx lease db = .ok owned)
      (hmessage : lease.contextMessageId = some messageId)
      (hprevious : lease.contextState = some previous)
      (h : RoundAttempt env tx (db.updateRun lease.row.runId (Run.released tx.now))
        lease.row.incidentId messageId ("interaction-" ++ lease.row.runId) lease.row.parentRunId
        previous row) :
      Request.Attempts env tx db (.complete lease output assistant true)
        (db.updateRun lease.row.runId (Run.released tx.now)) row
  | started {controlId : String} {c : Control} {latest : Run} {message : Message} {row : Run}
      (hc : db.control? controlId = some c) (hpending : c.status = .pending)
      (hlatest : db.latest c.incidentId = some latest) (hstart : startable db c latest)
      (hmessage : db.lastUserMessage c.incidentId = some message)
      (h : RoundAttempt env tx db c.incidentId message.messageId ("control-" ++ c.controlId)
        (some latest.runId) (previousState latest c) row) :
      Request.Attempts env tx db (.activateControl controlId) db row
  | interaction {incidentId : String} {body : CreateInteraction} {parentId : Option String}
      {references : List Json} {incident : Incident} {message : Message} {db₁ : Db}
      {context : Json} (hi : db.incident? incidentId = some incident)
      (hnone : db.runByKey? (interactionScope incidentId) body.clientMessageId = none)
      (hparent : (db.latest incidentId).map (·.runId) = parentId)
      (havail : interactionAvailable incident (db.latest incidentId) body.intent references db =
        .ok ⟨⟩)
      (hmessage : interactionMessage tx incidentId body db = .ok (message, db₁)) :
      Request.Attempts env tx db (.acceptInteraction incidentId body parentId references) db₁
        (Run.interaction env tx incidentId parentId body context)
  | recheck {delayedId : String} {d : DelayedRecheck} {incident : Incident}
      (hd : db.delayed.find? (fun d => d.delayedId = delayedId) = some d)
      (hi : db.incident? d.incidentId = some incident) (hpending : d.status = .pending)
      (hvalid : stale db d incident = false ∧ tx.now < d.expiresAt)
      (hidle : ¬ ∃ r ∈ db.runs, r.incidentId = d.incidentId ∧ r.active)
      (hop : ¬ db.unresolvedOperation d.incidentId) (hphase : incident.phase ∉ occupiedPhases) :
      Request.Attempts env tx db (.activateDue delayedId) db (Run.delayedRecheck env tx d incident)

section Attempts

variable {env : Env} {tx : Tx} {db : Db}

/-- A round that passed the checks meets no active diagnosis. -/
theorem RoundAttempt.free (hs : db.History env) {incidentId messageId key : String}
    {parentRunId : Option String} {previous : Json} {row : Run}
    (h : RoundAttempt env tx db incidentId messageId key parentRunId previous row) :
    ¬ db.IndexRejects row := by
  rintro ⟨-, q, hq, hinc, hkind, hactive⟩
  obtain ⟨incident, _, _, hi, -, -, -, hrow⟩ := h.row
  obtain ⟨-, -, hended⟩ := roundAvailable_eq_ok h.available
  obtain ⟨-, rfl⟩ := Db.mem_of_incident? hi
  rw [hrow] at hinc hkind
  exact hs.not_activeDiagnosis hended ⟨q, hq, hinc, hkind, hactive⟩

/-- A round that is accepted is recorded already, or passed the checks. -/
theorem acceptRound_attempt {db' : Db} {incidentId messageId key : String}
    {parentRunId : Option String} {previous : Json} {row : Run}
    (h : acceptRound env tx incidentId messageId key parentRunId previous db = .ok (row, db')) :
    db' = db ∨ (RoundAttempt env tx db incidentId messageId key parentRunId previous row ∧
      ∃ db₁, db.insertRun row = .ok db₁) := by
  simp only [acceptRound, bind_eq_ok, rowOr_eq_ok] at h
  obtain ⟨⟨⟩, hvalid, incident, hincident, h⟩ := h
  split at h
  · simp only [replayRun, bind_eq_ok, pure_eq_ok] at h
    obtain ⟨_, -, h⟩ := h
    exact Or.inl (Prod.mk.inj h).2.symm
  · rename_i hnone
    simp only [bind_eq_ok, raiseIf_eq_ok, rowOr_eq_ok, pure_eq_ok, not_not] at h
    obtain ⟨-, hparent, ⟨⟩, havail, message, hmessage, -, hseq, -, hsource, db₁, hinsert, h⟩ := h
    obtain ⟨rfl, rfl⟩ := Prod.mk.inj h
    simp only [insertRound, bind_eq_ok] at hinsert
    obtain ⟨db₂, hinsert, -⟩ := hinsert
    have hnewer : ∀ r ∈ db.latest incidentId,
        r.inputMessageSequence.getD 0 < message.sequence := by
      intro r hr
      rw [Option.mem_def] at hr
      simpa [hr] using hseq
    have hunused : ∀ r ∈ db.runs, r.sourceMessageId ≠ some messageId :=
      fun r hr he => hsource ⟨r, hr, he⟩
    exact Or.inr ⟨⟨hvalid, hnone, hparent, havail, incident, message, _, hincident, hmessage,
      hnewer, hunused, rfl⟩, db₂, hinsert⟩

/-- **A run that a transaction inserted had passed the checks of one of the entry points.** -/
theorem transact_attempts {db' : Db} {skipped : List String} {request : Request}
    {response : Response} (hrechecks : db.Rechecks)
    (h : transact env tx skipped request db = .ok (response, db')) :
    db'.runs.map Run.fixed = db.runs.map Run.fixed ∨
      ∃ db₁ row db₂, request.Attempts env tx db db₁ row ∧ db₁.insertRun row = .ok db₂ ∧
        db'.runs.map Run.fixed = db.runs.map Run.fixed ++ [row.fixed] := by
  cases hinserts : request.inserts with
  | false => exact Or.inl (transact_fixed hrechecks hinserts h)
  | true =>
    cases request <;> simp only [Request.inserts, Bool.false_eq_true] at hinserts <;>
      simp only [transact, map_eq_ok, Prod.mk.injEq] at h
    case accept =>
      obtain ⟨⟨row, db₁⟩, h, -, rfl⟩ := h
      obtain ⟨hi, rfl, hinsert⟩ := accept_eq_ok h
      have hruns := insertRun_fixed hinsert
      exact Or.inr ⟨_, _, _, .first hi, hinsert, hruns⟩
    case acceptRound =>
      obtain ⟨⟨row, db₁⟩, h, -, rfl⟩ := h
      rcases acceptRound_creates h with rfl | ⟨-, -, hruns⟩
      · exact Or.inl rfl
      · rcases acceptRound_attempt h with rfl | ⟨hattempt, db₂, hinsert⟩
        · exact Or.inl rfl
        · exact Or.inr ⟨_, row, db₂, .round hattempt, hinsert, hruns⟩
    case acceptInteraction =>
      obtain ⟨⟨row, db₁⟩, h, -, rfl⟩ := h
      simp only [acceptInteraction, bind_eq_ok, rowOr_eq_ok] at h
      obtain ⟨incident, hi, h⟩ := h
      split at h
      · simp only [bind_eq_ok, pure_eq_ok] at h
        obtain ⟨_, -, h⟩ := h
        exact Or.inl (by rw [← (Prod.mk.inj h).2])
      · rename_i hnone
        simp only [bind_eq_ok, raiseIf_eq_ok, pure_eq_ok, not_not] at h
        obtain ⟨-, hparent, ⟨⟩, havail, ⟨message, db₂⟩, hmessage, db₃, hinsert, h⟩ := h
        obtain ⟨rfl, rfl⟩ := Prod.mk.inj h
        refine Or.inr ⟨_, _, _, .interaction hi hnone hparent havail hmessage, hinsert, ?_⟩
        rw [insertRun_fixed hinsert, (interactionMessage_eq_ok hmessage).runs]
    case complete lease output assistant investigate =>
      obtain ⟨db₁, h, -, rfl⟩ := h
      obtain ⟨row, db₂, db₃, output', hrow, hround, happ, rfl⟩ := complete_eq_ok h
      have hreleased : (db.updateRun lease.row.runId (Run.released tx.now)).runs.map Run.fixed =
          db.runs.map Run.fixed := Db.updateRun_fixed _ _ fun _ => rfl
      have houtput : (db₃.updateRun lease.row.runId fun r =>
          { r with outputSnapshot := some output' }).runs.map Run.fixed =
          db₂.runs.map Run.fixed := by
        rw [← happ.runs]
        exact Db.updateRun_fixed _ _ fun _ => rfl
      rw [houtput]
      rcases openRound_eq_ok hround with ⟨-, -, rfl⟩ |
        ⟨rfl, messageId, previous, child, hmessage, hr, -, hprevious⟩
      · exact Or.inl hreleased
      · rcases acceptRound_creates hr with rfl | ⟨-, -, hruns⟩
        · exact Or.inl hreleased
        · rcases acceptRound_attempt hr with rfl | ⟨hattempt, db₄, hinsert⟩
          · exact Or.inl hreleased
          · exact Or.inr ⟨_, child, db₄, .investigation hrow hmessage hprevious hattempt, hinsert,
              by rw [hruns, hreleased]⟩
    case activateControl =>
      obtain ⟨db₁, h, -, rfl⟩ := h
      obtain ⟨c, hc, rfl | ⟨-, rfl⟩ |
        ⟨latest, child, db₂, hpending, hlatest, hstart, hchild, rfl⟩⟩ := activateControl_eq_ok h
      · exact Or.inl rfl
      · exact Or.inl rfl
      · obtain ⟨message, hmessage, hround⟩ := acceptForControl_eq_ok hchild
        rcases acceptRound_creates hround with rfl | ⟨-, -, hruns⟩
        · exact Or.inl rfl
        · rcases acceptRound_attempt hround with rfl | ⟨hattempt, db₃, hinsert⟩
          · exact Or.inl rfl
          · exact Or.inr ⟨_, child, db₃, .started hc hpending hlatest hstart hmessage hattempt,
              hinsert, hruns⟩
    case activateDue delayedId =>
      obtain ⟨db₁, h, -, rfl⟩ := h
      rcases activateDue_eq_ok hrechecks h with hside | ⟨_, -, -, _, -, db₂, hside, rfl⟩ |
        ⟨d, incident, db₂, hd, rfl, hpending, hi, hfresh, hdue, hidle, ⟨hop, hphase⟩, hinsert, rfl⟩
      · exact Or.inl (by rw [hside.runs])
      · refine Or.inl (Eq.trans ?_ (congrArg (List.map Run.fixed) hside.runs))
        exact Table.map_updateWhere (f := Run.abandoned tx.now) fun _ _ _ => rfl
      · have hruns := insertRun_fixed hinsert
        exact Or.inr ⟨db, _, db₂, .recheck (hrechecks.keyed.find?_eq hd) hi hpending
          ⟨hfresh, hdue⟩ hidle hop hphase, hinsert, hruns⟩

/-- **An insertion that passed the checks of the code is never rejected by the index.** -/
theorem Request.Attempts.free (hs : db.History env) {request : Request}
    (hready : request.Ready tx db) {db₁ : Db} {row : Run}
    (h : request.Attempts env tx db db₁ row) : ¬ db₁.IndexRejects row := by
  cases h with
  | first hi =>
    rintro ⟨-, q, hq, hinc, -⟩
    exact hs.none_of_initial hi q hq hinc
  | round h => exact h.free hs
  | @investigation lease _ _ _ _ _ _ howned _ _ h =>
    have hlane : ∀ r ∈ db.runs, r.runId = lease.row.runId → r.runKind = .interaction :=
      fun r hr hid =>
        (column_eq (hready.leased lease rfl r hr hid) Run.runKind fun _ => rfl).trans hready.proper.1
    have hrelease : Db.Edits env tx true db (db.updateRun lease.row.runId (Run.released tx.now)) :=
      release_edits hs.keys howned hlane
    exact h.free (hrelease.history hs)
  | started _ _ _ _ _ h => exact h.free hs
  | interaction hi _ _ havail hmessage =>
    rintro ⟨-, q, hq, hinc, hkind, hactive⟩
    rw [(interactionMessage_eq_ok hmessage).runs] at hq
    refine (interactionAvailable_eq_ok havail).1 ⟨q, hq, ?_, hkind, hactive⟩
    rw [(Db.mem_of_incident? hi).2]
    exact hinc
  | recheck _ _ _ _ hidle _ _ =>
    rintro ⟨-, q, hq, hinc, -, hactive⟩
    exact hidle ⟨q, hq, hinc, hactive⟩

end Attempts

/-! ### In every reachable state -/

namespace Sys

variable {σ : Type} {env : Env} {s s' : Sys σ}

/-- The lanes are exclusive in every reachable state. -/
theorem Reachable.exclusive (hs : s.Reachable env) : s.db.Exclusive := by
  refine Transition.Reachable.invariant_of (P := fun s : Sys σ => s.db.Exclusive)
    Db.exclusive_empty (fun s e s' hreach he hstep => ?_) hs
  have hsound : s.Sound env := Reachable.sound hreach
  rcases next_db hstep with hdb | ⟨request, response, hc⟩
  · exact hdb ▸ he
  · obtain ⟨tx, skipped, -, hready, -, hok⟩ := hsound.of_commits hc
    exact (transact_edits hsound.store hready hok).exclusive hsound.store.history he

/-- **The lanes of the incidents.** -/
structure Lanes (env : Env) (s : Sys σ) : Prop where
  /-- At most one run of each kind is active. -/
  single : ∀ r ∈ s.db.runs, ∀ q ∈ s.db.runs, r.incidentId = q.incidentId →
    r.runKind = q.runKind → r.active → q.active → r = q
  /-- An interaction that is active besides an active diagnosis only reads history. -/
  apart : ∀ r ∈ s.db.runs, ∀ q ∈ s.db.runs, r.incidentId = q.incidentId →
    r.runKind = .diagnosis → q.runKind = .interaction → r.active → q.active →
      q.historical = true
  /-- Whatever run a transaction inserts has passed the checks of an entry point. -/
  checked : ∀ request response s', s.Commits env request response s' →
    ∀ r ∈ s'.db.runs, (∀ q ∈ s.db.runs, q.runId ≠ r.runId) →
      ∃ tx db row db', request.Attempts env tx s.db db row ∧ db.insertRun row = .ok db' ∧
        r.fixed = row.fixed
  /-- What has passed the checks is not rejected by the index. -/
  indexed : ∀ t ∈ s.transactions, ∀ asked draw, s.Fresh draw → ∀ db row,
    t.request.Attempts env (s.tx t asked draw) s.db db row → ¬ db.IndexRejects row

/-- **The lanes are exclusive, and the index never rejects what the code has checked**, in
every reachable state. -/
theorem Reachable.lanes (hs : s.Reachable env) : s.Lanes env where
  single := hs.exclusive.single
  apart := hs.exclusive.apart
  checked request response s' hc r hr hnew := by
    obtain ⟨tx, skipped, -, -, -, hok⟩ := hs.sound.of_commits hc
    have hmem : r.fixed ∈ s'.db.runs.map Run.fixed := List.mem_map_of_mem hr
    have hold : r.fixed ∉ s.db.runs.map Run.fixed := by
      intro hin
      obtain ⟨q, hq, hfixed⟩ := List.mem_map.1 hin
      exact hnew q hq (column_eq hfixed Run.runId fun _ => rfl)
    rcases transact_attempts hs.sound.store.history.rechecks hok with hsame |
      ⟨db, row, db', hattempt, hinsert, happend⟩
    · exact absurd (hsame ▸ hmem) hold
    · rw [happend] at hmem
      rcases List.mem_append.1 hmem with hin | hin
      · exact absurd hin hold
      · exact ⟨tx, db, row, db', hattempt, hinsert, List.mem_singleton.1 hin⟩
  indexed t ht asked draw hfresh db row h :=
    h.free hs.sound.store.history (hs.sound.ready ht hfresh)

/-- The diagnosis waits for an answer, and a human asks for an explanation meanwhile. -/
def explained : List (Sys σ → List (Event σ)) :=
  [ask (fun s => .finish s.lease .waitingUser ⟨some "awaiting_user", none, none, none,
      some default, none⟩) default,
    ask (fun _ => .acceptInteraction "incident"
      ⟨"client-1", "Why this service?", .explain, none, none⟩ (some "run-1") [])
      { (default : Draw) with runId := "run-2", threadId := "thread-2", messageId := "m-1" }]

theorem lanes_explained : ∃ s : Sys Unit, s.Reachable .plain ∧
    s.db.runs.map (fun r => (r.runKind, r.active)) =
      [(.diagnosis, true), (.interaction, true)] ∧ s.Lanes .plain := by
  obtain ⟨s, -, hs, hrows⟩ := Transition.exists_reachable (next .plain) (start Unit)
    (opening ++ explained)
    (fun s => s.db.runs.map (fun r => (r.runKind, r.active)) =
      [(.diagnosis, true), (.interaction, true)])
    (by decide +kernel)
  exact ⟨s, hs, hrows, Reachable.lanes hs⟩

end Sys

end IncidentAgent
