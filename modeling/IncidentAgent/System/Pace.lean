import IncidentAgent.System.Frames
import IncidentAgent.System.Lineage

/-!
# The count of attempts

A run counts the leases that may work on it, `attempt`, and remembers the count at which a human
last gave it something to do, `attempt_base`. A claim counts, as long as the difference of the two
is below the limit, and grants a lease that may only recover once it is not; a decision and an
answer of a human set the base to the count. No other statement touches either column
(`transact_steady`), and only `finish` schedules a retry (`finish_paces`), never of a run whose
write was dispatched.
-/

namespace IncidentAgent

/-! ### Rows that keep their pace -/

/-- **A row keeps its pace**: its counts are what they were, and no retry is scheduled. -/
structure Run.Steady (a b : Run) : Prop where
  runId : b.runId = a.runId
  attempt : b.attempt = a.attempt
  attemptBase : b.attemptBase = a.attemptBase
  retried : b.status = .retryScheduled → a.status = .retryScheduled

/-- A new row, on which nobody has worked. -/
structure Run.Untried (r : Run) : Prop where
  attempt : r.attempt = 0
  attemptBase : r.attemptBase = 0
  retried : r.status ≠ .retryScheduled

theorem Run.Steady.refl (r : Run) : r.Steady r := ⟨rfl, rfl, rfl, id⟩

theorem Run.Steady.trans (a b c : Run) (h : a.Steady b) (h' : b.Steady c) : a.Steady c :=
  ⟨h'.runId.trans h.runId, h'.attempt.trans h.attempt, h'.attemptBase.trans h.attemptBase,
    fun hc => h.retried (h'.retried hc)⟩

theorem Run.Untried.of_steady (a b : Run) (h : a.Untried) (h' : a.Steady b) : b.Untried :=
  ⟨h'.attempt.trans h.attempt, h'.attemptBase.trans h.attemptBase,
    fun hb => h.retried (h'.retried hb)⟩

/-- A row that is queued first is untried. -/
theorem Run.Untried.of_queued {r : Run} (hattempt : r.attempt = 0) (hbase : r.attemptBase = 0)
    (hstatus : r.status = .queued) : r.Untried :=
  ⟨hattempt, hbase, by rw [hstatus]; decide⟩

/-- An update that keeps the counts and ends with another status than that of a retry. -/
theorem Run.Steady.of_status {a b : Run} (hid : b.runId = a.runId) (hattempt : b.attempt = a.attempt)
    (hbase : b.attemptBase = a.attemptBase) (hstatus : b.status ≠ .retryScheduled) : a.Steady b :=
  ⟨hid, hattempt, hbase, fun h => absurd h hstatus⟩

/-- The runs of a database keep their pace, and new ones are untried. -/
def Db.Steady (db db' : Db) : Prop := Table.Grows Run.Steady Run.Untried db.runs db'.runs

section Steady

variable {env : Env} {tx : Tx} {db db' db'' : Db}

theorem Db.Steady.of_runs (h : db'.runs = db.runs) : db.Steady db' := by
  rw [Db.Steady, h]
  exact Table.Grows.refl Run.Steady.refl _

theorem Db.Steady.trans (h : db.Steady db') (h' : db'.Steady db'') : db.Steady db'' :=
  Table.Grows.trans Run.Steady.trans Run.Untried.of_steady h h'

/-- An update of rows that keep their pace. -/
theorem Db.Steady.update {p : Run → Bool} {f : Run → Run} (hf : ∀ r : Run, r.Steady (f r))
    (h : db'.runs = Table.updateWhere p f db.runs) : db.Steady db' := by
  rw [Db.Steady, h]
  exact Table.Grows.updateWhere Run.Steady.refl fun r _ _ => hf r

/-- An insertion of an untried row. -/
theorem Db.Steady.insert {r : Run} (hr : r.Untried) (h : db.insertRun r = .ok db') :
    db.Steady db' := by
  obtain ⟨-, -, rfl⟩ := Db.insertRun_eq_ok h
  exact Table.Grows.insert Run.Steady.refl hr _

theorem acceptRound_steady {incidentId messageId key : String} {parentRunId : Option String}
    {previous : Json} {row : Run}
    (h : acceptRound env tx incidentId messageId key parentRunId previous db = .ok (row, db')) :
    db.Steady db' := by
  rcases acceptRound_eq_ok h with ⟨-, -, rfl⟩ | ⟨_, _, _, -, -, -, -, -, -, hrow, hinsert⟩
  · exact .of_runs rfl
  · obtain ⟨-, -, rfl⟩ := insertRound_eq_ok hinsert
    have huntried : row.Untried := by
      rw [hrow]
      exact .of_queued rfl rfl rfl
    have hinserted : db.Steady { db with runs := db.runs ++ [row] } :=
      Table.Grows.insert Run.Steady.refl huntried _
    cases db.latest incidentId with
    | none => exact hinserted
    | some p =>
      refine hinserted.trans (.update (f := fun r =>
        { r with outputSnapshot := r.outputSnapshot.or (some previous) }) (fun r => ?_) rfl)
      exact ⟨rfl, rfl, rfl, id⟩

theorem Appends.steady {incidentId : String} (h : Appends tx incidentId db db') : db.Steady db' :=
  .of_runs h.runs

theorem stopDiagnosis_steady {incidentId : String} {latest : Run} {dispatched : Bool}
    {snapshot : Json} : db.Steady (stopDiagnosis tx incidentId latest dispatched snapshot db) := by
  have hstopped : db.Steady (db.updateRun latest.runId (Run.stopped tx.now)) :=
    .update (f := Run.stopped tx.now) (fun r => ⟨rfl, rfl, rfl, id⟩) rfl
  unfold stopDiagnosis
  split
  · split
    · exact hstopped
    · refine hstopped.trans (.update (f := Run.superseded tx.now snapshot) (fun r => ?_) rfl)
      exact .of_status rfl rfl rfl (by simp [Run.superseded])
  · exact .of_runs rfl

theorem arbitrate_steady {incidentId : String} {latest : Run} {dispatched : Bool}
    {action : ControlAction} {snapshot : Json} :
    db.Steady (arbitrate tx incidentId latest dispatched action snapshot db) := by
  have hrevision : db.Steady (db.updateIncident incidentId fun i =>
      { i with eventRevision := i.eventRevision + 1 }) := .of_runs rfl
  have hdropped : ∀ db : Db, db.Steady (dropInteractions tx incidentId db) := fun db =>
    .update (f := Run.dropped tx.now)
      (fun r => .of_status rfl rfl rfl (by simp [Run.dropped])) rfl
  unfold arbitrate
  split
  · exact ((hrevision.trans stopDiagnosis_steady).trans (hdropped _)).trans (.of_runs rfl)
  · exact (hrevision.trans stopDiagnosis_steady).trans (hdropped _)

/-- An arbitration dispatches nothing. -/
theorem arbitrate_dispatched {incidentId : String} {latest : Run} {dispatched : Bool}
    {action : ControlAction} {snapshot : Json} {o' : Operation}
    (ho' : o' ∈ (arbitrate tx incidentId latest dispatched action snapshot db).operations)
    (hdispatched : o'.state.dispatched = true) :
    ∃ o ∈ db.operations, o.runId = o'.runId ∧ o.state.dispatched = true := by
  have hcases : (arbitrate tx incidentId latest dispatched action snapshot db).operations =
      db.operations ∨
      (arbitrate tx incidentId latest dispatched action snapshot db).operations =
        (rejectPrepared latest.runId db).operations := by
    unfold arbitrate stopDiagnosis
    split <;> split <;> (try split) <;> first
      | exact Or.inl rfl
      | exact Or.inr rfl
  rcases hcases with hsame | hrejected
  · rw [hsame] at ho'
    exact ⟨o', ho', rfl, hdispatched⟩
  · rw [hrejected] at ho'
    obtain ⟨o, ho, rfl⟩ := Table.mem_updateWhere.1 ho'
    by_cases hsel : decide (o.runId = latest.runId ∧ o.state = .prepared) = true
    · rw [if_pos hsel] at hdispatched
      cases hdispatched
    · rw [if_neg hsel] at hdispatched ⊢
      exact ⟨o, ho, rfl, hdispatched⟩

/-! ### The requests that keep the pace -/

/-- The requests that count attempts, reset their base or schedule a retry. -/
def Request.paces : Request → Bool
  | .claim _ _ _ | .finish _ _ _ | .queueApproval _ _ _ | .answer _ _ _ => true
  | _ => false

/-- **No other request touches the counts**, and none schedules a retry. -/
theorem transact_steady {skipped : List String} {request : Request} {response : Response}
    (hrechecks : db.Rechecks) (hpaces : request.paces = false)
    (h : transact env tx skipped request db = .ok (response, db')) : db.Steady db' := by
  cases request <;> simp only [Request.paces, Bool.true_eq_false] at hpaces <;>
    simp only [transact, map_eq_ok, Prod.mk.injEq, Except.ok.injEq] at h
  case accept =>
    obtain ⟨⟨row, db₁⟩, h, -, rfl⟩ := h
    obtain ⟨-, hrow, hinsert⟩ := accept_eq_ok h
    have huntried : row.Untried := by
      rw [hrow]
      exact .of_queued rfl rfl rfl
    refine Db.Steady.trans ?_ (.insert huntried hinsert)
    exact .of_runs rfl
  case createIncident =>
    obtain ⟨db₁, h, -, rfl⟩ := h
    obtain ⟨_, -, -, -, rfl⟩ := createIncident_eq_ok h
    exact .of_runs rfl
  case updatePhase =>
    obtain ⟨-, rfl⟩ := h
    exact .of_runs rfl
  case assertOwned =>
    obtain ⟨_, -, -, rfl⟩ := h
    exact .of_runs rfl
  case heartbeat lease seconds =>
    obtain ⟨db₁, h, -, rfl⟩ := h
    obtain ⟨-, rfl⟩ := heartbeat_eq_ok h
    exact .update (f := fun r => { r with leaseExpiresAt := some (tx.now + seconds * second) })
      (fun r => ⟨rfl, rfl, rfl, id⟩) rfl
  case markCheckpointStarted =>
    obtain ⟨db₁, h, -, rfl⟩ := h
    obtain ⟨-, rfl⟩ := markCheckpointStarted_eq_ok h
    exact .update (f := fun r => { r with checkpointStarted := true })
      (fun r => ⟨rfl, rfl, rfl, id⟩) rfl
  case prepare =>
    obtain ⟨⟨o, db₁⟩, h, -, rfl⟩ := h
    obtain ⟨-, -, -, ⟨-, rfl, -⟩ | ⟨-, -, -, rfl⟩⟩ := prepare_eq_ok h
    · exact .of_runs rfl
    · exact .of_runs rfl
  case dispatch =>
    obtain ⟨db₁, h, -, rfl⟩ := h
    obtain ⟨-, -, -, rfl⟩ := dispatch_eq_ok h
    exact .of_runs rfl
  case record =>
    obtain ⟨db₁, h, -, rfl⟩ := h
    obtain ⟨-, -, rfl⟩ := record_eq_ok h
    exact .of_runs rfl
  case acceptRound =>
    obtain ⟨⟨row, db₁⟩, h, -, rfl⟩ := h
    exact acceptRound_steady h
  case acceptInteraction =>
    obtain ⟨⟨row, db₁⟩, h, -, rfl⟩ := h
    rcases acceptInteraction_eq_ok h with rfl | ⟨db₂, _, happ, -, -, hrow, hinsert⟩
    · exact .of_runs rfl
    · have huntried : row.Untried := by
        rw [hrow]
        exact .of_queued rfl rfl rfl
      exact happ.steady.trans (.insert huntried hinsert)
  case saveProgress lease progress =>
    obtain ⟨db₁, h, -, rfl⟩ := h
    obtain ⟨-, rfl⟩ := saveProgress_eq_ok h
    exact .update (f := fun r => { r with interactionProgress := progress })
      (fun r => ⟨rfl, rfl, rfl, id⟩) rfl
  case saveRecheck =>
    obtain ⟨db₁, h, -, rfl⟩ := h
    obtain ⟨-, _, rfl⟩ := saveRecheck_eq_ok h
    exact .of_runs rfl
  case complete lease output assistant investigate =>
    obtain ⟨db₁, h, -, rfl⟩ := h
    obtain ⟨row, db₂, db₃, output', -, hround, happ, rfl⟩ := complete_eq_ok h
    have hreleased : db.Steady (db.updateRun lease.row.runId (Run.released tx.now)) :=
      .update (f := Run.released tx.now)
        (fun r => .of_status rfl rfl rfl (by simp [Run.released])) rfl
    have hopened : (db.updateRun lease.row.runId (Run.released tx.now)).Steady db₂ := by
      rcases openRound_eq_ok hround with ⟨-, -, rfl⟩ | ⟨-, _, _, child, -, hr, -⟩
      · exact .of_runs rfl
      · exact acceptRound_steady hr
    refine ((hreleased.trans hopened).trans happ.steady).trans (.update
      (f := fun r => { r with outputSnapshot := some output' }) (fun r => ?_) rfl)
    exact ⟨rfl, rfl, rfl, id⟩
  case control =>
    obtain ⟨⟨view, db₁⟩, h, -, rfl⟩ := h
    rcases control_eq_ok h with ⟨_, -, -, -, rfl⟩ |
      ⟨latest, message, db₂, row, -, -, hmessage, -, -, -, hinsert⟩
    · exact .of_runs rfl
    · obtain ⟨-, rfl⟩ := Db.insertControl_eq_ok hinsert
      exact ((messageInTransaction_eq_ok hmessage).1.steady.trans arbitrate_steady).trans
        (.of_runs rfl)
  case activateControl =>
    obtain ⟨db₁, h, -, rfl⟩ := h
    obtain ⟨c, hc, rfl | ⟨-, rfl⟩ | ⟨latest, child, db₂, -, -, -, hchild, rfl⟩⟩ :=
      activateControl_eq_ok h
    · exact .of_runs rfl
    · exact .of_runs rfl
    · obtain ⟨message, -, hround⟩ := acceptForControl_eq_ok hchild
      exact (acceptRound_steady hround).trans (.of_runs rfl)
  case appendMessage =>
    obtain ⟨⟨m, db₁⟩, h, -, rfl⟩ := h
    exact (appendMessage_eq_ok h).steady
  case activateDue =>
    obtain ⟨db₁, h, -, rfl⟩ := h
    rcases activateDue_eq_ok hrechecks h with hside | ⟨_, -, -, runId, -, db₂, hside, rfl⟩ |
      ⟨d, incident, db₂, -, -, -, -, -, -, -, -, hinsert, rfl⟩
    · exact .of_runs hside.runs
    · refine Db.Steady.trans (.of_runs hside.runs) (.update (f := Run.abandoned tx.now)
        (fun r => ?_) rfl)
      exact .of_status rfl rfl rfl (by simp [Run.abandoned])
    · exact (Db.Steady.insert (.of_queued rfl rfl rfl) hinsert).trans (.of_runs rfl)
  case inspectDelayed =>
    obtain ⟨⟨row, db₁⟩, h, -, rfl⟩ := h
    exact .of_runs (inspectDelayed_eq_ok hrechecks h).2.runs
  case exhaustDelayed =>
    obtain ⟨db₁, h, -, rfl⟩ := h
    exact .of_runs (exhaustDelayed_eq_ok hrechecks h).2.runs
  case publishDelayed =>
    obtain ⟨db₁, h, -, rfl⟩ := h
    exact .of_runs (publishDelayed_eq_ok hrechecks h).2.runs
  case openWindow =>
    obtain ⟨⟨payload, db₁⟩, h, -, rfl⟩ := h
    simp only [openWindow, bind_eq_ok] at h
    obtain ⟨_, -, h⟩ := h
    split at h <;> obtain ⟨-, rfl⟩ := Prod.mk.inj (pure_eq_ok.1 h) <;> exact .of_runs rfl
  case saveWindow =>
    obtain ⟨db₁, h, -, rfl⟩ := h
    exact .of_runs (saveWindow_eq_ok h).2.runs
  case editBudget =>
    obtain ⟨db₁, h, -, rfl⟩ := h
    simp only [editBudget, bind_eq_ok, pure_eq_ok] at h
    obtain ⟨row, -, rfl⟩ := h
    exact .of_runs rfl

/-! ### The requests that do not -/

/-- The requests by which a human gives a run something to do. -/
def Request.resets : Request → Bool
  | .queueApproval _ _ _ | .answer _ _ _ => true
  | _ => false

/-- **What a request does to the counts of a row**: it keeps them, sets the base to the count for
a human, or counts an attempt that the limit allows. It schedules no retry of a run whose write
was dispatched. -/
structure Run.Paces (request : Request) (db : Db) (a b : Run) : Prop where
  runId : b.runId = a.runId
  counts : (b.attempt = a.attempt ∧ b.attemptBase = a.attemptBase) ∨
    (request.resets = true ∧ b.attempt = a.attempt ∧ b.attemptBase = a.attempt) ∨
    ∃ owner seconds maxAttempts, request = .claim owner seconds maxAttempts ∧
      a.attempt < a.attemptBase + maxAttempts ∧ b.attempt = a.attempt + 1 ∧
      b.attemptBase = a.attemptBase
  retried : b.status = .retryScheduled → a.status = .retryScheduled ∨
    ∀ o ∈ db.operations, o.runId = a.runId → o.state.dispatched = false

variable {request : Request}

theorem Run.Steady.paces {a b : Run} (h : a.Steady b) : a.Paces request db b :=
  ⟨h.runId, Or.inl ⟨h.attempt, h.attemptBase⟩, fun hb => Or.inl (h.retried hb)⟩

theorem Run.Paces.refl (a : Run) : a.Paces request db a := (Run.Steady.refl a).paces

theorem Db.Steady.paces (h : db.Steady db') :
    Table.Grows (Run.Paces request db) Run.Untried db.runs db'.runs :=
  h.mono (fun _ _ hab => hab.paces) fun _ hr => hr

/-- A claim decides by the counts whether the lease may only recover. -/
theorem claim_eq (tx : Tx) (db : Db) (owner : String) (seconds maxAttempts : Nat)
    (skipped : List String) :
    (claim tx owner seconds maxAttempts skipped db = (none, db)) ∨
      ∃ row ∈ db.runs,
        claim tx owner seconds maxAttempts skipped db =
          (some ⟨row.claimed owner seconds
              (decide (row.attemptBase + maxAttempts ≤ row.attempt)) tx.now,
            decide (row.attemptBase + maxAttempts ≤ row.attempt)⟩,
          db.updateRun row.runId (Run.claimed owner seconds
            (decide (row.attemptBase + maxAttempts ≤ row.attempt)) tx.now)) := by
  unfold claim
  split
  · exact Or.inl rfl
  · rename_i row hrow
    exact Or.inr ⟨row, (List.mem_filter.1 (List.argmin_mem hrow)).1, rfl⟩

theorem claim_paces (hk : db.Keys) {owner : String} {seconds maxAttempts : Nat}
    {skipped : List String} :
    Table.Grows (Run.Paces (.claim owner seconds maxAttempts) db) Run.Untried db.runs
      (claim tx owner seconds maxAttempts skipped db).2.runs := by
  rcases claim_eq tx db owner seconds maxAttempts skipped with hnone | ⟨row, hrow, hsome⟩
  · rw [hnone]
    exact Table.Grows.refl Run.Paces.refl _
  · rw [hsome]
    refine Table.Grows.updateWhere Run.Paces.refl fun r hr hid => ?_
    obtain rfl : r = row := hk.runs.eq_of_key hr hrow (of_decide_eq_true hid)
    refine ⟨rfl, ?_, fun hs => by cases hs⟩
    by_cases hlimit : r.attemptBase + maxAttempts ≤ r.attempt
    · refine Or.inl ⟨?_, rfl⟩
      simp [Run.claimed, hlimit]
    · refine Or.inr (Or.inr ⟨owner, seconds, maxAttempts, rfl, by omega, ?_, rfl⟩)
      simp [Run.claimed, hlimit]

/-- **Only `finish` schedules a retry**, and of no run whose write was dispatched. -/
theorem finish_paces (hk : db.Keys) {lease : Lease} {status published : RunStatus}
    {args : FinishArgs} (h : finish tx lease status args db = .ok (published, db')) :
    Table.Grows (Run.Paces request db) Run.Untried db.runs db'.runs := by
  obtain ⟨row, phase, code, -, -, -, -, hretry, rfl⟩ := finish_eq_ok h
  have hruns : Table.Grows (Run.Paces request db) Run.Untried db.runs
      (db.updateRun lease.row.runId (Run.finished tx.now published code args)).runs := by
    refine Table.Grows.updateWhere Run.Paces.refl fun r _ hid => ?_
    refine ⟨rfl, Or.inl ⟨rfl, rfl⟩, fun hs => Or.inr fun o ho hrun => ?_⟩
    have hid : r.runId = lease.row.runId := of_decide_eq_true hid
    have hs : published = .retryScheduled := hs
    by_contra hdispatched
    refine hretry ⟨hs, ?_⟩
    rw [← hid, ← hrun, hk.operation?_eq ho]
    simpa using hdispatched
  cases phase with
  | none => exact hruns
  | some phase => exact hruns

theorem queueApproval_paces {runId binding : String} {decision : ApprovalDecision}
    (h : queueApproval runId decision binding db = .ok db') :
    Table.Grows (Run.Paces (.queueApproval runId decision binding) db) Run.Untried db.runs
      db'.runs := by
  obtain ⟨_, -, -, ⟨-, rfl⟩ | ⟨-, -, -, rfl⟩⟩ := queueApproval_eq_ok h
  · exact Table.Grows.refl Run.Paces.refl _
  · refine Table.Grows.updateWhere Run.Paces.refl fun r _ _ => ?_
    exact ⟨rfl, Or.inr (Or.inl ⟨rfl, rfl, rfl⟩), fun hs => by cases hs⟩

theorem answer_paces {incidentId runId : String} {body : AnswerQuestion} {view : ControlView}
    (h : answer env tx incidentId runId body db = .ok (view, db')) :
    Table.Grows (Run.Paces (.answer incidentId runId body) db) Run.Untried db.runs db'.runs := by
  rcases answer_eq_ok h with ⟨_, -, -, rfl⟩ |
    ⟨incident, row, question, message, db₂, -, -, -, -, -, -, -, -, hmessage, hinsert⟩
  · exact Table.Grows.refl Run.Paces.refl _
  · obtain ⟨-, rfl⟩ := Db.insertControl_eq_ok hinsert
    have hruns := (messageInTransaction_eq_ok hmessage).1.runs
    rw [← hruns]
    refine Table.Grows.updateWhere (p := fun r => decide (r.runId = runId))
      (f := Run.answered (Answer.of question row body message) (incident.eventRevision + 1))
      Run.Paces.refl fun r _ _ => ?_
    exact ⟨rfl, Or.inr (Or.inl ⟨rfl, rfl, rfl⟩), fun hs => by cases hs⟩

/-- **What every request does to the counts.** -/
theorem transact_paces (hk : db.Keys) {skipped : List String} {response : Response}
    (hrechecks : db.Rechecks) (h : transact env tx skipped request db = .ok (response, db')) :
    Table.Grows (Run.Paces request db) Run.Untried db.runs db'.runs := by
  cases hpaces : request.paces with
  | false => exact (transact_steady hrechecks hpaces h).paces
  | true =>
    cases request <;> simp only [Request.paces, Bool.false_eq_true] at hpaces <;>
      simp only [transact, map_eq_ok, Prod.mk.injEq, Except.ok.injEq] at h
    case claim =>
      obtain ⟨-, rfl⟩ := h
      exact claim_paces hk
    case finish =>
      obtain ⟨⟨status, db₁⟩, h, -, rfl⟩ := h
      exact finish_paces hk h
    case queueApproval =>
      obtain ⟨db₁, h, -, rfl⟩ := h
      exact queueApproval_paces h
    case answer =>
      obtain ⟨⟨view, db₁⟩, h, -, rfl⟩ := h
      exact answer_paces h

/-- **What a lease was granted on**: the row that was claimed. It counts as an attempt, which the
limit allowed, or it may only recover. -/
theorem transact_granted {skipped : List String} {lease : Lease}
    (h : transact env tx skipped request db = .ok (.lease (some lease), db')) :
    ∃ owner seconds maxAttempts, request = .claim owner seconds maxAttempts ∧ ∃ row ∈ db.runs,
      lease.row.runId = row.runId ∧ lease.row.attemptBase = row.attemptBase ∧
      db' = db.updateRun row.runId (Run.claimed owner seconds lease.recoveryOnly tx.now) ∧
      (lease.recoveryOnly = false → row.attempt < row.attemptBase + maxAttempts ∧
        lease.row.attempt = row.attempt + 1) ∧
      (lease.recoveryOnly = true → row.attemptBase + maxAttempts ≤ row.attempt ∧
        lease.row.attempt = row.attempt) := by
  cases request <;> simp only [transact, map_eq_ok, Prod.mk.injEq, reduceCtorEq, false_and,
    and_false, exists_false, Except.ok.injEq] at h
  case claim owner seconds maxAttempts =>
    obtain ⟨hlease, rfl⟩ := h
    refine ⟨owner, seconds, maxAttempts, rfl, ?_⟩
    rcases claim_eq tx db owner seconds maxAttempts skipped with hnone | ⟨row, hrow, hsome⟩
    · rw [hnone] at hlease
      cases hlease
    · rw [hsome] at hlease ⊢
      cases hlease
      refine ⟨row, hrow, rfl, rfl, rfl, fun hfalse => ?_, fun htrue => ?_⟩
      · have hlimit := of_decide_eq_false hfalse
        refine ⟨by omega, ?_⟩
        simp [Run.claimed, hlimit]
      · have hlimit := of_decide_eq_true htrue
        refine ⟨hlimit, ?_⟩
        simp [Run.claimed, hlimit]

/-- **A write is dispatched under a lease**: an operation past its dispatch was so before, or its
run is running. -/
theorem transact_dispatched {skipped : List String} {response : Response}
    (hrechecks : db.Rechecks) (h : transact env tx skipped request db = .ok (response, db')) :
    ∀ o' ∈ db'.operations, o'.state.dispatched = true →
      (∃ o ∈ db.operations, o.runId = o'.runId ∧ o.state.dispatched = true) ∨
        (db'.runs = db.runs ∧ ∃ row ∈ db.runs, row.runId = o'.runId ∧ row.status = .running) := by
  intro o' ho' hdispatched
  cases hjournals : request.journals with
  | false =>
    rw [(transact_frame hrechecks h).operations hjournals] at ho'
    exact Or.inl ⟨o', ho', rfl, hdispatched⟩
  | true =>
    cases request <;> simp only [Request.journals, Bool.false_eq_true] at hjournals <;>
      simp only [transact, map_eq_ok, Prod.mk.injEq] at h
    case prepare =>
      obtain ⟨⟨o, db₁⟩, h, -, rfl⟩ := h
      obtain ⟨-, -, -, ⟨-, rfl, -⟩ | ⟨-, rfl, -, rfl⟩⟩ := prepare_eq_ok h
      · exact Or.inl ⟨o', ho', rfl, hdispatched⟩
      · rcases List.mem_append.1 ho' with ho' | ho'
        · exact Or.inl ⟨o', ho', rfl, hdispatched⟩
        · obtain rfl := List.mem_singleton.1 ho'
          cases hdispatched
    case dispatch lease operationId =>
      obtain ⟨db₁, h, -, rfl⟩ := h
      obtain ⟨⟨row, hrow⟩, -, -, rfl⟩ := dispatch_eq_ok h
      obtain ⟨hmem, hid, -, -, -, hstatus, -⟩ := fence_eq_ok hrow
      obtain ⟨o, ho, rfl⟩ := Table.mem_updateWhere.1 ho'
      by_cases hsel : dispatchSelects lease operationId o = true
      · have hselected : o.operationId = operationId ∧ o.runId = lease.row.runId ∧
            o.state = .prepared := of_decide_eq_true hsel
        refine Or.inr ⟨rfl, row, hmem, ?_, hstatus⟩
        rw [if_pos hsel, hid]
        exact hselected.2.1.symm
      · rw [if_neg hsel] at hdispatched ⊢
        exact Or.inl ⟨o, ho, rfl, hdispatched⟩
    case record lease state args =>
      obtain ⟨db₁, h, -, rfl⟩ := h
      obtain ⟨⟨row, hrow⟩, -, rfl⟩ := record_eq_ok h
      obtain ⟨hmem, hid, -, -, -, hstatus, -⟩ := fence_eq_ok hrow
      obtain ⟨o, ho, rfl⟩ := Table.mem_updateWhere.1 ho'
      by_cases hsel : decide (o.runId = lease.row.runId) = true
      · refine Or.inr ⟨rfl, row, hmem, ?_, hstatus⟩
        rw [if_pos hsel, hid]
        exact (of_decide_eq_true hsel).symm
      · rw [if_neg hsel] at hdispatched ⊢
        exact Or.inl ⟨o, ho, rfl, hdispatched⟩
    case control =>
      obtain ⟨⟨view, db₁⟩, h, -, rfl⟩ := h
      rcases control_eq_ok h with ⟨_, -, -, -, rfl⟩ |
        ⟨latest, message, db₂, row, -, -, hmessage, -, -, -, hinsert⟩
      · exact Or.inl ⟨o', ho', rfl, hdispatched⟩
      · obtain ⟨-, rfl⟩ := Db.insertControl_eq_ok hinsert
        have hsame := (messageInTransaction_eq_ok hmessage).1.frame.1
        obtain ⟨o, ho, hrun, hstate⟩ := arbitrate_dispatched ho' hdispatched
        rw [hsame] at ho
        exact Or.inl ⟨o, ho, hrun, hstate⟩

end Steady

end IncidentAgent
