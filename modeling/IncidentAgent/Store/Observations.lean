import IncidentAgent.Store.Controls

/-!
# Observations, delayed rechecks and budgets

The side tables of a run: the window of an observation, written under the lease of its
run; the recheck that a passed window schedules for later, with the interaction that
carries it out; and the ledger of a run's budget. None of these transactions touches a
diagnosis.
-/

namespace IncidentAgent

/-! ### Delayed rechecks -/

/-- `delayed_rechecks.WORKFLOW`. -/
def delayedWorkflow : String := "delayed-recheck-v1"

/-- The identifier of the latest diagnosis of an incident, `latest_diagnosis`. -/
def latestDiagnosis (db : Db) (incidentId : String) : Option String :=
  (db.latest incidentId).map (·.runId)

/-- The request of an incident that a recheck is to be made on, with the profile of the
service in the result of the window. -/
def delayedSnapshot (incident : Incident) (payload : WindowPayload) : Json :=
  let result := payload.lastResult.getD (.obj [])
  let profile (key : String) : Option Json := (result.get? key).filter Json.truthy
  .obj [("incident_id", .str incident.incidentId), ("phase", .str "verification_succeeded"),
    ("request", incident.request.dump),
    ("service_profile",
      ((profile "service_profile").or (profile "post_repair_profile")).getD (.obj []))]

/-- `schedule(conn, key, incident_id, lease, window)`: a passed window is rechecked once,
later. -/
def schedule (tx : Tx) (delayedId key incidentId : String) (lease : Option Lease)
    (payload : WindowPayload) (db : Db) : Except Failure Db :=
  match payload.target with
  | none => pure db
  | some target =>
    if payload.status ≠ .passed ∨ payload.finishedAt.isNone then pure db
    else do
      let incident ← rowOr (db.incident? incidentId) .runError
      if db.delayed.any fun d =>
          d.observationKey = key ∧ d.policyVersion = payload.policy.version then pure db
      else
        raiseIf (∃ d ∈ db.delayed, d.delayedId = delayedId) .runError
        pure { db with
          delayed := db.delayed ++ [{
            delayedId := delayedId
            observationKey := key
            policyVersion := payload.policy.version
            incidentId := incidentId
            sourceRunId := lease.map (·.row.runId)
            basisRunId := latestDiagnosis db incidentId
            eventRevision := incident.eventRevision
            target := target
            snapshot := delayedSnapshot incident payload
            initialResult := payload
            status := .pending
            expiresAt := tx.now + 330 * second
            nextAttemptAt := tx.now + 30 * second
            runId := none
            result := none
            reason := none }] }

/-- `stale(conn, row, incident)`: the basis of a recheck has changed. -/
def stale (db : Db) (row : DelayedRecheck) (incident : Incident) : Bool :=
  incident.eventRevision ≠ row.eventRevision ||
    latestDiagnosis db row.incidentId ≠ row.basisRunId ||
    match row.sourceRunId.bind db.run? with
    | some source => source.invalidatedAt.isSome || source.status = .cancelled
    | none => false

/-- `UPDATE delayed_rechecks SET … WHERE delayed_id=…`. -/
def Db.updateDelayed (db : Db) (delayedId : String) (f : DelayedRecheck → DelayedRecheck) : Db :=
  { db with delayed := Table.updateWhere (fun d => d.delayedId = delayedId) f db.delayed }

/-- `terminal(conn, row, status, reason, result)`. -/
def endDelayed (db : Db) (row : DelayedRecheck) (status : DelayedStatus) (reason : String)
    (result : Option Json) : Db :=
  db.updateDelayed row.delayedId fun d =>
    { d with status := status, reason := some reason, result := result }

/-- The columns set in the run of a recheck whose basis has changed. -/
def Run.abandoned (now : Nat) (r : Run) : Run :=
  { r with
    status := .cancelled
    finishedAt := some now
    leaseOwner := none
    leaseExpiresAt := none }

/-- The interaction that carries out a delayed recheck. -/
def Run.delayedRecheck (env : Env) (tx : Tx) (row : DelayedRecheck) (incident : Incident) : Run :=
  let payload := Json.obj [("intent", .str "delayed_recheck"), ("delayed_id", .str row.delayedId)]
  let context := Json.obj [("message_id", .null), ("snapshot", row.snapshot)]
  let digest := env.requestDigest payload
  { Run.default tx tx.runId row.incidentId tx.threadId payload digest digest with
    runKind := .interaction
    workflowVersion := delayedWorkflow
    contextSnapshot := some context
    contextSha256 := some (env.requestDigest context)
    eventRevision := incident.eventRevision }

/-- The phases in which a recheck waits. -/
def occupiedPhases : List String := ["created", "awaiting_approval", "executing_remediation"]

/-- `UPDATE delayed_rechecks SET next_attempt_at=clock_timestamp()+interval '5 seconds'`. -/
def postponeDelayed (tx : Tx) (row : DelayedRecheck) (reason : Option String) (db : Db) : Db :=
  db.updateDelayed row.delayedId fun d =>
    { d with nextAttemptAt := tx.now + 5 * second, reason := reason.or d.reason }

/-- One candidate of `activate_due`. -/
def activateDue (env : Env) (tx : Tx) (delayedId : String) (db : Db) : Except Failure Db := do
  let row ← rowOr (db.delayed.find? fun d => d.delayedId = delayedId) (.keyError "status")
  let incident ← rowOr (db.incident? row.incidentId) (.keyError "event_revision")
  if row.status ≠ .pending ∧ row.status ≠ .running then pure db
  else if stale db row incident ∨ row.expiresAt ≤ tx.now then
    let invalid := stale db row incident
    let db := endDelayed db row (if invalid then .invalidated else .expired)
      (if invalid then "BASIS_CHANGED" else "DELAYED_RECHECK_EXPIRED") none
    match row.runId with
    | none => pure db
    | some runId =>
      pure { db with
        runs := Table.updateWhere (fun r => r.runId = runId ∧ r.active) (Run.abandoned tx.now)
          db.runs }
  else if row.status = .running then
    let run ← rowOr (row.runId.bind db.run?) (.keyError "status")
    if run.status.terminal then
      pure (endDelayed db row .unknown "DELAYED_TASK_ENDED_WITHOUT_RESULT" none)
    else pure (postponeDelayed tx row none db)
  else if (∃ r ∈ db.runs, r.incidentId = row.incidentId ∧ r.active) ∨
      db.unresolvedOperation row.incidentId ∨ incident.phase ∈ occupiedPhases then
    pure (postponeDelayed tx row (some "EVENT_BUSY") db)
  else
    let db ← db.insertRun (Run.delayedRecheck env tx row incident)
    pure (db.updateDelayed delayedId fun d =>
      { d with
        status := .running
        runId := some tx.runId
        reason := none
        nextAttemptAt := tx.now + 5 * second })

/-- `lease["input_payload"]["delayed_id"]`. -/
def Lease.delayedId (lease : Lease) : Option String :=
  match lease.row.inputPayload.get? "delayed_id" with
  | some (.str id) => some id
  | _ => none

/-- `locked_row(repo, lease, conn)`: the recheck of the leased run, ended here if its basis
has changed or its time is over. -/
def lockedDelayed (tx : Tx) (lease : Lease) (db : Db) : Except Failure (DelayedRecheck × Db) := do
  let incident ← rowOr (db.incident? lease.row.incidentId) (.keyError "event_revision")
  let row ← rowOr (db.delayed.find? fun d =>
    some d.delayedId = lease.delayedId ∧ d.runId = some lease.row.runId ∧
    d.incidentId = lease.row.incidentId) (.valueError "DELAYED_TASK_NOT_BOUND")
  let invalid := stale db row incident
  if row.status = .running ∧ (invalid ∨ row.expiresAt ≤ tx.now) then
    let status := if invalid then DelayedStatus.invalidated else .expired
    let reason := if invalid then "BASIS_CHANGED" else "DELAYED_RECHECK_EXPIRED"
    pure ({ row with status := status, reason := some reason },
      endDelayed db row status reason none)
  else pure (row, db)

/-- The first transaction of `execute_delayed_recheck`. -/
def inspectDelayed (tx : Tx) (lease : Lease) (db : Db) : Except Failure (DelayedRecheck × Db) := do
  let _ ← fence tx lease db
  lockedDelayed tx lease db

/-- The transaction of `execute_delayed_recheck` for a lease that may start nothing. -/
def exhaustDelayed (tx : Tx) (lease : Lease) (db : Db) : Except Failure Db := do
  let _ ← fence tx lease db
  let (row, db) ← lockedDelayed tx lease db
  if row.status = .running then pure (endDelayed db row .unknown "ATTEMPTS_EXHAUSTED" none)
  else pure db

/-- What a delayed sample observed: the six fields of its target, as far as they were
seen, its identity if that is complete, its verdict and the record kept of it. -/
structure DelayedSample where
  seen : List (Option Json)
  identity : Option ObservationTarget
  status : SampleStatus
  result : Json
  deriving DecidableEq, Inhabited

/-- The fields of a target, in the order in which `target_changed` compares them. -/
def ObservationTarget.fields (t : ObservationTarget) : List Json :=
  [t.digest, t.deploymentUid, t.deploymentGeneration, t.serviceUid, t.selector, t.ports]

/-- `target_changed(expected, observed)`. -/
def targetChanged (expected : ObservationTarget) (sample : DelayedSample) : Bool :=
  (expected.fields.zip sample.seen).any fun field =>
    match field.2 with
    | some value => value != .null && field.1 != .null && field.1 != value
    | none => false

/-- The verdict on a delayed sample. -/
def delayedVerdict (expected : ObservationTarget) (sample : DelayedSample) :
    DelayedStatus × String :=
  if targetChanged expected sample ∨ (sample.identity.isSome ∧ sample.identity ≠ some expected) then
    (.invalidated, "TARGET_CHANGED")
  else if sample.identity.isNone then (.unknown, "TARGET_UNBOUND")
  else match sample.status with
    | .passed => (.passed, "DELAYED_SAMPLE_PASSED")
    | .failed => (.relapsed, "INITIAL_PASS_THEN_FAILURE")
    | _ => (.unknown, "DELAYED_SAMPLE_UNKNOWN")

/-- The last transaction of `execute_delayed_recheck`: the sample decides a recheck that is
still running, and is only kept by one that has ended since. -/
def publishDelayed (tx : Tx) (lease : Lease) (sample : DelayedSample) (db : Db) :
    Except Failure Db := do
  let _ ← fence tx lease db
  let (row, db) ← lockedDelayed tx lease db
  if row.status = .running then
    let verdict := delayedVerdict row.target sample
    pure (endDelayed db row verdict.1 verdict.2 (some sample.result))
  else pure (endDelayed db row row.status (row.reason.getD "") (some sample.result))

/-! ### Observation windows -/

/-- The first statement of `ObservationStore.transaction`: the fence of the lease, if there
is one. -/
def ownsObservation (tx : Tx) (lease : Option Lease) (db : Db) : Except Failure PUnit :=
  match lease with
  | some lease => assertOwned tx lease db
  | none => pure ⟨⟩

/-- `UPDATE observation_windows SET … WHERE observation_key=…`. -/
def Db.updateWindow (db : Db) (key : String) (f : Window → Window) : Db :=
  { db with windows := Table.updateWhere (fun w => w.observationKey = key) f db.windows }

/-- `ObservationStore.open(initial)`: the window of the key, now owned by `token`. -/
def openWindow (tx : Tx) (lease : Option Lease) (key incidentId token : String)
    (initial : WindowPayload) (db : Db) : Except Failure (WindowPayload × Db) := do
  ownsObservation tx lease db
  match db.windows.find? fun w => w.observationKey = key with
  | some window =>
    pure (window.payload, db.updateWindow key fun w => { w with ownerToken := token })
  | none =>
    pure (initial, { db with
      windows := db.windows ++
        [⟨key, incidentId, lease.map (·.row.runId), token, initial⟩] })

/-- `ObservationStore.save(payload)`: only the owner of the window saves it, and a passed
window schedules its recheck. -/
def saveWindow (tx : Tx) (lease : Option Lease) (key incidentId token delayedId : String)
    (payload : WindowPayload) (db : Db) : Except Failure Db := do
  ownsObservation tx lease db
  raiseIf (db.windows.any (fun w => w.observationKey = key ∧ w.ownerToken = token) = false)
    .leaseLost
  let db := db.updateWindow key fun w => { w with payload := payload }
  if payload.status = .passed then schedule tx delayedId key incidentId lease payload db
  else pure db

/-! ### Budgets -/

/-- `RunBudget.edit`: the ledger of the run, changed under its lease. -/
def editBudget (tx : Tx) (lease : Lease) (initial : Json) (edit : Json → Json) (db : Db) :
    Except Failure Db := do
  let _ ← fence tx lease db
  let runId := lease.row.runId
  let budgets := if db.budgets.any (fun b => b.runId = runId) then db.budgets
    else db.budgets ++ [⟨runId, initial⟩]
  pure { db with
    budgets := Table.updateWhere (fun b => b.runId = runId)
      (fun b => { b with payload := edit b.payload }) budgets }

/-! ### How a recheck evolves -/

/-- The columns of a recheck that no statement updates. -/
def DelayedRecheck.fixed (d : DelayedRecheck) : DelayedRecheck :=
  { d with status := .pending, nextAttemptAt := 0, runId := none, result := none, reason := none }

/-- The columns of a recheck that are unique. -/
def DelayedRecheck.policyKey (d : DelayedRecheck) : String × String :=
  (d.observationKey, d.policyVersion)

/-- The statuses that a recheck does not leave. -/
def DelayedStatus.ended : DelayedStatus → Bool
  | .pending | .running => false
  | _ => true

/-- How a recheck evolves as long as no run is inserted for it. -/
structure DelayedRecheck.Keeps (a b : DelayedRecheck) : Prop where
  fixed : b.fixed = a.fixed
  ended : a.status.ended = true → b.status = a.status
  runId : b.runId = a.runId
  pending : b.status = .pending → a.status = .pending
  running : b.status = .running → a.status = .running

namespace DelayedRecheck.Keeps

variable {a b c : DelayedRecheck}

theorem refl (a : DelayedRecheck) : a.Keeps a := ⟨rfl, fun _ => rfl, rfl, id, id⟩

theorem trans (h : a.Keeps b) (h' : b.Keeps c) : a.Keeps c where
  fixed := h'.fixed.trans h.fixed
  ended ha := by rw [h'.ended (by rwa [h.ended ha]), h.ended ha]
  runId := h'.runId.trans h.runId
  pending hc := h.pending (h'.pending hc)
  running hc := h.running (h'.running hc)

/-- A recheck that has ended now keeps what it must, if it had not ended otherwise. -/
theorem of_ended (hfixed : b.fixed = a.fixed) (hrun : b.runId = a.runId)
    (hended : b.status.ended = true) (hstatus : a.status.ended = true → b.status = a.status) :
    a.Keeps b :=
  ⟨hfixed, hstatus, hrun, fun h => by simp [h, DelayedStatus.ended] at hended,
    fun h => by simp [h, DelayedStatus.ended] at hended⟩

theorem delayedId (h : a.Keeps b) : b.delayedId = a.delayedId := by
  have := congrArg DelayedRecheck.delayedId h.fixed
  exact this

theorem policyKey (h : a.Keeps b) : b.policyKey = a.policyKey := by
  have := congrArg DelayedRecheck.policyKey h.fixed
  exact this

end DelayedRecheck.Keeps

/-- How a recheck evolves: a pending one may be bound to the run that carries it out, what has
ended has ended as it did, and what is bound is bound for good. -/
structure DelayedRecheck.Advances (a b : DelayedRecheck) : Prop where
  fixed : b.fixed = a.fixed
  ended : a.status.ended = true → b.status = a.status
  runId : ∀ id ∈ a.runId, b.runId = some id
  bound : b.runId = a.runId ∨ a.status = .pending ∧ a.runId = none
  pending : b.status = .pending → a.status = .pending

namespace DelayedRecheck.Advances

variable {a b c : DelayedRecheck}

theorem refl (a : DelayedRecheck) : a.Advances a := ⟨rfl, fun _ => rfl, fun _ h => h, Or.inl rfl, id⟩

theorem trans (h : a.Advances b) (h' : b.Advances c) : a.Advances c where
  fixed := h'.fixed.trans h.fixed
  ended ha := by rw [h'.ended (by rwa [h.ended ha]), h.ended ha]
  runId id hid := h'.runId id (h.runId id hid)
  bound := by
    rcases h'.bound with hbc | ⟨hpending, hnone⟩
    · rcases h.bound with hab | hopen
      · exact Or.inl (hbc.trans hab)
      · exact Or.inr hopen
    · refine Or.inr ⟨h.pending hpending, ?_⟩
      cases hid : a.runId with
      | none => rfl
      | some id => rw [h.runId id hid] at hnone; cases hnone
  pending hc := h.pending (h'.pending hc)

end DelayedRecheck.Advances

theorem DelayedRecheck.Keeps.advances {a b : DelayedRecheck} (h : a.Keeps b) : a.Advances b :=
  ⟨h.fixed, h.ended, fun _ hid => h.runId.trans hid, Or.inl h.runId, h.pending⟩

/-! ### What a committed transaction did -/

section Inversion

variable {env : Env} {tx : Tx} {lease : Lease} {db db' : Db}

/-- A transaction changed nothing but the side tables, and bound no recheck to a run. -/
structure SideOnly (db db' : Db) : Prop where
  frame : ∃ delayed windows rechecks budgets, db' = { db with
    delayed := delayed, windows := windows, rechecks := rechecks, budgets := budgets }
  delayed : Table.Grows DelayedRecheck.Keeps (fun d => d.runId = none) db.delayed db'.delayed
  keyed : Table.Keyed DelayedRecheck.delayedId db.delayed →
    Table.Keyed DelayedRecheck.delayedId db'.delayed
  single : Table.Keyed DelayedRecheck.policyKey db.delayed →
    Table.Keyed DelayedRecheck.policyKey db'.delayed

/-- A change of the other side tables leaves the rechecks alone. -/
theorem SideOnly.of_delayed {windows : List Window} {rechecks : List Recheck}
    {budgets : List Budget} :
    SideOnly db { db with windows := windows, rechecks := rechecks, budgets := budgets } :=
  ⟨⟨db.delayed, windows, rechecks, budgets, rfl⟩, .refl DelayedRecheck.Keeps.refl _, id, id⟩

theorem SideOnly.refl (db : Db) : SideOnly db db := SideOnly.of_delayed

theorem sideOnly_updateDelayed {delayedId : String} {f : DelayedRecheck → DelayedRecheck}
    (hf : ∀ d ∈ db.delayed, d.delayedId = delayedId → d.Keeps (f d)) :
    SideOnly db (db.updateDelayed delayedId f) where
  frame := ⟨_, db.windows, db.rechecks, db.budgets, rfl⟩
  delayed := .updateWhere DelayedRecheck.Keeps.refl fun d hd hp => hf d hd (by simpa using hp)
  keyed h := h.updateWhere fun d hd hp => (hf d hd (by simpa using hp)).delayedId
  single h := h.updateWhere fun d hd hp => (hf d hd (by simpa using hp)).policyKey

/-- The end of a recheck that had not ended, or that had ended so, keeps what it must. -/
theorem endDelayed_sideOnly (hkeyed : Table.Keyed DelayedRecheck.delayedId db.delayed)
    {row : DelayedRecheck} (hrow : row ∈ db.delayed) {status : DelayedStatus} {reason : String}
    {result : Option Json} (hended : status.ended = true)
    (hstatus : row.status.ended = true → status = row.status) :
    SideOnly db (endDelayed db row status reason result) := by
  refine sideOnly_updateDelayed fun d hd hid => ?_
  obtain rfl := hkeyed.eq_of_key hd hrow hid
  exact .of_ended rfl rfl hended hstatus

/-- A recheck that is postponed keeps its status. -/
theorem postponeDelayed_sideOnly {row : DelayedRecheck} {reason : Option String} :
    SideOnly db (postponeDelayed tx row reason db) :=
  sideOnly_updateDelayed fun _ _ _ => ⟨rfl, fun _ => rfl, rfl, id, id⟩

theorem schedule_sideOnly {delayedId key incidentId : String} {lease : Option Lease}
    {payload : WindowPayload} (h : schedule tx delayedId key incidentId lease payload db = .ok db') :
    SideOnly db db' := by
  unfold schedule at h
  split at h
  · exact pure_eq_ok.1 h ▸ SideOnly.refl db
  · split at h
    · exact pure_eq_ok.1 h ▸ SideOnly.refl db
    · simp only [bind_eq_ok, rowOr_eq_ok] at h
      obtain ⟨incident, -, h⟩ := h
      split at h
      · exact pure_eq_ok.1 h ▸ SideOnly.refl db
      · rename_i hkey
        simp only [bind_eq_ok, raiseIf_eq_ok, pure_eq_ok, not_exists, not_and] at h
        obtain ⟨-, hid, rfl⟩ := h
        refine ⟨⟨_, db.windows, db.rechecks, db.budgets, rfl⟩,
          .insert DelayedRecheck.Keeps.refl (by rfl) _, fun hk => hk.insert hid,
          fun hk => hk.insert fun d hd he => hkey ?_⟩
        simp only [DelayedRecheck.policyKey, Prod.mk.injEq] at he
        simpa using ⟨d, hd, he⟩

/-- What the store relies on in the table of rechecks: its keys are unique, and what has not
been started has no run. -/
structure Db.Rechecks (db : Db) : Prop where
  keyed : Table.Keyed DelayedRecheck.delayedId db.delayed
  single : Table.Keyed DelayedRecheck.policyKey db.delayed
  unstarted : ∀ d ∈ db.delayed, d.status = .pending → d.runId = none

theorem SideOnly.rechecks (h : SideOnly db db') (hr : db.Rechecks) : db'.Rechecks where
  keyed := h.keyed hr.keyed
  single := h.single hr.single
  unstarted d' hd' hpending := by
    rcases h.delayed.cases_of_mem hd' with ⟨d, hd, hkeeps⟩ | hnone
    · rw [hkeeps.runId]
      exact hr.unstarted d hd (hkeeps.pending hpending)
    · exact hnone

/-- **What `activate_due` does**: it settles or postpones a recheck, ends the run of a
recheck whose basis has changed, or inserts the interaction that carries one out. -/
theorem activateDue_eq_ok {delayedId : String} (hr : db.Rechecks)
    (h : activateDue env tx delayedId db = .ok db') :
    SideOnly db db' ∨
    (∃ d ∈ db.delayed, d.delayedId = delayedId ∧ ∃ runId ∈ d.runId, ∃ db₁, SideOnly db db₁ ∧
      db' = { db₁ with
        runs := Table.updateWhere (fun r => r.runId = runId ∧ r.active) (Run.abandoned tx.now)
          db₁.runs }) ∨
    (∃ row incident db₁, row ∈ db.delayed ∧ row.delayedId = delayedId ∧ row.status = .pending ∧
      db.incident? row.incidentId = some incident ∧ stale db row incident = false ∧
      tx.now < row.expiresAt ∧
      ¬ (∃ r ∈ db.runs, r.incidentId = row.incidentId ∧ r.active) ∧
      (¬ db.unresolvedOperation row.incidentId ∧ incident.phase ∉ occupiedPhases) ∧
      db.insertRun (Run.delayedRecheck env tx row incident) = .ok db₁ ∧
      db' = db₁.updateDelayed delayedId fun d =>
        { d with
          status := .running
          runId := some tx.runId
          reason := none
          nextAttemptAt := tx.now + 5 * second }) := by
  simp only [activateDue, bind_eq_ok, rowOr_eq_ok] at h
  obtain ⟨row, hrow, incident, hincident, h⟩ := h
  have hmem := List.mem_of_find?_eq_some hrow
  have hid : row.delayedId = delayedId := by simpa using List.find?_some hrow
  have hopen : ∀ {status : DelayedStatus}, ¬ (row.status ≠ .pending ∧ row.status ≠ .running) →
      row.status.ended = true → status = row.status := by
    intro status hstatus hended
    cases hs : row.status <;> simp_all [DelayedStatus.ended]
  split at h
  · exact Or.inl (pure_eq_ok.1 h ▸ SideOnly.refl db)
  · rename_i hstatus
    split at h
    · have hend : ∀ status reason, DelayedStatus.ended status = true →
          SideOnly db (endDelayed db row status reason none) := fun status reason hended =>
        endDelayed_sideOnly hr.keyed hmem hended (hopen hstatus)
      have hside := hend (if stale db row incident then .invalidated else .expired)
        (if stale db row incident then "BASIS_CHANGED" else "DELAYED_RECHECK_EXPIRED")
        (by split <;> rfl)
      split at h
      · exact Or.inl (pure_eq_ok.1 h ▸ hside)
      · rename_i runId hrun
        exact Or.inr (Or.inl ⟨row, hmem, hid, runId, hrun, _, hside, (pure_eq_ok.1 h).symm⟩)
    · rename_i hvalid
      split at h
      · simp only [bind_eq_ok, rowOr_eq_ok] at h
        obtain ⟨run, -, h⟩ := h
        split at h
        · exact Or.inl (pure_eq_ok.1 h ▸ endDelayed_sideOnly hr.keyed hmem rfl (hopen hstatus))
        · exact Or.inl (pure_eq_ok.1 h ▸ postponeDelayed_sideOnly)
      · rename_i hrunning
        split at h
        · exact Or.inl (pure_eq_ok.1 h ▸ postponeDelayed_sideOnly)
        · rename_i hbusy
          simp only [bind_eq_ok, pure_eq_ok] at h
          obtain ⟨db₁, hinsert, rfl⟩ := h
          have hpending : row.status = .pending := by
            by_contra hne
            exact hstatus ⟨hne, hrunning⟩
          refine Or.inr (Or.inr ⟨row, incident, db₁, hmem, hid, hpending, hincident, ?_, ?_,
            fun hb => hbusy (Or.inl hb), ⟨fun hb => hbusy (Or.inr (Or.inl hb)),
              fun hb => hbusy (Or.inr (Or.inr hb))⟩, hinsert, rfl⟩)
          · exact Bool.eq_false_iff.2 fun hs => hvalid (Or.inl hs)
          · exact not_le.1 fun hs => hvalid (Or.inr hs)

/-- **What `locked_row` finds**: the recheck that is bound to the leased run, as it is, or
ended because its basis has changed or its time is over. -/
theorem lockedDelayed_eq_ok {row : DelayedRecheck}
    (h : lockedDelayed tx lease db = .ok (row, db')) :
    ∃ d ∈ db.delayed, ∃ incident, db.incident? lease.row.incidentId = some incident ∧
      some d.delayedId = lease.delayedId ∧ d.runId = some lease.row.runId ∧
      d.incidentId = lease.row.incidentId ∧
      ((d.status = .running ∧ (row.status = .invalidated ∨ row.status = .expired) ∧
          row.delayedId = d.delayedId ∧
          db' = endDelayed db d row.status (row.reason.getD "") none) ∨
        (row = d ∧ db' = db ∧
          (d.status = .running → stale db d incident = false ∧ tx.now < d.expiresAt))) := by
  simp only [lockedDelayed, bind_eq_ok, rowOr_eq_ok] at h
  obtain ⟨incident, hincident, d, hd, h⟩ := h
  have hp := List.find?_some hd
  simp only [decide_eq_true_eq] at hp
  refine ⟨d, List.mem_of_find?_eq_some hd, incident, hincident, hp.1, hp.2.1, hp.2.2, ?_⟩
  split at h
  · rename_i hover
    obtain ⟨rfl, rfl⟩ := Prod.mk.inj (pure_eq_ok.1 h)
    refine Or.inl ⟨hover.1, ?_, rfl, rfl⟩
    by_cases hs : stale db d incident = true <;> simp [hs]
  · rename_i hvalid
    obtain ⟨rfl, rfl⟩ := Prod.mk.inj (pure_eq_ok.1 h)
    refine Or.inr ⟨rfl, rfl, fun hrunning => ⟨?_, ?_⟩⟩
    · exact Bool.eq_false_iff.2 fun hs => hvalid ⟨hrunning, Or.inl hs⟩
    · exact not_le.1 fun hs => hvalid ⟨hrunning, Or.inr hs⟩

/-- After `locked_row`, the recheck with the identifier of the returned row has its status,
and was started. -/
theorem lockedDelayed_sideOnly (hr : db.Rechecks) {row : DelayedRecheck}
    (h : lockedDelayed tx lease db = .ok (row, db')) :
    SideOnly db db' ∧ row.status ≠ .pending ∧
      ∃ d' ∈ db'.delayed, d'.delayedId = row.delayedId ∧ d'.status = row.status := by
  obtain ⟨d, hd, incident, -, -, hrun, -, ⟨hrunning, hstatus, hid, rfl⟩ | ⟨rfl, rfl, -⟩⟩ :=
    lockedDelayed_eq_ok h
  · have hended : row.status.ended = true := by
      rcases hstatus with hs | hs <;> rw [hs] <;> rfl
    refine ⟨endDelayed_sideOnly hr.keyed hd hended fun h => by simp [hrunning, DelayedStatus.ended] at h,
      fun h => by simp [h, DelayedStatus.ended] at hended, ?_⟩
    exact ⟨_, Table.mem_updateWhere_of_pos hd (by simp), hid.symm, rfl⟩
  · refine ⟨SideOnly.refl _, fun hpending => ?_, row, hd, rfl, rfl⟩
    simp [hr.unstarted row hd hpending] at hrun

/-- Side effects compose. -/
theorem SideOnly.trans {db₁ db₂ db₃ : Db} (h : SideOnly db₁ db₂) (h' : SideOnly db₂ db₃) :
    SideOnly db₁ db₃ where
  frame := by
    obtain ⟨⟨d, w, c, b, rfl⟩, -⟩ := h
    obtain ⟨⟨d', w', c', b', rfl⟩, -⟩ := h'
    exact ⟨d', w', c', b', rfl⟩
  delayed := h.delayed.trans (fun _ _ _ => .trans) (fun _ _ ha hab => hab.runId.trans ha) h'.delayed
  keyed := h'.keyed ∘ h.keyed
  single := h'.single ∘ h.single

theorem inspectDelayed_eq_ok (hr : db.Rechecks) {row : DelayedRecheck}
    (h : inspectDelayed tx lease db = .ok (row, db')) :
    (∃ row, fence tx lease db = .ok row) ∧ SideOnly db db' := by
  simp only [inspectDelayed, bind_eq_ok] at h
  obtain ⟨r, hrow, h⟩ := h
  exact ⟨⟨r, hrow⟩, (lockedDelayed_sideOnly hr h).1⟩

theorem exhaustDelayed_eq_ok (hr : db.Rechecks) (h : exhaustDelayed tx lease db = .ok db') :
    (∃ row, fence tx lease db = .ok row) ∧ SideOnly db db' := by
  simp only [exhaustDelayed, bind_eq_ok] at h
  obtain ⟨r, hrow, ⟨row, db₁⟩, hlocked, h⟩ := h
  obtain ⟨hside, -, d, hd, hid, hstatus⟩ := lockedDelayed_sideOnly hr hlocked
  refine ⟨⟨r, hrow⟩, hside.trans ?_⟩
  split at h
  · rename_i hrunning
    have hrunning : row.status = .running := hrunning
    refine pure_eq_ok.1 h ▸ sideOnly_updateDelayed fun e he heid => ?_
    obtain rfl := (hside.rechecks hr).keyed.eq_of_key he hd (heid.trans hid.symm)
    exact .of_ended rfl rfl rfl fun hended => by
      simp [hstatus, hrunning, DelayedStatus.ended] at hended
  · exact pure_eq_ok.1 h ▸ SideOnly.refl db₁

theorem delayedVerdict_ended (expected : ObservationTarget) (sample : DelayedSample) :
    (delayedVerdict expected sample).1.ended = true := by
  unfold delayedVerdict
  split
  · rfl
  · split
    · rfl
    · split <;> rfl

theorem publishDelayed_eq_ok (hr : db.Rechecks) {sample : DelayedSample}
    (h : publishDelayed tx lease sample db = .ok db') :
    (∃ row, fence tx lease db = .ok row) ∧ SideOnly db db' := by
  simp only [publishDelayed, bind_eq_ok] at h
  obtain ⟨r, hrow, ⟨row, db₁⟩, hlocked, h⟩ := h
  obtain ⟨hside, hstarted, d, hd, hid, hstatus⟩ := lockedDelayed_sideOnly hr hlocked
  have hrow' : ∀ e ∈ db₁.delayed, e.delayedId = row.delayedId → e = d := fun e he heid =>
    (hside.rechecks hr).keyed.eq_of_key he hd (heid.trans hid.symm)
  refine ⟨⟨r, hrow⟩, hside.trans ?_⟩
  split at h
  · rename_i hrunning
    have hrunning : row.status = .running := hrunning
    have hended := delayedVerdict_ended row.target sample
    refine pure_eq_ok.1 h ▸ sideOnly_updateDelayed fun e he heid => ?_
    obtain rfl := hrow' e he heid
    exact .of_ended rfl rfl hended fun hended => by
      simp [hstatus, hrunning, DelayedStatus.ended] at hended
  · rename_i hrunning
    refine pure_eq_ok.1 h ▸ sideOnly_updateDelayed fun e he heid => ?_
    obtain rfl := hrow' e he heid
    exact ⟨rfl, fun _ => hstatus.symm, rfl, fun h => absurd h hstarted, fun h => absurd h hrunning⟩

/-- An observation is owned by its lease, if it has one. -/
theorem ownsObservation_eq_ok {lease : Option Lease} {u : PUnit}
    (h : ownsObservation tx lease db = .ok u) : ∀ l ∈ lease, ∃ row, fence tx l db = .ok row := by
  intro l hl
  cases hl
  simp only [ownsObservation, assertOwned, bind_eq_ok] at h
  obtain ⟨row, hrow, -⟩ := h
  exact ⟨row, hrow⟩

theorem openWindow_eq_ok {lease : Option Lease} {key incidentId token : String}
    {initial payload : WindowPayload}
    (h : openWindow tx lease key incidentId token initial db = .ok (payload, db')) :
    (∀ l ∈ lease, ∃ row, fence tx l db = .ok row) ∧ SideOnly db db' := by
  simp only [openWindow, bind_eq_ok] at h
  obtain ⟨_, howns, h⟩ := h
  refine ⟨ownsObservation_eq_ok howns, ?_⟩
  split at h <;> obtain ⟨-, rfl⟩ := Prod.mk.inj (pure_eq_ok.1 h)
  · exact .of_delayed
  · exact .of_delayed

theorem saveWindow_eq_ok {lease : Option Lease} {key incidentId token delayedId : String}
    {payload : WindowPayload}
    (h : saveWindow tx lease key incidentId token delayedId payload db = .ok db') :
    (∀ l ∈ lease, ∃ row, fence tx l db = .ok row) ∧ SideOnly db db' := by
  simp only [saveWindow, bind_eq_ok, raiseIf_eq_ok] at h
  obtain ⟨_, howns, -, -, h⟩ := h
  refine ⟨ownsObservation_eq_ok howns, ?_⟩
  have hside : SideOnly db (db.updateWindow key fun w => { w with payload := payload }) :=
    .of_delayed
  split at h
  · exact hside.trans (schedule_sideOnly h)
  · exact pure_eq_ok.1 h ▸ hside

theorem editBudget_eq_ok {initial : Json} {edit : Json → Json}
    (h : editBudget tx lease initial edit db = .ok db') :
    (∃ row, fence tx lease db = .ok row) ∧ SideOnly db db' := by
  simp only [editBudget, bind_eq_ok, pure_eq_ok] at h
  obtain ⟨row, hrow, rfl⟩ := h
  exact ⟨⟨row, hrow⟩, .of_delayed⟩

end Inversion

end IncidentAgent
