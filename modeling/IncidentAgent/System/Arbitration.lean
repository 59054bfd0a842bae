import IncidentAgent.System.Arbiter
import IncidentAgent.System.Invariant

/-!
# The store refines the arbiter

`Db.work` reads the work on a diagnosis from the tables. A transaction moves it by one step
of the arbiter (`transact_moves`): a quiet one leaves it alone, and each of the other eight
is the step of its name. So in every reachable state the work on each diagnosis is sound
(`Sys.Reachable.settled`), and over a run it goes by steps of the arbiter.
-/

namespace IncidentAgent

/-! ### The work on a diagnosis -/

/-- **The work on a diagnosis**, read from the store. -/
def Db.work (db : Db) (r : Run) : Work where
  status := r.status
  stop := r.stopRequested
  invalidated := r.invalidatedAt.isSome
  current := decide ((db.incident? r.incidentId).map (·.eventRevision) = some r.eventRevision)
  write := (db.operation? r.runId).map (·.state)

/-- The work depends on the core of the run, on the revision of its incident and on the
state of its write. -/
theorem Db.work_congr {db db' : Db} {r r' : Run} (hcore : r'.core = r.core)
    (hid : r'.runId = r.runId) (hinc : r'.incidentId = r.incidentId)
    (hrev : (db'.incident? r.incidentId).map (·.eventRevision) =
      (db.incident? r.incidentId).map (·.eventRevision))
    (hop : (db'.operation? r.runId).map (·.state) = (db.operation? r.runId).map (·.state)) :
    db'.work r' = db.work r := by
  simp only [Run.core, Prod.mk.injEq] at hcore
  obtain ⟨hstatus, hstop, hinv, hevent⟩ := hcore
  simp only [Db.work, hstatus, hstop, hinv, hevent, hid, hinc, hrev, hop]

/-- **The work moves by one step**, on each diagnosis that was there; a new one is fresh. -/
def Db.Moves (db db' : Db) : Prop :=
  ∀ r' ∈ db'.runs, r'.runKind = .diagnosis →
    (∃ r ∈ db.runs, r.runId = r'.runId ∧ r.runKind = .diagnosis ∧
      Work.Step (db.work r) (db'.work r')) ∨
    ((∀ r ∈ db.runs, r.runId ≠ r'.runId) ∧ db'.work r' = Work.fresh)

/-- The work rests: it is the same on each diagnosis that was there. -/
def Db.Rests (db db' : Db) : Prop :=
  ∀ r' ∈ db'.runs, r'.runKind = .diagnosis →
    (∃ r ∈ db.runs, r.runId = r'.runId ∧ r.runKind = .diagnosis ∧ db'.work r' = db.work r) ∨
    ((∀ r ∈ db.runs, r.runId ≠ r'.runId) ∧ db'.work r' = Work.fresh)

theorem Db.Rests.moves {db db' : Db} (h : db.Rests db') : db.Moves db' := by
  intro r' hr' hkind
  rcases h r' hr' hkind with ⟨r, hr, hid, hk, hwork⟩ | hnew
  · exact Or.inl ⟨r, hr, hid, hk, hwork ▸ .idle _⟩
  · exact Or.inr hnew

/-! ### Quiet transactions -/

section Quiet

variable {env : Env} {tx : Tx} {db db' : Db}

/-- A quiet edit writes no operation. -/
theorem Db.Edit.quiet_operations (h : Db.Edit env tx true db db') :
    db'.operations = db.operations := by
  cases h with
  | operations hq _ => cases hq
  | operation hq _ _ => cases hq
  | side h =>
    obtain ⟨⟨_, _, _, _, rfl⟩, -⟩ := h
    rfl
  | _ => rfl

/-- A quiet edit does not raise the revision of an incident that is there. -/
theorem Db.Edit.quiet_incident (h : Db.Edit env tx true db db') {id : String}
    (hid : ∃ i ∈ db.incidents, i.incidentId = id) :
    (db'.incident? id).map (·.eventRevision) = (db.incident? id).map (·.eventRevision) := by
  have hfound : ∃ i, db.incident? id = some i := by
    obtain ⟨i, hi, he⟩ := hid
    exact Option.isSome_iff_exists.1 (List.find?_isSome.2 ⟨i, hi, by simpa using he⟩)
  cases h with
  | @incidents p f h hq =>
    unfold Db.incident?
    rw [Table.find?_updateWhere (fun i _ => by simp [(h i).incidentId]), Option.map_map]
    congr 1
    funext i
    by_cases hp : p i = true
    · simp [Function.comp, hp, hq rfl i]
    · simp [Function.comp, hp]
  | incident h =>
    obtain ⟨i, hi⟩ := hfound
    unfold Db.incident? at hi ⊢
    simp [List.find?_append, hi]
  | first h _ =>
    obtain ⟨i, hi⟩ := hfound
    unfold Db.incident? at hi ⊢
    simp [List.find?_append, hi]
  | side h =>
    obtain ⟨⟨_, _, _, _, rfl⟩, -⟩ := h
    rfl
  | _ => rfl

/-- A diagnosis after a quiet edit was there, with the same core, or is new. -/
theorem Db.Edit.quiet_runs (h : Db.Edit env tx true db db') {r' : Run} (hr' : r' ∈ db'.runs)
    (hkind : r'.runKind = .diagnosis) :
    (∃ r ∈ db.runs, r'.fixed = r.fixed ∧ r'.core = r.core) ∨
      ((∀ r ∈ db.runs, r.runId ≠ r'.runId) ∧ db.Opens env tx r' ∧
        (db'.incident? r'.incidentId).map (·.eventRevision) = some r'.eventRevision) := by
  cases h with
  | @runs p f h hq =>
    obtain ⟨r, hr, rfl⟩ := Table.mem_updateWhere.1 hr'
    refine Or.inl ⟨r, hr, ?_⟩
    by_cases hp : p r = true
    · simp only [hp, if_true] at hkind ⊢
      exact ⟨(h r hr hp).fixed, hq rfl r hr hp ((h r hr hp).runKind.symm.trans hkind)⟩
    · simp [hp]
  | @first incidentId _ threadId payload _ _ hi hr =>
    rcases List.mem_append.1 hr' with hmem | hmem
    · exact Or.inl ⟨r', hmem, rfl, rfl⟩
    · obtain rfl := List.mem_singleton.1 hmem
      refine Or.inr ⟨fun r hmem => (hr.2.1 r hmem).1, .first hi, ?_⟩
      have hnone : db.incidents.find? (fun i => i.incidentId = incidentId) = none :=
        List.find?_eq_none.2 fun i hmem => by simpa [Incident.initial] using (hi i hmem).1
      show ((db.incidents ++ [Incident.initial incidentId threadId payload]).find?
        fun i => i.incidentId = incidentId).map (·.eventRevision) = some 0
      rw [List.find?_append, hnone]
      simp [Incident.initial]
  | @run r ho hr =>
    rcases List.mem_append.1 hr' with hmem | hmem
    · exact Or.inl ⟨r', hmem, rfl, rfl⟩
    · obtain rfl := List.mem_singleton.1 hmem
      refine Or.inr ⟨fun r hmem => (hr.2.1 r hmem).1, ho, ?_⟩
      cases ho with
      | first hi =>
        obtain ⟨i, hi', he⟩ := hr.home
        exact absurd he (hi i hi').1
      | round h => exact congrArg (Option.map (·.eventRevision)) h.found
      | interaction hinteraction _ _ _ _ _ => simp [hinteraction] at hkind
  | side h =>
    obtain ⟨⟨_, _, _, _, rfl⟩, -⟩ := h
    exact Or.inl ⟨r', hr', rfl, rfl⟩
  | _ => exact Or.inl ⟨r', hr', rfl, rfl⟩

/-- **A quiet edit leaves the work alone.** -/
theorem Db.Edit.rests (h : Db.Edit env tx true db db') (hs : db.History env) : db.Rests db' := by
  intro r' hr' hkind
  have hop : ∀ id, db'.operation? id = db.operation? id := by
    intro id
    simp only [Db.operation?, h.quiet_operations]
  rcases h.quiet_runs hr' hkind with ⟨r, hr, hfixed, hcore⟩ | ⟨hnew, hopens, hrev⟩
  · have hid : r'.runId = r.runId := column_eq hfixed Run.runId fun _ => rfl
    have hinc : r'.incidentId = r.incidentId := column_eq hfixed Run.incidentId fun _ => rfl
    have hk : r'.runKind = r.runKind := column_eq hfixed Run.runKind fun _ => rfl
    exact Or.inl ⟨r, hr, hid.symm, hk.symm.trans hkind,
      Db.work_congr hcore hid hinc (h.quiet_incident (hs.homes r hr)) (by rw [hop])⟩
  · refine Or.inr ⟨hnew, ?_⟩
    have hnone : db.operation? r'.runId = none := by
      refine List.find?_eq_none.2 fun o ho => ?_
      obtain ⟨r, hr, hid, -⟩ := hs.writes o ho
      simpa using fun he => hnew r hr (hid.trans he)
    have hstart : r'.status = .queued ∧ r'.stopRequested = false ∧ r'.invalidatedAt = none := by
      cases hopens with
      | first _ => exact ⟨rfl, rfl, rfl⟩
      | round _ => exact ⟨rfl, rfl, rfl⟩
      | interaction hinteraction _ _ _ _ _ => simp [hinteraction] at hkind
    simp [Db.work, Work.fresh, hop, hnone, hrev, hstart]

/-- **Quiet edits leave the work alone.** -/
theorem Db.Edits.rests (h : Db.Edits env tx true db db') (hs : db.Sound env) : db.Rests db' := by
  induction h with
  | refl => exact fun r hr hkind => Or.inl ⟨r, hr, rfl, hkind, rfl⟩
  | @tail db₁ db₂ h₁ h ih =>
    have hs₁ : db₁.Sound env := Db.Edits.sound h₁ hs
    intro r₂ hr₂ hkind
    rcases h.rests hs₁.history r₂ hr₂ hkind with ⟨r₁, hr₁, hid, hk, hwork⟩ | ⟨hnew, hwork⟩
    · rcases ih r₁ hr₁ hk with ⟨r, hr, hid', hk', hwork'⟩ | ⟨hnew, hwork'⟩
      · exact Or.inl ⟨r, hr, hid'.trans hid, hk', hwork.trans hwork'⟩
      · exact Or.inr ⟨fun r hr => hid ▸ hnew r hr, hwork.trans hwork'⟩
    · refine Or.inr ⟨fun r hr he => ?_, hwork⟩
      obtain ⟨r₁, hr₁, hadv⟩ := (Db.Edits.later h₁).runs r hr
      exact hnew r₁ hr₁ (hadv.runId.trans he)

end Quiet

/-! ### The transactions of the arbitration -/

section Loud

variable {env : Env} {tx : Tx} {lease : Lease} {db db' : Db}

/-- A transaction that updates one run moves the work if it moves the work on that run and
leaves the others alone. -/
theorem Db.moves_of_updateRun (hk : db.Keys) {row : Run} (hrow : row ∈ db.runs) {id : String}
    (hid : row.runId = id) {f : Run → Run}
    (hruns : db'.runs = Table.updateWhere (fun r => r.runId = id) f db.runs)
    (hf : ∀ r, (f r).fixed = r.fixed)
    (hother : ∀ r ∈ db.runs, r.runId ≠ id → r.runKind = .diagnosis →
      Work.Step (db.work r) (db'.work r))
    (hstep : row.runKind = .diagnosis → Work.Step (db.work row) (db'.work (f row))) :
    db.Moves db' := by
  intro r' hr' hkind
  rw [hruns] at hr'
  obtain ⟨r, hr, rfl⟩ := Table.mem_updateWhere.1 hr'
  by_cases hsel : r.runId = id
  · obtain rfl := hk.runs.eq_of_key hr hrow (hsel.trans hid.symm)
    simp only [hsel, decide_true, if_true] at hkind ⊢
    have hk' : r.runKind = .diagnosis :=
      (column_eq (hf r) Run.runKind fun _ => rfl).symm.trans hkind
    exact Or.inl ⟨r, hr, (column_eq (hf r) Run.runId fun _ => rfl).symm, hk', hstep hk'⟩
  · simp only [hsel, decide_false, Bool.false_eq_true, if_false] at hkind ⊢
    exact Or.inl ⟨r, hr, rfl, hkind, hother r hr hsel hkind⟩

/-- A transaction that updates no run moves the work if it moves the work on one run and
leaves the others alone. -/
theorem Db.moves_of_runs (hruns : db'.runs = db.runs)
    (hstep : ∀ r ∈ db.runs, r.runKind = .diagnosis → Work.Step (db.work r) (db'.work r)) :
    db.Moves db' := by
  intro r hr hkind
  rw [hruns] at hr
  exact Or.inl ⟨r, hr, rfl, hkind, hstep r hr hkind⟩

/-- What `assertRevision` has found of a run: it was not stopped, and it is current. -/
theorem Db.Keys.current (hk : db.Keys) {r : Run} (hr : r ∈ db.runs) {u : PUnit}
    (h : assertRevision db r.runId = .ok u) :
    (db.work r).stop = false ∧ (db.work r).current = true := by
  obtain ⟨q, hq, hid, hstop, i, hi, hinc, hrev⟩ := assertRevision_eq_ok h
  obtain rfl := hk.runs.eq_of_key hq hr hid
  refine ⟨hstop, ?_⟩
  have hfound := hk.incident?_eq hi
  rw [hinc] at hfound
  simp [Db.work, hfound, hrev]

theorem claim_moves (hk : db.Keys) {owner : String} {seconds maxAttempts : Nat}
    {skipped : List String} {granted : Option Lease}
    (h : claim tx owner seconds maxAttempts skipped db = (granted, db')) : db.Moves db' := by
  rcases claim_cases h with ⟨-, rfl⟩ | ⟨row, hrow, recoveryOnly, hclaim, -, -, rfl⟩
  · exact Db.moves_of_runs rfl fun r _ _ => .idle _
  · refine Db.moves_of_updateRun hk hrow rfl rfl (fun _ => rfl) (fun r _ _ _ => .idle _) fun _ => ?_
    refine Work.Step.claimed (w := db.work row) ?_
    rcases hclaim with hs | ⟨hs, -⟩ | ⟨hs, -⟩
    · exact Or.inl hs
    · exact Or.inr (Or.inl hs)
    · exact Or.inr (Or.inr hs)

theorem finish_moves (hk : db.Keys) {status published : RunStatus} {args : FinishArgs}
    (hproper : status ≠ .cancelled)
    (h : finish tx lease status args db = .ok (published, db')) : db.Moves db' := by
  obtain ⟨row, phase, code, hfence, hqueued, -, hout, hretry, rfl⟩ := finish_eq_ok h
  obtain ⟨hrow, hid, -, -, -, hrunning, -⟩ := fence_eq_ok hfence
  have hstep : Work.Step (db.work row) { db.work row with status := published } := by
    refine Work.Step.finished hrunning ?_ ?_ ?_ ?_
    · rcases finishOutcome_cases hout with ⟨rfl, -⟩ | ⟨-, rfl, -⟩ | ⟨-, rfl, -⟩
      · exact hqueued
      · decide
      · decide
    · intro hstop
      rcases finishOutcome_cases hout with ⟨-, hn⟩ | ⟨-, rfl, -⟩ | ⟨-, rfl, -⟩
      · obtain ⟨h₁, h₂, h₃, h₄⟩ := hn hstop
        cases published <;> simp_all [RunStatus.published]
      · rfl
      · rfl
    · intro hcancel
      rcases finishOutcome_cases hout with ⟨rfl, -⟩ | ⟨-, rfl, -⟩ | ⟨hstop, -, hcertain⟩
      · exact absurd hcancel hproper
      · cases hcancel
      · refine ⟨hstop, ?_⟩
        simpa [Db.work, Option.any_map, Function.comp_def] using hcertain
    · intro hr
      rw [hid.symm] at hretry
      simpa [hr, Db.work, Work.dispatched, Option.any_map, Function.comp_def] using hretry
  have hphase : ∀ (d : Db) (r : Run) (phase : String),
      (d.updateIncident lease.row.incidentId fun i => { i with phase := phase }).work r =
        d.work r := by
    intro d r phase
    refine Db.work_congr rfl rfl rfl ?_ rfl
    rw [Db.incident?_updateIncident _ _ _ (by simp)]
    split
    · rw [Option.map_map]
      rfl
    · rfl
  cases phase with
  | none =>
    exact Db.moves_of_updateRun hk hrow hid rfl (fun _ => rfl) (fun r _ _ _ => .idle _)
      fun _ => hstep
  | some phase =>
    refine Db.moves_of_updateRun hk hrow hid rfl (fun _ => rfl) (fun r _ _ _ => ?_) fun _ => ?_
    · rw [hphase]
      exact .idle _
    · rw [hphase]
      exact hstep

theorem queueApproval_moves (hk : db.Keys) {runId : String} {decision : ApprovalDecision}
    {binding : String} (h : queueApproval runId decision binding db = .ok db') : db.Moves db' := by
  obtain ⟨row, hrow, hrev, ⟨-, rfl⟩ | ⟨-, hstatus, -, rfl⟩⟩ := queueApproval_eq_ok h
  · exact Db.moves_of_runs rfl fun r _ _ => .idle _
  · obtain ⟨hmem, rfl⟩ := Db.mem_of_run? hrow
    obtain ⟨hstop, hcurrent⟩ := hk.current hmem hrev
    exact Db.moves_of_updateRun hk hmem rfl rfl (fun _ => rfl) (fun r _ _ _ => .idle _)
      fun _ => Work.Step.approved (w := db.work row) hstatus hcurrent hstop

theorem prepare_moves (hk : db.Keys) {args : PrepareArgs} {o : Operation}
    (h : prepare env tx lease args db = .ok (o, db')) : db.Moves db' := by
  obtain ⟨⟨row, hfence⟩, -, hrev, h⟩ := prepare_eq_ok h
  obtain ⟨hrow, hid, -, -, -, hrunning, -⟩ := fence_eq_ok hfence
  rw [← hid] at hrev
  obtain ⟨hstop, hcurrent⟩ := hk.current hrow hrev
  rcases h with ⟨-, rfl, -⟩ | ⟨hnone, rfl, hc, rfl⟩
  · exact Db.moves_of_runs rfl fun r _ _ => .idle _
  · refine Db.moves_of_runs rfl fun r hr _ => ?_
    by_cases hsel : r.runId = lease.row.runId
    · obtain rfl := hk.runs.eq_of_key hr hrow (hsel.trans hid.symm)
      have hwrite : (db.work r).write = none := by simp [Db.work, hid, hnone]
      have hstep := Work.Step.prepared (w := db.work r) hrunning hcurrent hstop hwrite
      convert hstep using 1
      unfold Db.operation? at hnone
      simp [Db.work, Db.operation?, List.find?_append, hid, hnone, Operation.initial]
      rfl
    · have hwork : Db.work { db with operations := db.operations ++
          [Operation.initial env lease args tx.now] } r = db.work r := by
        refine Db.work_congr rfl rfl rfl rfl ?_
        have hne : (Operation.initial env lease args tx.now).runId ≠ r.runId := fun he => hsel he.symm
        simp [Db.operation?, List.find?_append, hne]
      rw [hwork]
      exact .idle _

theorem dispatch_moves (hk : db.Keys) {operationId : String}
    (h : dispatch tx lease operationId db = .ok db') : db.Moves db' := by
  obtain ⟨⟨row, hfence⟩, hrev, ⟨o, ho, hoid, horun, hprepared⟩, hdb⟩ := dispatch_eq_ok h
  obtain ⟨hrow, hid, -, -, -, hrunning, -⟩ := fence_eq_ok hfence
  rw [← hid] at hrev
  obtain ⟨hstop, hcurrent⟩ := hk.current hrow hrev
  have hop : ∀ id, db'.operation? id = (db.operation? id).map fun o =>
      if dispatchSelects lease operationId o then o.dispatching lease else o := by
    intro id
    rw [hdb]
    exact Table.find?_updateWhere fun o _ => rfl
  have hincident : ∀ id, db'.incident? id = db.incident? id := by
    intro id
    rw [hdb]
    rfl
  refine Db.moves_of_runs (by rw [hdb]) fun r hr _ => ?_
  by_cases hsel : r.runId = lease.row.runId
  · obtain rfl := hk.runs.eq_of_key hr hrow (hsel.trans hid.symm)
    have hfound : db.operation? r.runId = some o := by
      rw [hid, ← horun]
      exact hk.operation?_eq ho
    have hwrite : (db.work r).write = some .prepared := by simp [Db.work, hfound, hprepared]
    have hstep := Work.Step.sent (w := db.work r) hrunning hcurrent hstop hwrite
    have hselects : dispatchSelects lease operationId o = true := by
      simp [dispatchSelects, hoid, horun, hprepared]
    convert hstep using 1
    simp [Db.work, hop, hincident, hfound, hselects, Operation.dispatching]
  · have hwork : db'.work r = db.work r := by
      refine Db.work_congr rfl rfl rfl (by rw [hincident]) ?_
      rw [hop]
      cases hfound : db.operation? r.runId with
      | none => rfl
      | some p =>
        have hp : p.runId ≠ lease.row.runId := (Db.mem_of_operation? hfound).2.symm ▸ hsel
        simp [dispatchSelects, hp]
    rw [hwork]
    exact .idle _

theorem record_moves (hk : db.Keys) {state : OperationState} {args : RecordArgs}
    (h : record tx lease state args db = .ok db') : db.Moves db' := by
  obtain ⟨⟨row, hfence⟩, ⟨o, ho, hallowed, -⟩, rfl⟩ := record_eq_ok h
  obtain ⟨hrow, hid, -, -, -, hrunning, -⟩ := fence_eq_ok hfence
  refine Db.moves_of_runs rfl fun r hr _ => ?_
  by_cases hsel : r.runId = lease.row.runId
  · obtain rfl := hk.runs.eq_of_key hr hrow (hsel.trans hid.symm)
    have hwrite : (db.work r).write = some o.state := by simp [Db.work, hid, ho]
    have hstep := Work.Step.recorded (w := db.work r) hrunning hwrite hallowed
    convert hstep using 1
    simp only [Db.work, Db.operation?_updateOperation _ _ _
      (fun _ => (rfl : (Operation.recorded state args _).runId = _)), hid, if_true, ho,
      Option.map_some]
    rfl
  · have hwork : (db.updateOperation lease.row.runId (Operation.recorded state args)).work r =
        db.work r := by
      refine Db.work_congr rfl rfl rfl rfl ?_
      rw [Db.operation?_updateOperation _ _ _
        (fun _ => (rfl : (Operation.recorded state args _).runId = _)), if_neg hsel]
    rw [hwork]
    exact .idle _

/-- What an arbitration does to the latest diagnosis. -/
def Run.arbitrated (now : Nat) (dispatched : Bool) (snapshot : Json) (r : Run) : Run :=
  if r.active then
    if dispatched then r.stopped now else (r.stopped now).superseded now snapshot
  else r

/-- A diagnosis after an arbitration: the latest one is arbitrated, the others stay. -/
theorem arbitrate_run (hk : db.Keys) {incidentId : String} {latest : Run} (hl : latest ∈ db.runs)
    {dispatched : Bool} {action : ControlAction} {snapshot : Json} {r' : Run}
    (hr' : r' ∈ (arbitrate tx incidentId latest dispatched action snapshot db).runs)
    (hkind : r'.runKind = .diagnosis) :
    ∃ r ∈ db.runs, r' = if r.runId = latest.runId then
      r.arbitrated tx.now dispatched snapshot else r := by
  have hstop : ∀ db₀ : Db, db₀.runs = db.runs →
      r' ∈ (stopDiagnosis tx incidentId latest dispatched snapshot db₀).runs →
      ∃ r ∈ db.runs, r' = if r.runId = latest.runId then
        r.arbitrated tx.now dispatched snapshot else r := by
    intro db₀ hruns hr'
    have hsame : ∀ r ∈ db.runs, r.runId = latest.runId → r = latest := fun r hr hid =>
      hk.runs.eq_of_key hr hl hid
    unfold stopDiagnosis at hr'
    split at hr'
    · rename_i hactive
      split at hr'
      · rename_i hdispatched
        obtain ⟨r, hr, rfl⟩ := Table.mem_updateWhere.1 hr'
        rw [hruns] at hr
        refine ⟨r, hr, ?_⟩
        by_cases hsel : r.runId = latest.runId
        · obtain rfl := hsame r hr hsel
          simp [Run.arbitrated, hactive, hdispatched]
        · simp [hsel]
      · rename_i hdispatched
        obtain ⟨r₁, hr₁, rfl⟩ := Table.mem_updateWhere.1 hr'
        obtain ⟨r, hr, rfl⟩ := Table.mem_updateWhere.1 hr₁
        rw [hruns] at hr
        refine ⟨r, hr, ?_⟩
        by_cases hsel : r.runId = latest.runId
        · obtain rfl := hsame r hr hsel
          simp [Run.arbitrated, hactive, hdispatched, Run.stopped]
        · simp [hsel]
    · rename_i hactive
      rw [hruns] at hr'
      refine ⟨r', hr', ?_⟩
      split
      · rename_i hsel
        obtain rfl := hsame r' hr' hsel
        simp [Run.arbitrated, hactive]
      · rfl
  have hdrop : ∀ db₀ : Db, r' ∈ (dropInteractions tx incidentId db₀).runs → r' ∈ db₀.runs := by
    intro db₀ hr'
    obtain ⟨r, hr, rfl⟩ := Table.mem_updateWhere.1 hr'
    split
    · rename_i hsel
      rw [if_pos hsel] at hkind
      simp only [decide_eq_true_eq] at hsel
      simp [Run.dropped, hsel.2.1] at hkind
    · exact hr
  have hstopped : r' ∈ (stopDiagnosis tx incidentId latest dispatched snapshot
      (db.updateIncident incidentId fun i =>
        { i with eventRevision := i.eventRevision + 1 })).runs := by
    unfold arbitrate at hr'
    split at hr' <;> exact hdrop _ hr'
  refine hstop _ ?_ hstopped
  rfl

/-- The operations after an arbitration. -/
theorem arbitrate_operation {incidentId : String} {latest : Run} {dispatched : Bool}
    {action : ControlAction} {snapshot : Json} (id : String) :
    (arbitrate tx incidentId latest dispatched action snapshot db).operation? id =
      (db.operation? id).map fun o =>
        if latest.active ∧ dispatched = false ∧ o.runId = latest.runId ∧ o.state = .prepared then
          { o with state := .rejected, errorCode := some "INPUT_SUPERSEDED" } else o := by
  have hstop : (stopDiagnosis tx incidentId latest dispatched snapshot (db.updateIncident incidentId
      fun i => { i with eventRevision := i.eventRevision + 1 })).operation? id =
      (db.operation? id).map fun o =>
        if latest.active ∧ dispatched = false ∧ o.runId = latest.runId ∧ o.state = .prepared then
          { o with state := .rejected, errorCode := some "INPUT_SUPERSEDED" } else o := by
    unfold stopDiagnosis
    split
    · rename_i hactive
      split
      · rename_i hdispatched
        simp [hdispatched, Db.operation?, Db.updateRun, Db.updateIncident]
      · rename_i hdispatched
        refine Eq.trans (Table.find?_updateWhere fun o _ => rfl) ?_
        simp [Db.operation?, Db.updateRun, Db.updateIncident, hactive, hdispatched]
    · rename_i hactive
      simp [hactive, Db.operation?, Db.updateIncident]
  unfold arbitrate
  split <;> exact hstop

/-- The revision of another incident after an arbitration. -/
theorem arbitrate_incident {incidentId : String} {latest : Run} {dispatched : Bool}
    {action : ControlAction} {snapshot : Json} {id : String} (hne : id ≠ incidentId) :
    (arbitrate tx incidentId latest dispatched action snapshot db).incident? id =
      db.incident? id := by
  have hincidents : (arbitrate tx incidentId latest dispatched action snapshot db).incident? id =
      (stopDiagnosis tx incidentId latest dispatched snapshot (db.updateIncident incidentId
        fun i => { i with eventRevision := i.eventRevision + 1 })).incident? id := by
    unfold arbitrate
    split <;> rfl
  have hrevision : (db.updateIncident incidentId fun i =>
      { i with eventRevision := i.eventRevision + 1 }).incident? id = db.incident? id := by
    rw [Db.incident?_updateIncident _ _ _ (by simp), if_neg hne]
  rw [hincidents]
  unfold stopDiagnosis
  split
  · split
    · exact hrevision
    · refine Eq.trans (Db.incident?_updateIncident _ _ _ (by simp)) ?_
      rw [if_neg hne]
      exact hrevision
  · exact hrevision

/-- **The work after an arbitration**: the latest diagnosis is withdrawn before the dispatch
and stopped after it; the others have ended, or belong elsewhere. -/
theorem arbitrate_moves (hs : db.History env) {incidentId : String} {latest : Run}
    (hlatest : db.latest incidentId = some latest) {action : ControlAction} {snapshot : Json} :
    db.Moves (arbitrate tx incidentId latest (writeDispatched (db.operation? latest.runId)) action
      snapshot db) := by
  obtain ⟨hl, hlinc, hlkind⟩ := Db.mem_lane.1 (Db.mem_lane_of_latest hlatest)
  intro r' hr' hkind
  obtain ⟨r, hr, rfl⟩ := arbitrate_run hs.keys hl hr' hkind
  refine Or.inl ⟨r, hr, ?_⟩
  by_cases hsel : r.runId = latest.runId
  · obtain rfl := hs.keys.runs.eq_of_key hr hl hsel
    rw [if_pos rfl]
    by_cases hactive : r.active
    · have ha : r.status.terminal = false := by simpa [Run.active] using hactive
      have hdisp : writeDispatched (db.operation? r.runId) = (db.work r).dispatched := by
        simp [writeDispatched, Work.dispatched, Db.work, Option.any_map]
      cases hd : writeDispatched (db.operation? r.runId) with
      | true =>
        have hr : r.arbitrated tx.now true snapshot = r.stopped tx.now := by
          simp [Run.arbitrated, hactive]
        rw [hr]
        refine ⟨rfl, hlkind, .of_stopped ha (hdisp.symm.trans hd) rfl rfl rfl ?_⟩
        simp [Db.work, Run.stopped, arbitrate_operation]
      | false =>
        have hr : r.arbitrated tx.now false snapshot =
            (r.stopped tx.now).superseded tx.now snapshot := by
          simp [Run.arbitrated, hactive]
        rw [hr]
        refine ⟨rfl, hlkind, .of_withdrawn ha (hdisp.symm.trans hd) rfl rfl rfl ?_⟩
        simp only [Db.work, Run.stopped, Run.superseded, arbitrate_operation]
        cases hop : db.operation? r.runId with
        | none => simp
        | some o =>
          have horun := (Db.mem_of_operation? hop).2
          rw [hop] at hd
          cases hstate : o.state <;>
            simp [writeDispatched, hstate, OperationState.dispatched] at hd <;>
            simp [horun, hstate, hactive]
    · have hsame : r.arbitrated tx.now (writeDispatched (db.operation? r.runId)) snapshot = r := by
        simp [Run.arbitrated, hactive]
      have hended : r.status.terminal = true := by simpa [Run.active] using hactive
      rw [hsame]
      refine ⟨rfl, hlkind, .of_outdated hended rfl rfl rfl ?_⟩
      simp [Db.work, arbitrate_operation, hactive]
  · rw [if_neg hsel] at hkind ⊢
    refine ⟨rfl, hkind, ?_⟩
    have hop : ((arbitrate tx incidentId latest (writeDispatched (db.operation? latest.runId))
        action snapshot db).operation? r.runId) = db.operation? r.runId := by
      rw [arbitrate_operation]
      cases hfound : db.operation? r.runId with
      | none => rfl
      | some o =>
        have hne : o.runId ≠ latest.runId := (Db.mem_of_operation? hfound).2.symm ▸ hsel
        simp [hne]
    by_cases hinc : r.incidentId = incidentId
    · -- Another diagnosis of the incident has ended.
      have hended : r.status.terminal = true := by
        by_contra hactive
        have hl' := hs.latest_of_active hr hkind (by simpa [Run.active] using hactive)
        rw [hinc, hlatest] at hl'
        exact hsel (congrArg Run.runId (Option.some.inj hl').symm)
      exact .of_outdated hended rfl rfl rfl (by simp [Db.work, hop])
    · have hwork : (arbitrate tx incidentId latest (writeDispatched (db.operation? latest.runId))
          action snapshot db).work r = db.work r :=
        Db.work_congr rfl rfl rfl (by rw [arbitrate_incident hinc]) (by rw [hop])
      rw [hwork]
      exact .idle _

/-- A message that is appended leaves the work alone. -/
theorem Appends.work {incidentId : String} (h : Appends tx incidentId db db') (r : Run) :
    db'.work r = db.work r := by
  rcases h with rfl | ⟨_, -, rfl⟩ <;> rfl

theorem control_moves (hs : db.Sound env) {incidentId : String} {body : ControlRequest}
    {expectedParent : Option String} {snapshot : Json} {view : ControlView}
    (h : control env tx incidentId body expectedParent snapshot db = .ok (view, db')) :
    db.Moves db' := by
  rcases control_eq_ok h with ⟨_, -, -, -, rfl⟩ |
    ⟨latest, message, db₁, row, -, hlatest, hmessage, -, -, -, hinsert⟩
  · exact Db.moves_of_runs rfl fun r _ _ => .idle _
  · obtain ⟨-, rfl⟩ := Db.insertControl_eq_ok hinsert
    have happ := (messageInTransaction_eq_ok hmessage).1
    have hsave : Db.Edits env tx false db db₁ := happ.edits
    have hlatest₁ : db₁.latest incidentId = some latest := by
      rw [← hlatest, Db.latest, happ.runs]
      rfl
    have hmoves : db₁.Moves (arbitrate tx incidentId latest
        (writeDispatched (db₁.operation? latest.runId)) body.action snapshot db₁) :=
      arbitrate_moves (hsave.sound hs).history hlatest₁
    intro r' hr' hkind
    rcases hmoves r' hr' hkind with ⟨r, hr, hid, hk, hstep⟩ | ⟨hnew, hfresh⟩
    · rw [happ.work] at hstep
      exact Or.inl ⟨r, happ.runs ▸ hr, hid, hk, hstep⟩
    · rw [happ.runs] at hnew
      exact Or.inr ⟨hnew, hfresh⟩

theorem answer_moves (hs : db.Sound env) {incidentId runId : String} {body : AnswerQuestion}
    {view : ControlView} (h : answer env tx incidentId runId body db = .ok (view, db')) :
    db.Moves db' := by
  rcases answer_eq_ok h with ⟨_, -, -, rfl⟩ |
    ⟨incident, row, question, message, db₁, -, hi, hmem, hinc, hid, hstatus, hstop, -, hmessage,
      hinsert⟩
  · exact Db.moves_of_runs rfl fun r _ _ => .idle _
  · obtain ⟨-, hdb⟩ := Db.insertControl_eq_ok hinsert
    have happ := (messageInTransaction_eq_ok hmessage).1
    have hincident : ∀ id, db'.incident? id = if id = incidentId then (db.incident? id).map
        fun i => { i with eventRevision := i.eventRevision + 1 } else db.incident? id := by
      intro id
      rw [hdb]
      refine Eq.trans (Db.incident?_updateIncident _ _ _ (by simp)) ?_
      rcases happ with rfl | ⟨_, -, rfl⟩ <;> rfl
    have hop : ∀ id, db'.operation? id = db.operation? id := by
      intro id
      rw [hdb]
      rcases happ with rfl | ⟨_, -, rfl⟩ <;> rfl
    -- The run that waits for the answer is the active diagnosis of the incident.
    have hkind : row.runKind = .diagnosis := by
      cases hk : row.runKind with
      | diagnosis => rfl
      | interaction => simpa [hstatus, RunStatus.waiting] using hs.history.interactions row hmem hk
    have hactive : row.active := by simp [Run.active, hstatus, RunStatus.terminal]
    have hlatest := hs.history.latest_of_active hmem hkind hactive
    rw [hinc] at hlatest
    have hruns : db'.runs = Table.updateWhere (fun r => r.runId = runId)
        (Run.answered (Answer.of question row body message) (incident.eventRevision + 1))
        db.runs := by
      rw [hdb, ← happ.runs]
      rfl
    refine Db.moves_of_updateRun hs.keys hmem hid hruns (fun _ => rfl) (fun r hr hsel hk => ?_)
      fun _ => ?_
    · have hwrite : (db'.work r).write = (db.work r).write :=
        congrArg (Option.map fun o : Operation => o.state) (hop r.runId)
      by_cases hrinc : r.incidentId = incidentId
      · have hended : r.status.terminal = true := by
          by_contra hne
          have hl := hs.history.latest_of_active hr hk (by simpa [Run.active] using hne)
          rw [hrinc, hlatest] at hl
          exact hsel ((congrArg Run.runId (Option.some.inj hl)).symm.trans hid)
        exact .of_outdated hended rfl rfl rfl hwrite
      · have hwork : db'.work r = db.work r :=
          Db.work_congr rfl rfl rfl (by rw [hincident, if_neg hrinc]) hwrite
        rw [hwork]
        exact .idle _
    · have hstep := Work.Step.answered (w := db.work row) hstatus hstop
      convert hstep using 1
      simp [Db.work, Run.answered, hincident, hinc, hi, hop]

/-! ### The store refines the arbiter -/

/-- **A transaction moves the work on each diagnosis by one step of the arbiter.** -/
theorem transact_moves {skipped : List String} {request : Request} {response : Response}
    (hs : db.Sound env) (hready : request.Ready tx db)
    (h : transact env tx skipped request db = .ok (response, db')) : db.Moves db' := by
  cases hquiet : request.quiet with
  | true =>
    have hedits := transact_edits hs hready h
    rw [hquiet] at hedits
    exact (hedits.rests hs).moves
  | false =>
    have hk := hs.keys
    cases request <;> simp only [Request.quiet, reduceCtorEq] at hquiet <;>
      simp only [transact, map_eq_ok, Prod.mk.injEq, Except.ok.injEq] at h
    case claim =>
      obtain ⟨-, rfl⟩ := h
      exact claim_moves hk rfl
    case finish =>
      obtain ⟨⟨status, db₁⟩, h, -, rfl⟩ := h
      exact finish_moves hk hready.proper.1 h
    case queueApproval =>
      obtain ⟨db₁, h, -, rfl⟩ := h
      exact queueApproval_moves hk h
    case prepare =>
      obtain ⟨⟨o, db₁⟩, h, -, rfl⟩ := h
      exact prepare_moves hk h
    case dispatch =>
      obtain ⟨db₁, h, -, rfl⟩ := h
      exact dispatch_moves hk h
    case record =>
      obtain ⟨db₁, h, -, rfl⟩ := h
      exact record_moves hk h
    case control =>
      obtain ⟨⟨view, db₁⟩, h, -, rfl⟩ := h
      exact control_moves hs h
    case answer =>
      obtain ⟨⟨view, db₁⟩, h, -, rfl⟩ := h
      exact answer_moves hs h

end Loud

/-! ### Reachable states are settled -/

/-- The work on every diagnosis of the store is sound. -/
def Db.Settled (db : Db) : Prop :=
  ∀ r ∈ db.runs, r.runKind = .diagnosis → (db.work r).Sound

theorem Db.Settled.moves {db db' : Db} (h : db.Settled) (hm : db.Moves db') : db'.Settled := by
  intro r' hr' hkind
  rcases hm r' hr' hkind with ⟨r, hr, -, hk, hstep⟩ | ⟨-, hfresh⟩
  · exact hstep.sound (h r hr hk)
  · exact hfresh ▸ Work.sound_fresh

namespace Sys

variable {σ : Type} {env : Env} {s s' : Sys σ}

/-- **An event moves the work on each diagnosis by one step of the arbiter.** -/
theorem Sound.moves (h : s.Sound env) {e : Event σ} (hnext : next env s e = some s') :
    s.db.Moves s'.db := by
  rcases next_db hnext with hdb | ⟨request, response, hc⟩
  · rw [hdb]
    exact Db.moves_of_runs rfl fun r _ _ => .idle _
  · obtain ⟨tx, skipped, -, hready, -, hok⟩ := h.of_commits hc
    exact transact_moves h.store hready hok

/-- **In every reachable state, the work on each diagnosis is sound.** -/
theorem Reachable.settled (hs : s.Reachable env) : s.db.Settled := by
  refine Transition.Reachable.invariant_of (P := fun s : Sys σ => s.db.Settled)
    (by simp [Db.Settled, start, Db.empty]) (fun s e s' hreach hsettled hstep => ?_) hs
  exact hsettled.moves ((Reachable.sound hreach).moves hstep)

end Sys

end IncidentAgent
