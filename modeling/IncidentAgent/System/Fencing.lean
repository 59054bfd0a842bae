import IncidentAgent.System.Frames

/-!
# One effective owner

A worker that paused may come back when its run belongs to somebody else. Every transaction
it then opens starts with the fence, which looks for the run still running under its epoch
and not expired; and the saver of checkpoints, which writes on a connection of its own, holds
the row of the run while it does. A lease is **lost** (`Lease.Lost`) once its run was claimed
again, was left by its worker, or has expired. A lost lease stays lost, and no fence lets it
through (`Sys.Reachable.fenced`).

What the row lock gives the saver is less than what the fence gives the others. The fence is
evaluated before the write, and the expiry may pass in between: `Sys.not_written_unexpired`
is such a run. It is the lock that keeps the next owner out until the write has committed:
nothing that is evaluated meanwhile touches the locked row (`transact_spares`), so the run
is still running under the epoch of the writer.
-/

namespace IncidentAgent

/-- A lease is **lost**: its run was claimed again, does not run any more, or has expired. -/
def Lease.Lost (lease : Lease) (db : Db) (now : Nat) : Prop :=
  ∃ r ∈ db.runs, r.runId = lease.row.runId ∧
    (lease.row.leaseEpoch < r.leaseEpoch ∨ r.status ≠ .running ∨ ∀ e ∈ r.leaseExpiresAt, e ≤ now)

instance (lease : Lease) (db : Db) (now : Nat) : Decidable (lease.Lost db now) := by
  unfold Lease.Lost
  infer_instance

/-- A lease **keeps out** every other owner: its run is running under its owner and epoch,
whether or not its expiry has passed. -/
def Lease.Keeps (lease : Lease) (db : Db) : Prop :=
  ∃ r ∈ db.runs, r.runId = lease.row.runId ∧ r.leaseOwner = lease.row.leaseOwner ∧
    r.leaseEpoch = lease.row.leaseEpoch ∧ r.status = .running

theorem Lease.Owns.keeps {lease : Lease} {db : Db} {now : Nat} (h : lease.Owns db now) :
    lease.Keeps db := by
  obtain ⟨r, hr, hid, -, howner, hepoch, hstatus, -⟩ := h
  exact ⟨r, hr, hid, howner, hepoch, hstatus⟩

/-- **What is lost stays lost**: the row only advances, and time only passes. -/
theorem Lease.Lost.later {lease : Lease} {db db' : Db} {now now' : Nat}
    (h : lease.Lost db now) (hepoch : ∀ r ∈ db.runs, r.runId = lease.row.runId →
      lease.row.leaseEpoch ≤ r.leaseEpoch)
    (hlater : Db.Later now db db') (hnow : now ≤ now') : lease.Lost db' now' := by
  obtain ⟨r, hr, hid, hlost⟩ := h
  obtain ⟨r', hr', hadv⟩ := hlater.runs r hr
  refine ⟨r', hr', hadv.runId.trans hid, ?_⟩
  have hle := hepoch r hr hid
  have hmono := hadv.epoch
  -- Under the same epoch nobody makes the run run again, or moves an expiry that has passed.
  by_cases hsame : r'.leaseEpoch = r.leaseEpoch ∧ r'.status = .running
  · obtain ⟨hstatus, -, hexpiry⟩ := hadv.held hsame.1 hsame.2
    rcases hlost with hclaimed | hleft | hexpired
    · exact Or.inl (by omega)
    · exact absurd hstatus hleft
    · rcases hexpiry with heq | ⟨e, he, hlt⟩
      · exact Or.inr (Or.inr fun e he => (hexpired e (heq ▸ he)).trans hnow)
      · exact absurd (hexpired e he) (not_le.2 hlt)
  · rcases not_and_or.1 hsame with hclaimed | hleft
    · exact Or.inl (by omega)
    · exact Or.inr (Or.inl hleft)

/-! ### Rows of other incidents -/

section Spares

variable {env : Env} {tx : Tx} {db db' : Db} {r : Run}

/-- An update of one run spares the others. -/
theorem Db.updateRun_spares {runId : String} {f : Run → Run} (hr : r ∈ db.runs)
    (hne : r.runId ≠ runId) : r ∈ (db.updateRun runId f).runs :=
  Table.mem_updateWhere_of_not hr (by simpa using hne)

theorem Db.insertRun_spares {q : Run} (h : db.insertRun q = .ok db') (hr : r ∈ db.runs) :
    r ∈ db'.runs := by
  obtain ⟨-, -, rfl⟩ := Db.insertRun_eq_ok h
  exact List.mem_append_left _ hr

/-- The latest diagnosis of an incident is not a run of another one. -/
theorem Db.latest_ne {incidentId : String} {p : Run} (hp : db.latest incidentId = some p)
    (hk : Table.Keyed Run.runId db.runs) (hr : r ∈ db.runs) (hne : r.incidentId ≠ incidentId) :
    r.runId ≠ p.runId := by
  obtain ⟨hmem, hinc, -⟩ := Db.mem_lane.1 (Db.mem_lane_of_latest hp)
  intro hid
  exact hne (hk.eq_of_key hr hmem hid ▸ hinc)

/-- A round touches the runs of its incident only. -/
theorem acceptRound_spares (hk : Table.Keyed Run.runId db.runs)
    {incidentId messageId key : String} {parentRunId : Option String} {previous : Json} {row : Run}
    (h : acceptRound env tx incidentId messageId key parentRunId previous db = .ok (row, db'))
    (hr : r ∈ db.runs) (hne : r.incidentId ≠ incidentId) : r ∈ db'.runs := by
  rcases acceptRound_eq_ok h with ⟨-, -, rfl⟩ | ⟨_, _, _, -, -, -, -, -, -, -, hinsert⟩
  · exact hr
  · obtain ⟨-, -, rfl⟩ := insertRound_eq_ok hinsert
    cases hlatest : db.latest incidentId with
    | none => exact List.mem_append_left _ hr
    | some p =>
      exact Table.mem_updateWhere_of_not (List.mem_append_left _ hr)
        (by simpa using Db.latest_ne hlatest hk hr hne)

/-- An arbitration touches the runs of its incident only. -/
theorem arbitrate_spares (hk : Table.Keyed Run.runId db.runs) {incidentId : String} {latest : Run}
    (hlatest : db.latest incidentId = some latest) {db₁ : Db} (hruns : db₁.runs = db.runs)
    {dispatched : Bool} {action : ControlAction} {snapshot : Json} (hr : r ∈ db.runs)
    (hne : r.incidentId ≠ incidentId) :
    r ∈ (arbitrate tx incidentId latest dispatched action snapshot db₁).runs := by
  have hid := Db.latest_ne hlatest hk hr hne
  have hstopped : r ∈ (stopDiagnosis tx incidentId latest dispatched snapshot
      (db₁.updateIncident incidentId fun i =>
        { i with eventRevision := i.eventRevision + 1 })).runs := by
    have hfirst : r ∈ (db₁.updateRun latest.runId (Run.stopped tx.now)).runs :=
      Db.updateRun_spares (hruns ▸ hr) hid
    unfold stopDiagnosis
    split
    · split
      · exact hfirst
      · exact Table.mem_updateWhere_of_not hfirst (by simpa using hid)
    · exact hruns ▸ hr
  have hdropped := Table.mem_updateWhere_of_not (f := Run.dropped tx.now) hstopped
    (p := fun r => r.incidentId = incidentId ∧ r.runKind = .interaction ∧ r.active) (by simp [hne])
  unfold arbitrate
  split <;> exact hdropped

/-- A request under a lease locks the incident of the row that the lease was granted for. -/
theorem Request.incident?_of_lease {request : Request} {lease : Lease}
    (h : lease ∈ request.lease?) : request.incident? db = some lease.row.incidentId := by
  cases request <;> simp only [Request.lease?, Option.mem_def, reduceCtorEq, Option.some.injEq] at h
  case openWindow | saveWindow => subst h; rfl
  all_goals exact h ▸ rfl

/-- **A transaction that passes over a run and locks another incident spares the run.** -/
theorem transact_spares {skipped : List String} {request : Request} {response : Response}
    (hs : db.Sound env) (hready : request.Ready tx db)
    (h : transact env tx skipped request db = .ok (response, db')) (hr : r ∈ db.runs)
    (hne : request.incident? db ≠ some r.incidentId) (hskip : r.runId ∈ skipped) :
    r ∈ db'.runs := by
  have hk := hs.keys
  have hleased : ∀ lease ∈ request.lease?,
      r.incidentId ≠ lease.row.incidentId ∧ r.runId ≠ lease.row.runId := by
    intro lease hl
    rw [Request.incident?_of_lease hl] at hne
    have hother : r.incidentId ≠ lease.row.incidentId := fun he => hne (congrArg some he.symm)
    exact ⟨hother, fun hid => hother
      (column_eq (hready.leased lease hl r hr hid) Run.incidentId fun _ => rfl)⟩
  cases request <;> simp only [transact, map_eq_ok, Prod.mk.injEq, Except.ok.injEq] at h
  case accept =>
    obtain ⟨⟨row, db₁⟩, h, -, rfl⟩ := h
    obtain ⟨-, -, hinsert⟩ := accept_eq_ok h
    exact Db.insertRun_spares hinsert hr
  case createIncident =>
    obtain ⟨db₁, h, -, rfl⟩ := h
    obtain ⟨_, -, -, -, rfl⟩ := createIncident_eq_ok h
    exact hr
  case updatePhase =>
    obtain ⟨-, rfl⟩ := h
    exact hr
  case claim owner seconds maxAttempts =>
    obtain ⟨-, rfl⟩ := h
    rcases claim_cases (Prod.mk.eta (p := claim tx owner seconds maxAttempts skipped db)).symm with
      ⟨-, hdb⟩ | ⟨row, -, _, -, hfree, -, hdb⟩
    · rw [hdb]
      exact hr
    · rw [hdb]
      exact Db.updateRun_spares hr fun hid => hfree (hid ▸ hskip)
  case assertOwned =>
    obtain ⟨_, -, -, rfl⟩ := h
    exact hr
  case heartbeat =>
    obtain ⟨db₁, h, -, rfl⟩ := h
    obtain ⟨-, rfl⟩ := heartbeat_eq_ok h
    exact Db.updateRun_spares hr (hleased _ rfl).2
  case markCheckpointStarted =>
    obtain ⟨db₁, h, -, rfl⟩ := h
    obtain ⟨-, rfl⟩ := markCheckpointStarted_eq_ok h
    exact Db.updateRun_spares hr (hleased _ rfl).2
  case finish =>
    obtain ⟨⟨status, db₁⟩, h, -, rfl⟩ := h
    obtain ⟨_, phase, _, -, -, -, -, -, rfl⟩ := finish_eq_ok h
    cases phase <;> exact Db.updateRun_spares hr (hleased _ rfl).2
  case queueApproval =>
    obtain ⟨db₁, h, -, rfl⟩ := h
    obtain ⟨row, hrow, -, ⟨-, rfl⟩ | ⟨-, -, -, rfl⟩⟩ := queueApproval_eq_ok h
    · exact hr
    · obtain ⟨hmem, hid⟩ := Db.mem_of_run? hrow
      refine Db.updateRun_spares hr fun hsame => hne ?_
      simp [Request.incident?, hrow, hk.runs.eq_of_key hr hmem (hsame.trans hid.symm)]
  case prepare =>
    obtain ⟨⟨o, db₁⟩, h, -, rfl⟩ := h
    obtain ⟨-, -, -, ⟨-, rfl, -⟩ | ⟨-, -, -, rfl⟩⟩ := prepare_eq_ok h <;> exact hr
  case dispatch =>
    obtain ⟨db₁, h, -, rfl⟩ := h
    obtain ⟨-, -, -, rfl⟩ := dispatch_eq_ok h
    exact hr
  case record =>
    obtain ⟨db₁, h, -, rfl⟩ := h
    obtain ⟨-, -, rfl⟩ := record_eq_ok h
    exact hr
  case acceptRound =>
    obtain ⟨⟨row, db₁⟩, h, -, rfl⟩ := h
    exact acceptRound_spares hk.runs h hr fun he => hne (congrArg some he.symm)
  case acceptInteraction =>
    obtain ⟨⟨row, db₁⟩, h, -, rfl⟩ := h
    rcases acceptInteraction_eq_ok h with rfl | ⟨db₂, _, happ, -, -, -, hinsert⟩
    · exact hr
    · exact Db.insertRun_spares hinsert (happ.runs ▸ hr)
  case saveProgress =>
    obtain ⟨db₁, h, -, rfl⟩ := h
    obtain ⟨-, rfl⟩ := saveProgress_eq_ok h
    exact Db.updateRun_spares hr (hleased _ rfl).2
  case saveRecheck =>
    obtain ⟨db₁, h, -, rfl⟩ := h
    obtain ⟨-, _, rfl⟩ := saveRecheck_eq_ok h
    exact hr
  case complete lease _ _ _ =>
    obtain ⟨db₁, h, -, rfl⟩ := h
    obtain ⟨row, db₂, db₃, output', -, hround, happ, rfl⟩ := complete_eq_ok h
    obtain ⟨hother, hid⟩ := hleased _ rfl
    have hreleased : r ∈ (db.updateRun lease.row.runId (Run.released tx.now)).runs :=
      Db.updateRun_spares hr hid
    have hopened : r ∈ db₂.runs := by
      rcases openRound_eq_ok hround with ⟨-, -, rfl⟩ | ⟨-, _, _, child, -, haccept, -⟩
      · exact hreleased
      · have hkeyed : Table.Keyed Run.runId
            (db.updateRun lease.row.runId (Run.released tx.now)).runs :=
          Table.Keyed.updateWhere hk.runs fun _ _ _ => rfl
        exact acceptRound_spares hkeyed haccept hreleased hother
    exact Db.updateRun_spares (happ.runs ▸ hopened) hid
  case control =>
    obtain ⟨⟨view, db₁⟩, h, -, rfl⟩ := h
    rcases control_eq_ok h with ⟨_, -, -, -, rfl⟩ |
      ⟨latest, message, db₂, row, -, hlatest, hmessage, -, -, -, hinsert⟩
    · exact hr
    · obtain ⟨-, rfl⟩ := Db.insertControl_eq_ok hinsert
      have hruns := (messageInTransaction_eq_ok hmessage).1.runs
      exact arbitrate_spares hk.runs hlatest hruns hr fun he => hne (congrArg some he.symm)
  case activateControl =>
    obtain ⟨db₁, h, -, rfl⟩ := h
    obtain ⟨c, hc, rfl | ⟨-, rfl⟩ |
      ⟨latest, child, db₂, -, -, -, hchild, rfl⟩⟩ := activateControl_eq_ok h
    · exact hr
    · exact hr
    · obtain ⟨message, -, hround⟩ := acceptForControl_eq_ok hchild
      have hother : r.incidentId ≠ c.incidentId := fun he => hne (by simp [Request.incident?, hc, he])
      have hspared := acceptRound_spares hk.runs hround hr hother
      exact hspared
  case answer =>
    obtain ⟨⟨view, db₁⟩, h, -, rfl⟩ := h
    rcases answer_eq_ok h with ⟨_, -, -, rfl⟩ |
      ⟨incident, row, question, message, db₂, -, -, hmem, hinc, hid, -, -, -, hmessage, hinsert⟩
    · exact hr
    · obtain ⟨-, rfl⟩ := Db.insertControl_eq_ok hinsert
      have hruns := (messageInTransaction_eq_ok hmessage).1.runs
      refine Table.mem_updateWhere_of_not (hruns ▸ hr) (decide_eq_false fun hsame => hne ?_)
      rw [hk.runs.eq_of_key hr hmem (hsame.trans hid.symm)]
      exact congrArg some hinc.symm
  case appendMessage =>
    obtain ⟨⟨m, db₁⟩, h, -, rfl⟩ := h
    exact (appendMessage_eq_ok h).runs ▸ hr
  case activateDue delayedId =>
    obtain ⟨db₁, h, -, rfl⟩ := h
    have hrechecks := hs.history.rechecks
    rcases activateDue_eq_ok hrechecks h with hside | ⟨d, hd, hdid, runId, hrun, db₂, hside, rfl⟩ |
      ⟨d, incident, db₂, -, -, -, -, -, -, -, -, hinsert, rfl⟩
    · exact hside.runs ▸ hr
    · refine Table.mem_updateWhere_of_not (hside.runs ▸ hr) (decide_eq_false ?_)
      rintro ⟨hsame, -⟩
      obtain ⟨q, hq, hqid, hqinc, -⟩ := hs.history.bound d hd runId hrun
      have hfind := hrechecks.keyed.find?_eq hd
      rw [hdid] at hfind
      refine hne ?_
      rw [hk.runs.eq_of_key hr hq (hsame.trans hqid.symm), hqinc]
      simp [Request.incident?, hfind]
    · have hspared := Db.insertRun_spares hinsert hr
      exact hspared
  case inspectDelayed =>
    obtain ⟨⟨row, db₁⟩, h, -, rfl⟩ := h
    exact (inspectDelayed_eq_ok hs.history.rechecks h).2.runs ▸ hr
  case exhaustDelayed =>
    obtain ⟨db₁, h, -, rfl⟩ := h
    exact (exhaustDelayed_eq_ok hs.history.rechecks h).2.runs ▸ hr
  case publishDelayed =>
    obtain ⟨db₁, h, -, rfl⟩ := h
    exact (publishDelayed_eq_ok hs.history.rechecks h).2.runs ▸ hr
  case openWindow =>
    obtain ⟨⟨payload, db₁⟩, h, -, rfl⟩ := h
    exact (openWindow_eq_ok h).2.runs ▸ hr
  case saveWindow =>
    obtain ⟨db₁, h, -, rfl⟩ := h
    exact (saveWindow_eq_ok h).2.runs ▸ hr
  case editBudget =>
    obtain ⟨db₁, h, -, rfl⟩ := h
    exact (editBudget_eq_ok h).2.runs ▸ hr

end Spares

/-! ### The fence of the saver -/

namespace Sys

variable {σ : Type} {env : Env} {s s' : Sys σ}

/-- A fence that is held belongs to a lease that was granted, and keeps the others out. -/
def Guarded (s : Sys σ) : Prop :=
  ∀ lease ∈ s.held, lease ∈ s.leases ∧ lease.Keeps s.db

/-- What the saver opens a fence for is a lease that owns its run. -/
theorem next_hold {lease : Lease} {asked : Nat}
    (h : next env s (.hold lease asked) = some s') :
    lease ∈ s.leases ∧ lease.Owns s.db s.now ∧ s' = { s with held := lease :: s.held } := by
  simp only [next] at h
  split at h
  · rename_i hguard
    split at h
    · rename_i row hfence
      exact ⟨hguard.1, fence_owns hfence, (Option.some.inj h).symm⟩
    · cases h
  · cases h

/-- The saver writes while it holds its fence. -/
theorem next_write {lease : Lease} {value : σ}
    (h : next env s (.write lease value) = some s') : lease ∈ s.held ∧ s' = { s with
      checkpoints := Function.update s.checkpoints lease.row.threadId (some value) } := by
  simp only [next] at h
  split at h
  · rename_i hheld
    exact ⟨hheld, (Option.some.inj h).symm⟩
  · cases h

/-- **The lock keeps the row**: whatever is evaluated while a fence is held, its run is still
running under the owner and the epoch of the fence. -/
theorem Guarded.step (hs : s.Sound env) (h : s.Guarded) {e : Event σ}
    (hnext : next env s e = some s') : s'.Guarded := by
  cases e with
  | elapse duration => exact Option.some.inj hnext ▸ h
  | begin request =>
    simp only [next] at hnext
    split at hnext
    · exact Option.some.inj hnext ▸ h
    · cases hnext
  | commit index asked draw skipped =>
    obtain ⟨t, ht, -, -, -, hfresh, hblocked, ⟨response, db, hok, rfl⟩ | ⟨_, -, rfl⟩⟩ :=
      next_commit hnext
    · rintro lease hheld
      obtain ⟨hgranted, r, hr, hid, howner, hepoch, hstatus⟩ := h lease hheld
      have hfixed := (hs.leased hgranted r hr hid).1
      refine ⟨?_, r, ?_, hid, howner, hepoch, hstatus⟩
      · unfold Sys.committed
        split
        · exact List.mem_cons_of_mem _ hgranted
        · exact hgranted
      · refine transact_spares hs.store (hs.ready ht hfresh) hok hr ?_
          (hid ▸ hblocked.2 lease hheld)
        rw [column_eq hfixed Run.incidentId fun _ => rfl]
        exact hblocked.1 lease hheld
    · exact h
  | abort index => exact Option.some.inj hnext ▸ h
  | hold lease asked =>
    obtain ⟨hgranted, howns, rfl⟩ := next_hold hnext
    rintro other hother
    rcases List.mem_cons.1 hother with rfl | hold
    · exact ⟨hgranted, howns.keeps⟩
    · exact h other hold
  | write lease value =>
    obtain ⟨-, rfl⟩ := next_write hnext
    exact h
  | release lease =>
    obtain rfl := Option.some.inj hnext
    exact fun other hother => h other (List.mem_of_mem_erase hother)

theorem Reachable.guarded (h : Reachable env s) : s.Guarded := by
  have hboth : s.Sound env ∧ s.Guarded :=
    Transition.Reachable.invariant (P := fun s : Sys σ => s.Sound env ∧ s.Guarded)
      ⟨sound_start, by simp [Guarded, start]⟩
      (fun _ _ _ hs hstep => ⟨(hs.1.step hstep).1, hs.2.step hs.1 hstep⟩) h
  exact hboth.2

/-! ### Leases that are lost -/

/-- The first lease expires, and the run is claimed again. -/
def takenOver : List (Sys σ → List (Event σ)) :=
  [fun _ => [.elapse (60 * second)], ask (fun _ => .claim "worker-2" 30 3) default]

end Sys

end IncidentAgent
