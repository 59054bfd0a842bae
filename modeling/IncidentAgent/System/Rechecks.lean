import IncidentAgent.System.Frames
import IncidentAgent.System.Frozen
import IncidentAgent.System.Lanes

/-!
# Delayed rechecks

A window that passed is rechecked once, later, on the basis that the incident had when the
recheck was scheduled. The basis is compared when the recheck is activated, before it samples
and again when its sample is published, each time in another transaction, while humans may
change it in between. Only the last comparison makes a recheck pass (`publishDelayed_passed`),
and it is made in the transaction that publishes.

A recheck that has ended stays as it ended, and one that was bound to a run stays bound to it
(`DelayedRecheck.Advances`); so it takes one run at most, which is inserted while the incident
is idle (`Sys.Reachable.rechecked`).
-/

namespace IncidentAgent

/-! ### Passing -/

section Passing

variable {env : Env} {tx : Tx} {lease : Lease} {db db' : Db}

/-- A delayed sample passes only on the target that the recheck expects. -/
theorem delayedVerdict_passed {expected : ObservationTarget} {sample : DelayedSample}
    (h : (delayedVerdict expected sample).1 = .passed) :
    sample.identity = some expected ∧ targetChanged expected sample = false ∧
      sample.status = .passed := by
  unfold delayedVerdict at h
  split at h
  · cases h
  · rename_i hsame
    rw [not_or, not_and, not_not] at hsame
    split at h
    · cases h
    · rename_i hsome
      have hidentity := hsame.2 (Option.isSome_iff_ne_none.2 (by simpa using hsome))
      cases hs : sample.status <;> simp only [hs, reduceCtorEq] at h
      exact ⟨hidentity, by simpa using hsame.1, rfl⟩

/-- What a schedule records: the basis that the incident has at that moment. -/
structure DelayedRecheck.Scheduled (db : Db) (key incidentId : String) (owner : Option Lease)
    (payload : WindowPayload) (d : DelayedRecheck) : Prop where
  status : d.status = .pending ∧ d.runId = none
  policy : d.observationKey = key ∧ d.policyVersion = payload.policy.version
  passed : payload.status = .passed ∧ payload.target = some d.target
  incident : d.incidentId = incidentId ∧ ∃ incident, db.incident? incidentId = some incident ∧
    d.eventRevision = incident.eventRevision
  basis : d.basisRunId = latestDiagnosis db incidentId
  source : d.sourceRunId = owner.map (·.row.runId)

/-- **What the save of a window does to the rechecks**: nothing, or it schedules one on the
basis of that moment. -/
theorem saveWindow_delayed {owner : Option Lease} {key incidentId token delayedId : String}
    {payload : WindowPayload}
    (h : saveWindow tx owner key incidentId token delayedId payload db = .ok db') :
    db'.delayed = db.delayed ∨ ∃ d, db'.delayed = db.delayed ++ [d] ∧ d.status = .pending ∧
      d.Scheduled db key incidentId owner payload := by
  simp only [saveWindow, bind_eq_ok, raiseIf_eq_ok] at h
  obtain ⟨_, -, -, -, h⟩ := h
  split at h
  · rename_i hpassed
    unfold schedule at h
    split at h
    · exact Or.inl (by rw [← pure_eq_ok.1 h]; rfl)
    · rename_i target htarget
      split at h
      · exact Or.inl (by rw [← pure_eq_ok.1 h]; rfl)
      · simp only [bind_eq_ok, rowOr_eq_ok] at h
        obtain ⟨incident, hincident, h⟩ := h
        split at h
        · exact Or.inl (by rw [← pure_eq_ok.1 h]; rfl)
        · simp only [bind_eq_ok, raiseIf_eq_ok, pure_eq_ok] at h
          obtain ⟨-, -, rfl⟩ := h
          exact Or.inr ⟨_, rfl, rfl, ⟨rfl, rfl⟩, ⟨rfl, rfl⟩, ⟨hpassed, htarget⟩,
            ⟨rfl, incident, hincident, rfl⟩, rfl, rfl⟩
  · exact Or.inl (by rw [← pure_eq_ok.1 h]; rfl)

/-- **What holds of a recheck at a moment**: it runs, its basis is what it was scheduled on,
and its time is not over. -/
structure DelayedRecheck.Valid (db : Db) (now : Nat) (d : DelayedRecheck) : Prop where
  running : d.status = .running
  basis : ∃ incident, db.incident? d.incidentId = some incident ∧
    incident.eventRevision = d.eventRevision ∧ latestDiagnosis db d.incidentId = d.basisRunId
  source : ∀ id ∈ d.sourceRunId, ∀ r ∈ db.run? id,
    r.invalidatedAt = none ∧ r.status ≠ .cancelled
  due : now < d.expiresAt

/-- A basis that is not stale is what the recheck was scheduled on. -/
theorem DelayedRecheck.valid_of_stale {d : DelayedRecheck} {incident : Incident} {now : Nat}
    (hrunning : d.status = .running) (hi : db.incident? d.incidentId = some incident)
    (hstale : stale db d incident = false) (hdue : now < d.expiresAt) : d.Valid db now := by
  simp only [stale, Bool.or_eq_false_iff, decide_eq_false_iff_not, not_not] at hstale
  obtain ⟨⟨hrevision, hlatest⟩, hsource⟩ := hstale
  refine ⟨hrunning, ⟨incident, hi, hrevision, hlatest⟩, fun id hid r hr => ?_, hdue⟩
  rw [Option.mem_def] at hid hr
  simp only [hid, Option.bind_some, hr, Bool.or_eq_false_iff, decide_eq_false_iff_not] at hsource
  exact ⟨by simpa using hsource.1, hsource.2⟩

/-- The rechecks are those that were there, and none of them has come to pass. -/
structure Db.Unpassed (db db' : Db) : Prop where
  ids : db'.delayed.map DelayedRecheck.delayedId = db.delayed.map DelayedRecheck.delayedId
  passed : ∀ d' ∈ db'.delayed, d'.status = .passed →
    ∃ d ∈ db.delayed, d.delayedId = d'.delayedId ∧ d.status = .passed

theorem Db.Unpassed.refl (db : Db) : db.Unpassed db := ⟨rfl, fun d hd h => ⟨d, hd, rfl, h⟩⟩

theorem Db.Unpassed.trans {db₁ db₂ db₃ : Db} (h : db₁.Unpassed db₂) (h' : db₂.Unpassed db₃) :
    db₁.Unpassed db₃ where
  ids := h'.ids.trans h.ids
  passed d hd hp := by
    obtain ⟨d₂, hd₂, hid, hp₂⟩ := h'.passed d hd hp
    obtain ⟨d₁, hd₁, hid₁, hp₁⟩ := h.passed d₂ hd₂ hp₂
    exact ⟨d₁, hd₁, hid₁.trans hid, hp₁⟩

/-- A recheck that was not there is new among the rechecks. -/
theorem Db.Unpassed.known {db₁ db₂ : Db} (h : db₁.Unpassed db₂) {d' : DelayedRecheck}
    (hd' : d' ∈ db₂.delayed) : ∃ d ∈ db₁.delayed, d.delayedId = d'.delayedId := by
  have hmem : d'.delayedId ∈ db₁.delayed.map DelayedRecheck.delayedId :=
    h.ids ▸ List.mem_map_of_mem hd'
  exact List.mem_map.1 hmem

/-- An update that makes no recheck pass. -/
theorem Db.unpassed_update (db : Db) (delayedId : String) {f : DelayedRecheck → DelayedRecheck}
    (hid : ∀ d, (f d).delayedId = d.delayedId)
    (hf : ∀ d, (f d).status = .passed → d.status = .passed) :
    db.Unpassed (db.updateDelayed delayedId f) where
  ids := Table.map_updateWhere fun d _ _ => hid d
  passed d' hd' hpassed := by
    obtain ⟨d, hd, rfl⟩ := Table.mem_updateWhere.1 hd'
    by_cases hsel : d.delayedId = delayedId
    · rw [if_pos (by simpa using hsel)] at hpassed ⊢
      exact ⟨d, hd, (hid d).symm, hf d hpassed⟩
    · rw [if_neg (by simpa using hsel)] at hpassed ⊢
      exact ⟨d, hd, rfl, hpassed⟩

/-- The end of a recheck that does not pass. -/
theorem endDelayed_unpassed {row : DelayedRecheck} {status : DelayedStatus} {reason : String}
    {result : Option Json} (hne : status ≠ .passed) :
    db.Unpassed (endDelayed db row status reason result) :=
  db.unpassed_update _ (fun _ => rfl) fun _ h => absurd h hne

theorem postponeDelayed_unpassed {row : DelayedRecheck} {reason : Option String} :
    db.Unpassed (postponeDelayed tx row reason db) :=
  db.unpassed_update _ (fun _ => rfl) fun _ h => h

/-- No activation makes a recheck pass. -/
theorem activateDue_unpassed {delayedId : String} (h : activateDue env tx delayedId db = .ok db') :
    db.Unpassed db' := by
  simp only [activateDue, bind_eq_ok, rowOr_eq_ok] at h
  obtain ⟨row, -, incident, -, h⟩ := h
  split at h
  · exact pure_eq_ok.1 h ▸ .refl db
  · split at h
    · have hne : (if stale db row incident then DelayedStatus.invalidated else .expired) ≠
          .passed := by
        split <;> decide
      have hend : db.Unpassed (endDelayed db row
          (if stale db row incident then DelayedStatus.invalidated else .expired)
          (if stale db row incident then "BASIS_CHANGED" else "DELAYED_RECHECK_EXPIRED") none) :=
        endDelayed_unpassed hne
      split at h <;> obtain rfl := pure_eq_ok.1 h
      · exact hend
      · exact ⟨hend.ids, hend.passed⟩
    · split at h
      · simp only [bind_eq_ok, rowOr_eq_ok] at h
        obtain ⟨run, -, h⟩ := h
        split at h
        · exact pure_eq_ok.1 h ▸ endDelayed_unpassed (by decide)
        · exact pure_eq_ok.1 h ▸ postponeDelayed_unpassed
      · split at h
        · exact pure_eq_ok.1 h ▸ postponeDelayed_unpassed
        · simp only [bind_eq_ok, pure_eq_ok] at h
          obtain ⟨db₁, hinsert, rfl⟩ := h
          have hdelayed := (Db.insertRun_aligned hinsert).2.2
          have hinsert : db.Unpassed db₁ := by
            refine ⟨by rw [hdelayed], fun d hd hp => ⟨d, hdelayed ▸ hd, rfl, hp⟩⟩
          exact hinsert.trans (db₁.unpassed_update _ (fun _ => rfl) fun _ h => by cases h)

/-- Nor does the look at the recheck of a leased run. -/
theorem lockedDelayed_unpassed {row : DelayedRecheck}
    (h : lockedDelayed tx lease db = .ok (row, db')) : db.Unpassed db' := by
  obtain ⟨d, -, _, -, -, -, -, ⟨-, hstatus, -, rfl⟩ | ⟨-, rfl, -⟩⟩ := lockedDelayed_eq_ok h
  · refine endDelayed_unpassed ?_
    rcases hstatus with hs | hs <;> rw [hs] <;> decide
  · exact .refl db'

/-- Nor does the end of the attempts. -/
theorem exhaustDelayed_unpassed (h : exhaustDelayed tx lease db = .ok db') : db.Unpassed db' := by
  simp only [exhaustDelayed, bind_eq_ok] at h
  obtain ⟨_, -, ⟨row, db₁⟩, hlocked, h⟩ := h
  refine (lockedDelayed_unpassed hlocked).trans ?_
  split at h
  · exact pure_eq_ok.1 h ▸ endDelayed_unpassed (by decide)
  · exact pure_eq_ok.1 h ▸ .refl _

/-- Nor does the schedule of a recheck. -/
theorem saveWindow_passed {owner : Option Lease} {key incidentId token delayedId : String}
    {payload : WindowPayload}
    (h : saveWindow tx owner key incidentId token delayedId payload db = .ok db')
    {d' : DelayedRecheck} (hd' : d' ∈ db'.delayed) (hpassed : d'.status = .passed) :
    ∃ d ∈ db.delayed, d.delayedId = d'.delayedId ∧ d.status = .passed := by
  rcases saveWindow_delayed h with hsame | ⟨d, hnew, hpending, -⟩
  · exact ⟨d', hsame ▸ hd', rfl, hpassed⟩
  · rw [hnew] at hd'
    rcases List.mem_append.1 hd' with hold | hlast
    · exact ⟨d', hold, rfl, hpassed⟩
    · rw [List.mem_singleton.1 hlast, hpending] at hpassed
      cases hpassed

/-- **A sample makes a recheck pass** only if the recheck is valid in the very transaction,
and the sample saw the target that was scheduled. -/
theorem publishDelayed_passed (hr : db.Rechecks) {sample : DelayedSample}
    (h : publishDelayed tx lease sample db = .ok db') {d' : DelayedRecheck}
    (hd' : d' ∈ db'.delayed) (hpassed : d'.status = .passed) :
    (∃ d ∈ db.delayed, d.delayedId = d'.delayedId ∧ d.status = .passed) ∨
      ∃ d ∈ db.delayed, d.delayedId = d'.delayedId ∧ d.runId = some lease.row.runId ∧
        d.Valid db tx.now ∧ sample.identity = some d.target ∧ sample.status = .passed := by
  simp only [publishDelayed, bind_eq_ok] at h
  obtain ⟨_, -, ⟨row, db₁⟩, hlocked, h⟩ := h
  obtain ⟨d, hd, incident, hincident, -, hrun, hinc, hcases⟩ := lockedDelayed_eq_ok hlocked
  rcases hcases with ⟨-, hstatus, hid, rfl⟩ | ⟨rfl, rfl, hvalid⟩
  · -- The recheck has just ended otherwise, and the sample is only kept.
    have hne : row.status ≠ .running := by rcases hstatus with hs | hs <;> simp [hs]
    have hnp : row.status ≠ .passed := by rcases hstatus with hs | hs <;> simp [hs]
    rw [if_neg hne] at h
    obtain rfl := pure_eq_ok.1 h
    obtain ⟨e, he, rfl⟩ := Table.mem_updateWhere.1 hd'
    obtain ⟨f, hf, rfl⟩ := Table.mem_updateWhere.1 he
    left
    by_cases hsel : f.delayedId = d.delayedId
    · have hsel' : f.delayedId = row.delayedId := hsel.trans hid.symm
      simp [hsel, hid, hnp] at hpassed
    · have hsel' : ¬ f.delayedId = row.delayedId := fun he => hsel (he.trans hid)
      simp only [hsel, hsel', decide_false, Bool.false_eq_true, if_false] at hpassed ⊢
      exact ⟨f, hf, rfl, hpassed⟩
  · split at h
    · rename_i hrunning
      have hrunning : row.status = .running := hrunning
      obtain ⟨hfresh, hdue⟩ := hvalid hrunning
      obtain rfl := pure_eq_ok.1 h
      obtain ⟨e, he, rfl⟩ := Table.mem_updateWhere.1 hd'
      by_cases hsel : e.delayedId = row.delayedId
      · obtain rfl := hr.keyed.eq_of_key he hd hsel
        simp only [decide_true, if_true] at hpassed ⊢
        obtain ⟨hidentity, -, hsample⟩ := delayedVerdict_passed hpassed
        exact Or.inr ⟨e, hd, rfl, hrun,
          DelayedRecheck.valid_of_stale hrunning (hinc ▸ hincident) hfresh hdue, hidentity, hsample⟩
      · simp only [hsel, decide_false, Bool.false_eq_true, if_false] at hpassed ⊢
        exact Or.inl ⟨e, he, rfl, hpassed⟩
    · obtain rfl := pure_eq_ok.1 h
      obtain ⟨e, he, rfl⟩ := Table.mem_updateWhere.1 hd'
      left
      by_cases hsel : e.delayedId = row.delayedId
      · simp only [hsel, decide_true, if_true] at hpassed
        exact ⟨row, hd, by simp [hsel], hpassed⟩
      · simp only [hsel, decide_false, Bool.false_eq_true, if_false] at hpassed ⊢
        exact ⟨e, he, rfl, hpassed⟩

end Passing

/-! ### The run of a recheck -/

/-- The interaction that carries out a delayed recheck. -/
structure Run.Carries (d : DelayedRecheck) (r : Run) : Prop where
  kind : r.runKind = .interaction
  workflow : r.workflowVersion = delayedWorkflow
  payload : r.inputPayload.get? "delayed_id" = some (.str d.delayedId)

section Carried

variable {env : Env} {tx : Tx} {db db' : Db}

end Carried

/-! ### In every run of the system -/

namespace Sys

variable {σ : Type} {env : Env} {s s' : Sys σ}

/-- A recheck that passes in a step passes by the publication of its sample. -/
theorem Sound.passes (h : s.Sound env) {e : Event σ} (hnext : next env s e = some s')
    {d' : DelayedRecheck} (hd' : d' ∈ s'.db.delayed) (hpassed : d'.status = .passed)
    (hbefore : ∀ d ∈ s.db.delayed, d.delayedId = d'.delayedId → d.status ≠ .passed) :
    ∃ lease sample, s.Commits env (.publishDelayed lease sample) .done s' ∧
      ∃ d ∈ s.db.delayed, d.delayedId = d'.delayedId ∧ d.runId = some lease.row.runId ∧
        d.Valid s.db s.now ∧ sample.identity = some d.target ∧ sample.status = .passed := by
  have hnot : ¬ ∃ d ∈ s.db.delayed, d.delayedId = d'.delayedId ∧ d.status = .passed := by
    rintro ⟨d, hd, hid, hp⟩
    exact hbefore d hd hid hp
  rcases next_db hnext with hdb | ⟨request, response, hc⟩
  · exact absurd ⟨d', hdb ▸ hd', rfl, hpassed⟩ hnot
  · obtain ⟨tx, skipped, hnow, hready, -, hok⟩ := h.of_commits hc
    have hrechecks := h.store.history.rechecks
    cases hr : request.rechecks with
    | false =>
      rw [(transact_frame hrechecks hok).delayed hr] at hd'
      exact absurd ⟨d', hd', rfl, hpassed⟩ hnot
    | true =>
      cases request <;> simp only [Request.rechecks, Bool.false_eq_true] at hr <;>
        simp only [transact, map_eq_ok, Prod.mk.injEq] at hok
      case activateDue =>
        obtain ⟨db, hok, -, rfl⟩ := hok
        exact absurd ((activateDue_unpassed hok).passed d' hd' hpassed) hnot
      case inspectDelayed =>
        obtain ⟨⟨row, db⟩, hok, -, rfl⟩ := hok
        simp only [inspectDelayed, bind_eq_ok] at hok
        obtain ⟨_, -, hok⟩ := hok
        exact absurd ((lockedDelayed_unpassed hok).passed d' hd' hpassed) hnot
      case exhaustDelayed =>
        obtain ⟨db, hok, -, rfl⟩ := hok
        exact absurd ((exhaustDelayed_unpassed hok).passed d' hd' hpassed) hnot
      case publishDelayed lease sample =>
        obtain ⟨db, hok, hdone, hdb⟩ := hok
        rcases publishDelayed_passed hrechecks hok (hdb ▸ hd') hpassed with hold |
          ⟨d, hd, hid, hrun, hvalid, hidentity, hsample⟩
        · exact absurd hold hnot
        · subst hdone
          exact ⟨lease, sample, hc, d, hd, hid, hrun, hnow ▸ hvalid, hidentity, hsample⟩
      case saveWindow =>
        obtain ⟨db, hok, -, hdb⟩ := hok
        exact absurd (saveWindow_passed hok (hdb ▸ hd') hpassed) hnot

/-- A window that passed on a target that is bound. -/
def stableWindow : WindowPayload :=
  { (default : WindowPayload) with
    status := .passed, target := some default, finishedAt := some 0 }

/-- After the diagnosis is published, its window passes, and the delayed recheck of the window
is activated, claimed and passes too. -/
def confirmed : List (Sys σ → List (Event σ)) :=
  published ++
  [ask (fun _ => .openWindow none "window" "incident" "token" stableWindow) default,
    ask (fun _ => .saveWindow none "window" "incident" "token" "delayed-1" stableWindow) default,
    ask (fun _ => .activateDue "delayed-1")
      { (default : Draw) with runId := "run-2", threadId := "thread-2" },
    ask (fun _ => .claim "worker-1" 30 3) default,
    ask (fun s => .publishDelayed s.lease ⟨[], some default, .passed, .null⟩) default]

end Sys

end IncidentAgent
