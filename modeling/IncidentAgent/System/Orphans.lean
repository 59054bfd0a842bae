import IncidentAgent.System.Precedence

/-!
# Orphaned writes

A prepared write keeps its incident busy: no round, no interaction and no message is
accepted until it is resolved. So it should belong to a run that has not ended, which an
owner or a human can still move on. A human who withdraws a diagnosis rejects its prepared
write, but an owner who publishes a result does not look at it: `finish` leaves the write
prepared under a run that has ended, for good.

`Sys.unorphaned_iff` is the exact condition. Throughout a run of the system no prepared
write is orphaned if and only if no owner publishes a result of a run whose write is still
prepared.
-/

namespace IncidentAgent

/-- **No write is orphaned**: what is prepared belongs to a run that has not ended. -/
def Db.Unorphaned (db : Db) : Prop :=
  ∀ o ∈ db.operations, o.state = .prepared → ∃ r ∈ db.runs, r.runId = o.runId ∧ r.active

/-! ### How a run ends -/

section Store

variable {env : Env} {tx : Tx} {lease : Lease} {db db' : Db}

/-- The fence lets the owner through. -/
theorem fence_of_owns (hk : db.Keys) (h : lease.Owns db tx.now) (hasked : tx.asked ≤ tx.now) :
    ∃ row, fence tx lease db = .ok row := by
  obtain ⟨r, hr, hid, hsome, howner, hepoch, hrunning, e, he, hlt⟩ := h
  have hexpiry : ∃ e ∈ r.leaseExpiresAt, tx.asked < e := ⟨e, he, lt_of_le_of_lt hasked hlt⟩
  have hfound : (db.runs.find? fun r => decide (r.runId = lease.row.runId ∧
      lease.row.leaseOwner.isSome ∧ r.leaseOwner = lease.row.leaseOwner ∧
      r.leaseEpoch = lease.row.leaseEpoch ∧ r.status = .running ∧
      ∃ e ∈ r.leaseExpiresAt, tx.asked < e)).isSome :=
    List.find?_isSome.2 ⟨r, hr, by simpa using ⟨hid, hsome, howner, hepoch, hrunning, hexpiry⟩⟩
  obtain ⟨row, hrow⟩ := Option.isSome_iff_exists.1 hfound
  have hp := List.find?_some hrow
  simp only [decide_eq_true_eq] at hp
  obtain rfl := hk.runs.eq_of_key (List.mem_of_find?_eq_some hrow) hr (hp.1.trans hid.symm)
  refine ⟨row, ?_⟩
  simp only [fence, bind_eq_ok, rowOr_eq_ok, raiseIf_eq_ok, pure_eq_ok, not_not]
  exact ⟨row, hrow, ⟨⟩, ⟨e, he, hlt⟩, rfl⟩

/-- A retry, and nothing else, is finished with a delay. -/
theorem finish_retry {status published : RunStatus} {args : FinishArgs}
    (h : finish tx lease status args db = .ok (published, db')) :
    status = .retryScheduled ↔ args.retrySeconds.isSome := by
  simp only [finish, bind_eq_ok, raiseIf_eq_ok, not_not] at h
  obtain ⟨-, -, -, hretry, -⟩ := h
  exact iff_of_eq hretry

/-- **An owner publishes the result that it asks to publish**, of a run that was not asked to
stop. -/
theorem finish_of_owns (hk : db.Keys) (h : lease.Owns db tx.now) (hasked : tx.asked ≤ tx.now)
    {status : RunStatus} {args : FinishArgs} (hended : status.terminal = true)
    (hretry : args.retrySeconds = none)
    (hstop : ∀ r ∈ db.runs, r.runId = lease.row.runId → r.stopRequested = false) :
    ∃ db', finish tx lease status args db = .ok (status, db') := by
  obtain ⟨row, hfence⟩ := fence_of_owns hk h hasked
  obtain ⟨hrow, hid, -⟩ := fence_eq_ok hfence
  have hout : finishOutcome db row status args = (status, args.phase, args.errorCode) := by
    simp [finishOutcome, hstop row hrow hid]
  have hne : status ≠ .queued ∧ status ≠ .running ∧ status ≠ .retryScheduled := by
    refine ⟨?_, ?_, ?_⟩ <;> rintro rfl <;> simp [RunStatus.terminal] at hended
  simp only [finish, bind_eq_ok, raiseIf_eq_ok, pure_eq_ok]
  have hstatus : (finishOutcome db row status args).1 = status := congrArg Prod.fst hout
  refine ⟨_, ⟨⟩, ?_, ⟨⟩, ?_, row, hfence, ⟨⟩, ?_, Prod.ext hstatus rfl⟩
  · simp [hne]
  · simp [hne, hretry]
  · simp [hstatus, hne]

/-- A run that ends by an update of one run is that run. -/
theorem ended_of_updateRun (hk : db.Keys) {r r' : Run} (hr : r ∈ db.runs)
    (hactive : r.status.terminal = false) (hr' : r' ∈ db'.runs) (hid : r'.runId = r.runId)
    (hended : r'.status.terminal = true) {id : String} {f : Run → Run}
    (hruns : db'.runs = Table.updateWhere (fun r => r.runId = id) f db.runs)
    (hf : ∀ r, (f r).runId = r.runId) : r.runId = id ∧ r' = f r := by
  rw [hruns] at hr'
  obtain ⟨q, hq, rfl⟩ := Table.mem_updateWhere.1 hr'
  by_cases hsel : q.runId = id
  · rw [if_pos (by simpa using hsel)] at hid
    obtain rfl := hk.runs.eq_of_key hq hr ((hf q).symm.trans hid)
    exact ⟨hsel, by simp [hsel]⟩
  · rw [if_neg (by simpa using hsel)] at hid hended
    obtain rfl := hk.runs.eq_of_key hq hr hid
    simp [hactive] at hended

/-- A run does not end where the runs stay. -/
theorem not_ended_of_runs (hk : db.Keys) {r r' : Run} (hr : r ∈ db.runs)
    (hactive : r.status.terminal = false) (hr' : r' ∈ db'.runs) (hid : r'.runId = r.runId)
    (hended : r'.status.terminal = true) (hruns : db'.runs = db.runs) : False := by
  rw [hruns] at hr'
  obtain rfl := hk.runs.eq_of_key hr' hr hid
  simp [hactive] at hended

/-- **A control that ends a diagnosis leaves it no prepared write.** -/
theorem control_ends (hs : db.History env) {incidentId : String} {body : ControlRequest}
    {expectedParent : Option String} {snapshot : Json} {view : ControlView}
    (h : control env tx incidentId body expectedParent snapshot db = .ok (view, db')) {r r' : Run}
    (hr : r ∈ db.runs) (hkind : r'.runKind = .diagnosis) (hactive : r.status.terminal = false)
    (hr' : r' ∈ db'.runs) (hid : r'.runId = r.runId) (hended : r'.status.terminal = true) :
    ∀ o ∈ db'.operation? r.runId, o.state ≠ .prepared := by
  rcases control_eq_ok h with ⟨_, -, -, -, rfl⟩ |
    ⟨latest, message, db₁, row, -, hlatest, hmessage, -, -, -, hinsert⟩
  · exact (not_ended_of_runs hs.keys hr hactive hr' hid hended rfl).elim
  · obtain ⟨-, rfl⟩ := Db.insertControl_eq_ok hinsert
    obtain ⟨hl, -, -⟩ := Db.mem_lane.1 (Db.mem_lane_of_latest hlatest)
    have happ := (messageInTransaction_eq_ok hmessage).1
    have hedits : Db.Edits env tx false db db₁ := happ.edits
    have hruns := happ.runs
    obtain ⟨q, hq, hqr⟩ := arbitrate_run (hedits.keys hs.keys) (hruns ▸ hl) hr' hkind
    rw [hruns] at hq
    have hqid : q.runId = r.runId := by
      rw [← hid, hqr]
      split
      · unfold Run.arbitrated
        split <;> [split <;> rfl; rfl]
      · rfl
    obtain rfl := hs.keys.runs.eq_of_key hq hr hqid
    by_cases hsel : q.runId = latest.runId
    · obtain rfl := hs.keys.runs.eq_of_key hq hl hsel
      have hdispatched : writeDispatched (db₁.operation? q.runId) = false := by
        by_contra hne
        rw [if_pos rfl] at hqr
        rw [hqr] at hended
        simp [Run.arbitrated, Run.active, hactive, hne, Run.stopped] at hended
      intro o ho hprepared
      have ho : (arbitrate tx incidentId q (writeDispatched (db₁.operation? q.runId)) body.action
          snapshot db₁).operation? q.runId = some o := ho
      rw [arbitrate_operation, Option.map_eq_some_iff] at ho
      obtain ⟨p, hp, rfl⟩ := ho
      have hprun := (Db.mem_of_operation? hp).2
      have hqactive : q.active := by simpa [Run.active] using hactive
      split at hprepared
      · cases hprepared
      · rename_i hne
        exact hne ⟨hqactive, hdispatched, hprun, hprepared⟩
    · rw [if_neg hsel] at hqr
      subst hqr
      simp [hactive] at hended

/-- **A diagnosis ends over a prepared write only by its owner**, who publishes a result. -/
theorem transact_ends {skipped : List String} {request : Request} {response : Response}
    (hs : db.Sound env) (hready : request.Ready tx db)
    (h : transact env tx skipped request db = .ok (response, db')) {r r' : Run}
    (hr : r ∈ db.runs) (hsound : (db.work r).Sound) (hkind : r'.runKind = .diagnosis)
    (hactive : r.status.terminal = false) (hr' : r' ∈ db'.runs) (hid : r'.runId = r.runId)
    (hended : r'.status.terminal = true) (hw : (db.work r).write = some .prepared)
    (hw' : (db'.work r').write = some .prepared) :
    ∃ lease status args, request = .finish lease status args ∧ lease.row.runId = r.runId ∧
      status.terminal = true ∧ args.retrySeconds = none ∧ lease.Owns db tx.now := by
  have hk := hs.keys
  cases hquiet : request.quiet with
  | true =>
    exfalso
    have hedits := transact_edits hs hready h
    rw [hquiet] at hedits
    rcases hedits.rests hs r' hr' hkind with ⟨q, hq, hqid, -, hwork⟩ | ⟨hnew, -⟩
    · obtain rfl := hk.runs.eq_of_key hq hr (hqid.trans hid)
      have hstatus : r'.status = q.status := congrArg Work.status hwork
      simp [hstatus, hactive] at hended
    · exact hnew r hr hid.symm
  | false =>
    cases request <;> simp only [Request.quiet, reduceCtorEq] at hquiet <;>
      simp only [transact, map_eq_ok, Prod.mk.injEq, Except.ok.injEq] at h
    case claim owner seconds maxAttempts =>
      obtain ⟨-, rfl⟩ := h
      rcases claim_cases (Prod.mk.eta (p := claim tx owner seconds maxAttempts skipped db)).symm with
        ⟨-, hdb⟩ | ⟨row, -, _, -, -, -, hdb⟩ <;> rw [hdb] at hr'
      · exact (not_ended_of_runs hk hr hactive hr' hid hended rfl).elim
      · obtain ⟨-, rfl⟩ := ended_of_updateRun hk hr hactive hr' hid hended rfl fun _ => rfl
        cases hended
    case finish lease status args =>
      obtain ⟨⟨published, db₁⟩, h, -, rfl⟩ := h
      obtain ⟨row, phase, code, hfence, -, -, hout, -, hdb⟩ := finish_eq_ok h
      have hruns : db₁.runs = Table.updateWhere (fun q => q.runId = lease.row.runId)
          (Run.finished tx.now published code args) db.runs := by
        rw [hdb]
        cases phase <;> rfl
      obtain ⟨hsel, rfl⟩ := ended_of_updateRun hk hr hactive hr' hid hended hruns fun _ => rfl
      have hrow := hk.eq_of_fence hfence r hr hsel
      have hstop : row.stopRequested = false := by
        by_contra hne
        obtain ⟨o, ho, hne'⟩ := hsound.sent hactive (by simpa [Db.work, hrow] using hne)
        exact hne' (Option.some.inj (hw.symm.trans ho)).symm
      rcases finishOutcome_cases hout with ⟨rfl, -⟩ | ⟨hs, -⟩ | ⟨hs, -⟩
      · have hpub : published.terminal = true := hended
        have hretry := finish_retry h
        refine ⟨lease, published, args, rfl, hsel.symm, hpub, ?_, fence_owns hfence⟩
        cases hseconds : args.retrySeconds with
        | none => rfl
        | some n =>
          rw [hseconds] at hretry
          simp [hretry.2 rfl, RunStatus.terminal] at hpub
      all_goals simp [hstop] at hs
    case queueApproval =>
      obtain ⟨db₁, h, -, rfl⟩ := h
      obtain ⟨_, -, -, ⟨-, rfl⟩ | ⟨-, -, -, rfl⟩⟩ := queueApproval_eq_ok h
      · exact (not_ended_of_runs hk hr hactive hr' hid hended rfl).elim
      · obtain ⟨-, rfl⟩ := ended_of_updateRun hk hr hactive hr' hid hended rfl fun _ => rfl
        cases hended
    case prepare =>
      obtain ⟨⟨o, db₁⟩, h, -, rfl⟩ := h
      refine (not_ended_of_runs hk hr hactive hr' hid hended ?_).elim
      obtain ⟨-, -, -, ⟨-, rfl, -⟩ | ⟨-, -, -, rfl⟩⟩ := prepare_eq_ok h <;> rfl
    case dispatch =>
      obtain ⟨db₁, h, -, rfl⟩ := h
      refine (not_ended_of_runs hk hr hactive hr' hid hended ?_).elim
      obtain ⟨-, -, -, rfl⟩ := dispatch_eq_ok h
      rfl
    case record =>
      obtain ⟨db₁, h, -, rfl⟩ := h
      refine (not_ended_of_runs hk hr hactive hr' hid hended ?_).elim
      obtain ⟨-, -, rfl⟩ := record_eq_ok h
      rfl
    case control =>
      obtain ⟨⟨view, db₁⟩, h, -, rfl⟩ := h
      obtain ⟨o, ho, hprepared⟩ := Option.map_eq_some_iff.1 hw'
      rw [hid] at ho
      exact absurd hprepared (control_ends hs.history h hr hkind hactive hr' hid hended o ho)
    case answer incidentId runId body =>
      obtain ⟨⟨view, db₁⟩, h, -, rfl⟩ := h
      rcases answer_eq_ok h with ⟨_, -, -, rfl⟩ |
        ⟨incident, row, question, message, db₂, -, -, -, -, -, -, -, -, hmessage, hinsert⟩
      · exact (not_ended_of_runs hk hr hactive hr' hid hended rfl).elim
      · obtain ⟨-, hdb⟩ := Db.insertControl_eq_ok hinsert
        have happ := (messageInTransaction_eq_ok hmessage).1
        have hruns : db₁.runs = Table.updateWhere (fun r => r.runId = runId)
            (Run.answered (Answer.of question row body message) (incident.eventRevision + 1))
            db.runs := by
          rw [hdb, ← happ.runs]
          rfl
        obtain ⟨-, rfl⟩ := ended_of_updateRun hk hr hactive hr' hid hended hruns fun _ => rfl
        cases hended

end Store

/-! ### The exact condition -/

namespace Sys

variable {σ : Type} {env : Env} {s s' : Sys σ}

/-- **An event heeds the journal** unless it lets an owner publish a result of a run whose
write is prepared. -/
def Heeds (s : Sys σ) : Event σ → Prop
  | .commit index _ _ _ => ∀ t ∈ s.transactions[index]?, ∀ lease status args,
      t.request = .finish lease status args → status.terminal = true →
      args.retrySeconds = none → lease.Owns s.db s.now →
        ∀ o ∈ s.db.operation? lease.row.runId, o.state ≠ .prepared
  | _ => True

/-- An event that heeds the journal orphans no write. -/
theorem Sound.unorphaned (h : s.Sound env) (hset : s.db.Settled) (hp : s.db.Unorphaned)
    {e : Event σ} (hnext : next env s e = some s') (hheeds : s.Heeds e) : s'.db.Unorphaned := by
  obtain ⟨hs', -, hlater⟩ := h.step hnext
  intro o' ho' hstate
  obtain ⟨r', hr', hid, -, hkind⟩ := hs'.store.history.writes o' ho'
  refine ⟨r', hr', hid, ?_⟩
  have hw' : (s'.db.work r').write = some .prepared := by
    have hfound := hs'.store.keys.operation?_eq ho'
    rw [← hid] at hfound
    simp [Db.work, hfound, hstate]
  rcases h.moves hnext r' hr' hkind with ⟨r, hr, hrid, hkind₀, hstep⟩ | ⟨-, hfresh⟩
  · have hopen : (s.db.work r).write = some .prepared → r.status.terminal = false := by
      intro hw
      obtain ⟨o, ho, hprepared⟩ := Option.map_eq_some_iff.1 hw
      obtain ⟨hmem, horun⟩ := Db.mem_of_operation? ho
      obtain ⟨q, hq, hqid, hactive⟩ := hp o hmem hprepared
      obtain rfl := h.store.keys.runs.eq_of_key hq hr (hqid.trans horun)
      simpa [Run.active] using hactive
    have hfinish : r.status = .running → (s.db.work r).write = some .prepared →
        r'.status.terminal = false := by
      intro _ hw
      have hactive := hopen hw
      by_contra hne
      have hended : r'.status.terminal = true := by simpa using hne
      rcases next_cases hnext with hdb | ⟨index, asked, draw, skipped, t, response, rfl, ht, hok⟩
      · rw [hdb] at hr'
        obtain rfl := h.store.keys.runs.eq_of_key hr' hr hrid.symm
        simp [hactive] at hended
      · obtain ⟨u, hmem, hu, -, -, hdraw, -⟩ := next_commit hnext
        obtain rfl : t = u := Option.some.inj (ht.symm.trans hu)
        obtain ⟨lease, status, args, hrequest, hlease, hresult, hretry, howns⟩ :=
          transact_ends h.store (h.ready hmem hdraw) hok hr (hset r hr hkind₀) hkind hactive hr'
            hrid.symm hended hw hw'
        obtain ⟨o, ho, hprepared⟩ := Option.map_eq_some_iff.1 hw
        exact hheeds t ht lease status args hrequest hresult hretry howns o (hlease ▸ ho) hprepared
    have hactive : r'.status.terminal = false := hstep.open_of_prepared hopen hfinish hw'
    simp [Run.active, hactive]
  · simp [hfresh, Work.fresh] at hw'

/-- An event that does not heed the journal orphans a write. -/
theorem Sound.heeds (h : s.Sound env) (hset : s.db.Settled) (hp : s.db.Unorphaned)
    {e : Event σ} (hnext : next env s e = some s') (hp' : s'.db.Unorphaned) : s.Heeds e := by
  cases e with
  | commit index asked draw skipped =>
    intro t ht lease status args hrequest hresult hretry howns o ho hprepared
    have hk := h.store.keys
    obtain ⟨u, hmem, hu, -, hasked, hdraw, -, hout⟩ := next_commit hnext
    obtain rfl : t = u := Option.some.inj (ht.symm.trans hu)
    -- A run with a prepared write was not asked to stop.
    have hstop : ∀ r ∈ s.db.runs, r.runId = lease.row.runId → r.stopRequested = false := by
      intro r hr hid
      obtain ⟨hmo, horun⟩ := Db.mem_of_operation? ho
      obtain ⟨q, hq, hqid, -, hkind⟩ := h.store.history.writes o hmo
      obtain rfl := hk.runs.eq_of_key hr hq (hid.trans (horun.symm.trans hqid.symm))
      obtain ⟨p, hpr, hpid, hactive⟩ := hp o hmo hprepared
      obtain rfl := hk.runs.eq_of_key hpr hr (hpid.trans (horun.trans hid.symm))
      by_contra hne
      have hw : (s.db.work p).write = some .prepared := by
        rw [Option.mem_def, ← hid] at ho
        simp [Db.work, ho, hprepared]
      obtain ⟨state, hstate, hne'⟩ := (hset p hr hkind).sent
        (by simpa [Db.work, Run.active] using hactive) (by simpa [Db.work] using hne)
      exact hne' (Option.some.inj (hw.symm.trans hstate)).symm
    have hfinish : ∃ db, finish (s.tx t asked draw) lease status args s.db = .ok (status, db) :=
      finish_of_owns hk howns hasked hresult hretry hstop
    obtain ⟨db, hok⟩ := hfinish
    have htransact : transact env (s.tx t asked draw) skipped t.request s.db =
        .ok (.status status, db) := by
      rw [hrequest]
      simp only [transact, map_eq_ok]
      exact ⟨_, hok, rfl⟩
    rcases hout with ⟨response, db', hok', rfl⟩ | ⟨_, herr, -⟩
    · obtain ⟨-, rfl⟩ := Prod.mk.inj (Except.ok.inj (htransact.symm.trans hok'))
      obtain ⟨_, phase, code, -, -, -, -, -, hdb⟩ := finish_eq_ok hok
      have hruns : db.runs = Table.updateWhere (fun r => r.runId = lease.row.runId)
          (Run.finished s.now status code args) s.db.runs := by
        rw [hdb]
        cases phase <;> rfl
      have hoperations : db.operations = s.db.operations := by
        rw [hdb]
        cases phase <;> rfl
      obtain ⟨hmo, horun⟩ := Db.mem_of_operation? ho
      have hmo' : o ∈ db.operations := hoperations ▸ hmo
      obtain ⟨r, hr, hid, hactive⟩ := hp' o hmo' hprepared
      have hr : r ∈ db.runs := hr
      rw [hruns] at hr
      obtain ⟨q, hq, rfl⟩ := Table.mem_updateWhere.1 hr
      by_cases hsel : q.runId = lease.row.runId
      · rw [if_pos (by simpa using hsel)] at hactive
        simp [Run.active, Run.finished, hresult] at hactive
      · rw [if_neg (by simpa using hsel)] at hid
        exact hsel (hid.trans horun)
    · rw [htransact] at herr
      cases herr
  | _ => trivial

/-- **No orphaned write, exactly**: throughout a run of the system every prepared write
belongs to a run that has not ended, if and only if all its events heed the journal. -/
theorem unorphaned_iff (env : Env) (es : List (Event σ)) :
    Transition.Throughout (next env) (fun s : Sys σ => s.db.Unorphaned) (start σ) es ↔
      Transition.Along (next env) Heeds (start σ) es := by
  refine Transition.throughout_iff_along (I := Reachable env) (fun s e s' hs hstep => hs.step hstep)
    (fun s e s' hs hp hstep => ?_) (Transition.Reachable.start _) ?_ es
  · exact ⟨hs.sound.heeds hs.settled hp hstep, hs.sound.unorphaned hs.settled hp hstep⟩
  · simp [Db.Unorphaned, start, Db.empty]

/-- The owner of an approved repair prepares its write, fails before the dispatch, and
publishes the failure. -/
def failedPrepared : List (Sys σ → List (Event σ)) :=
  [ask (fun s => .prepare s.lease default) default,
    ask (fun s => .finish s.lease .failed default) default]

/-- **A write is orphaned** by a failure between its preparation and its dispatch, and keeps
its incident busy. -/
theorem orphaned_by_failure : ∃ s : Sys Unit,
    Transition.follow (next .plain) (start Unit) (opening ++ approved ++ failedPrepared) = some s ∧
      s.Reachable .plain ∧ ¬ s.db.Unorphaned ∧ s.db.unresolvedOperation "incident" := by
  obtain ⟨s, hrun, hs, hprepared, hended, hbusy⟩ := Transition.exists_reachable (next .plain)
    (start Unit) (opening ++ approved ++ failedPrepared)
    (fun s => (∃ o ∈ s.db.operations, o.state = .prepared) ∧
      (∀ r ∈ s.db.runs, r.active = false) ∧ s.db.unresolvedOperation "incident")
    (by decide +kernel)
  refine ⟨s, hrun, hs, fun hun => ?_, hbusy⟩
  obtain ⟨o, ho, hstate⟩ := hprepared
  obtain ⟨r, hr, -, hactive⟩ := hun o ho hstate
  simp [hended r hr] at hactive

end Sys

end IncidentAgent
