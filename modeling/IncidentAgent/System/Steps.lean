import IncidentAgent.Store.Transactions
import IncidentAgent.System.Machine

/-!
# What a step of the system does

Two facts about an event reduce the rest to the repository methods. An event either leaves
the database as it was, or commits one transaction of one open request (`Sys.next_db`);
and a transaction is a sequence of edits (`transact_edits`), quiet ones unless it is one
of the eight transactions that arbitrate between humans and workers.
-/

namespace IncidentAgent

/-! ### Transactions are edits -/

/-- The requests that leave the arbitration alone. -/
def Request.quiet : Request → Bool
  | .claim _ _ _ | .finish _ _ _ | .queueApproval _ _ _ | .prepare _ _ | .dispatch _ _
  | .record _ _ _ | .control _ _ _ _ | .answer _ _ _ => false
  | _ => true

/-- The run that a request takes for the latest diagnosis of its incident. -/
def Request.parent? (db : Db) : Request → Option String
  | .acceptRound _ _ _ parentRunId _ => parentRunId
  | .complete lease _ _ _ => lease.row.parentRunId
  | .activateControl controlId => (db.control? controlId).map (·.parentRunId)
  | _ => none

/-- **What the system guarantees of a request** that is evaluated: its lease names the run it
was granted for, the request is a proper one, the run it takes for the latest is older than
its transaction, and no round has the name that a control or an interaction it inserts would
give to its child. -/
structure Request.Ready (request : Request) (tx : Tx) (db : Db) : Prop where
  leased : ∀ lease ∈ request.lease?, ∀ r ∈ db.runs, r.runId = lease.row.runId →
    r.fixed = lease.row.fixed
  proper : request.Proper
  prior : ∀ p ∈ request.parent? db, ∀ r ∈ db.runs, r.runId = p → r.createdAt < tx.start
  unnamed : ∀ r ∈ db.runs, ∀ i, r.idempotency ≠ some (roundScope i, "control-" ++ tx.controlId)
  unborn : ∀ r ∈ db.runs, ∀ i, r.idempotency ≠ some (roundScope i, "interaction-" ++ tx.runId)

/-- **A sound store**: what every reachable one is. -/
structure Db.Sound (env : Env) (db : Db) : Prop where
  history : db.History env
  standing : db.Standing

theorem Db.sound_empty (env : Env) : Db.empty.Sound env :=
  ⟨Db.history_empty env, Db.standing_empty⟩

theorem Db.Edits.sound {env : Env} {tx : Tx} {quiet : Bool} {db db' : Db}
    (h : Db.Edits env tx quiet db db') (hs : db.Sound env) : db'.Sound env := by
  induction h with
  | refl => exact hs
  | tail _ h ih => exact ⟨h.history ih.history, h.standing ih.history ih.standing⟩

theorem Db.Sound.keys {env : Env} {db : Db} (h : db.Sound env) : db.Keys := h.history.keys

/-- **A transaction is a sequence of edits**, quiet ones if its request is quiet. -/
theorem transact_edits {env : Env} {tx : Tx} {skipped : List String} {request : Request}
    {db db' : Db} {response : Response} (hs : db.Sound env) (hready : request.Ready tx db)
    (h : transact env tx skipped request db = .ok (response, db')) :
    Db.Edits env tx request.quiet db db' := by
  have hk := hs.keys
  cases request <;> simp only [transact, map_eq_ok, Prod.mk.injEq, Except.ok.injEq] at h
  case accept =>
    obtain ⟨⟨row, db₁⟩, h, -, rfl⟩ := h
    exact accept_edits h
  case createIncident =>
    obtain ⟨db₁, h, -, rfl⟩ := h
    exact createIncident_edits h
  case updatePhase =>
    obtain ⟨-, rfl⟩ := h
    exact Db.phase_edits _ _ _
  case claim =>
    obtain ⟨-, rfl⟩ := h
    exact claim_edits hk rfl
  case assertOwned =>
    obtain ⟨_, -, -, rfl⟩ := h
    exact .refl
  case heartbeat =>
    obtain ⟨db₁, h, -, rfl⟩ := h
    exact heartbeat_edits hk h
  case markCheckpointStarted =>
    obtain ⟨db₁, h, -, rfl⟩ := h
    exact markCheckpointStarted_edits hk h
  case finish =>
    obtain ⟨⟨status, db₁⟩, h, -, rfl⟩ := h
    exact finish_edits hk (hready.leased _ rfl) (fun hi => (hready.proper.2 hi).1) h
  case queueApproval =>
    obtain ⟨db₁, h, -, rfl⟩ := h
    exact queueApproval_edits hk h
  case prepare =>
    obtain ⟨⟨o, db₁⟩, h, -, rfl⟩ := h
    exact prepare_edits (hready.leased _ rfl) hready.proper h
  case dispatch =>
    obtain ⟨db₁, h, -, rfl⟩ := h
    exact dispatch_edits h
  case record =>
    obtain ⟨db₁, h, -, rfl⟩ := h
    exact record_edits hk h
  case acceptRound =>
    obtain ⟨⟨row, db₁⟩, h, -, rfl⟩ := h
    exact acceptRound_edits hk hready.prior h
  case acceptInteraction =>
    obtain ⟨⟨row, db₁⟩, h, -, rfl⟩ := h
    exact acceptInteraction_edits hs.history h
  case saveProgress =>
    obtain ⟨db₁, h, -, rfl⟩ := h
    exact saveProgress_edits hk h
  case saveRecheck =>
    obtain ⟨db₁, h, -, rfl⟩ := h
    exact saveRecheck_edits h
  case complete =>
    obtain ⟨db₁, h, -, rfl⟩ := h
    refine complete_edits hs.history (fun r hr hid => ?_) hready.prior h
    exact (column_eq (hready.leased _ rfl r hr hid) Run.runKind fun _ => rfl).trans hready.proper.1
  case control =>
    obtain ⟨⟨view, db₁⟩, h, -, rfl⟩ := h
    exact control_edits hk hready.unnamed h
  case activateControl =>
    obtain ⟨db₁, h, -, rfl⟩ := h
    refine activateControl_edits hs.history hs.standing (fun c hc r hr hid => ?_) h
    refine hready.prior c.parentRunId ?_ r hr hid
    rw [Option.mem_def] at hc
    simp [Request.parent?, hc]
  case answer =>
    obtain ⟨⟨view, db₁⟩, h, -, rfl⟩ := h
    exact answer_edits hk hready.unnamed h
  case appendMessage =>
    obtain ⟨⟨m, db₁⟩, h, -, rfl⟩ := h
    exact (appendMessage_eq_ok h).edits
  case activateDue =>
    obtain ⟨db₁, h, -, rfl⟩ := h
    refine activateDue_edits hs.history.rechecks (fun d hd id hid r hr he => ?_) h
    obtain ⟨q, hq, hqid, -, hkind⟩ := hs.history.bound d hd id hid
    rwa [hk.runs.eq_of_key hr hq (he.trans hqid.symm)]
  case inspectDelayed =>
    obtain ⟨⟨row, db₁⟩, h, -, rfl⟩ := h
    exact .single (.side (inspectDelayed_eq_ok hs.history.rechecks h).2)
  case exhaustDelayed =>
    obtain ⟨db₁, h, -, rfl⟩ := h
    exact .single (.side (exhaustDelayed_eq_ok hs.history.rechecks h).2)
  case publishDelayed =>
    obtain ⟨db₁, h, -, rfl⟩ := h
    exact .single (.side (publishDelayed_eq_ok hs.history.rechecks h).2)
  case openWindow =>
    obtain ⟨⟨payload, db₁⟩, h, -, rfl⟩ := h
    exact .single (.side (openWindow_eq_ok h).2)
  case saveWindow =>
    obtain ⟨db₁, h, -, rfl⟩ := h
    exact .single (.side (saveWindow_eq_ok h).2)
  case editBudget =>
    obtain ⟨db₁, h, -, rfl⟩ := h
    exact .single (.side (editBudget_eq_ok h).2)

/-- A transaction under a lease finds that the lease owns its run. -/
theorem transact_owns {env : Env} {tx : Tx} {skipped : List String} {request : Request}
    {db db' : Db} {response : Response} (hr : db.Rechecks)
    (h : transact env tx skipped request db = .ok (response, db')) :
    ∀ lease ∈ request.lease?, ∃ row, fence tx lease db = .ok row := by
  intro lease hlease
  cases request <;> simp only [Request.lease?, Option.mem_def, Option.some.injEq, reduceCtorEq]
    at hlease <;> simp only [transact, map_eq_ok, Prod.mk.injEq] at h
  case assertOwned =>
    subst hlease
    obtain ⟨_, h, -⟩ := h
    simp only [assertOwned, bind_eq_ok] at h
    obtain ⟨row, hrow, -⟩ := h
    exact ⟨row, hrow⟩
  case heartbeat => subst hlease; obtain ⟨_, h, -⟩ := h; exact (heartbeat_eq_ok h).1
  case markCheckpointStarted =>
    subst hlease; obtain ⟨_, h, -⟩ := h; exact (markCheckpointStarted_eq_ok h).1
  case finish =>
    subst hlease
    obtain ⟨⟨_, _⟩, h, -⟩ := h
    obtain ⟨row, _, _, hrow, -⟩ := finish_eq_ok h
    exact ⟨row, hrow⟩
  case prepare => subst hlease; obtain ⟨⟨_, _⟩, h, -⟩ := h; exact (prepare_eq_ok h).1
  case dispatch => subst hlease; obtain ⟨_, h, -⟩ := h; exact (dispatch_eq_ok h).1
  case record => subst hlease; obtain ⟨_, h, -⟩ := h; exact (record_eq_ok h).1
  case saveProgress => subst hlease; obtain ⟨_, h, -⟩ := h; exact (saveProgress_eq_ok h).1
  case saveRecheck => subst hlease; obtain ⟨_, h, -⟩ := h; exact (saveRecheck_eq_ok h).1
  case complete =>
    subst hlease
    obtain ⟨_, h, -⟩ := h
    obtain ⟨row, _, _, _, hrow, -⟩ := complete_eq_ok h
    exact ⟨row, hrow⟩
  case inspectDelayed =>
    subst hlease; obtain ⟨⟨_, _⟩, h, -⟩ := h; exact (inspectDelayed_eq_ok hr h).1
  case exhaustDelayed => subst hlease; obtain ⟨_, h, -⟩ := h; exact (exhaustDelayed_eq_ok hr h).1
  case publishDelayed => subst hlease; obtain ⟨_, h, -⟩ := h; exact (publishDelayed_eq_ok hr h).1
  case openWindow => obtain ⟨⟨_, _⟩, h, -⟩ := h; exact (openWindow_eq_ok h).1 lease hlease
  case saveWindow => obtain ⟨_, h, -⟩ := h; exact (saveWindow_eq_ok h).1 lease hlease
  case editBudget => subst hlease; obtain ⟨_, h, -⟩ := h; exact (editBudget_eq_ok h).1

end IncidentAgent
