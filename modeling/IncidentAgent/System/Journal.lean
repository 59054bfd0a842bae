import IncidentAgent.System.Frames

/-!
# What a request does to the journal

An operation is inserted by `prepare` and moves on by three statements alone: `dispatch` sends a
prepared one on its way, `record` writes its outcome, and a control of a human withdraws what was
not dispatched. Each of them names the state that it starts from, so that the moves of one request
are known from the request and the row (`transact_journal`).
-/

namespace IncidentAgent

/-- The code of an operation that a human has withdrawn. -/
def supersededCode : String := "INPUT_SUPERSEDED"

/-- The columns that a control sets in a prepared operation. -/
def Operation.withdrawn (o : Operation) : Operation :=
  { o with state := .rejected, errorCode := some supersededCode }

/-- **What a request does to an operation.** -/
inductive Operation.Moves (request : Request) (o : Operation) : Operation → Prop
  | kept : Moves request o o
  | withdrawn (hprepared : o.state = .prepared) : Moves request o o.withdrawn
  | dispatched {lease : Lease} {operationId : String} (hr : request = .dispatch lease operationId)
      (hid : o.operationId = operationId) (hrun : o.runId = lease.row.runId)
      (hprepared : o.state = .prepared) : Moves request o (o.dispatching lease)
  | recorded {lease : Lease} {state : OperationState} {args : RecordArgs}
      (hr : request = .record lease state args) (hrun : o.runId = lease.row.runId)
      (hallowed : recordAllowed state o.state = true)
      (hresponse : args.response.isSome → o.responseSnapshot = none)
      (hresult : args.result.isSome → o.result = none) : Moves request o (o.recorded state args)

/-- An operation that a request inserts. -/
def Operation.Entered (env : Env) (request : Request) (o : Operation) : Prop :=
  ∃ lease args now, request = .prepare lease args ∧ o = Operation.initial env lease args now

section Journal

variable {env : Env} {tx : Tx} {db db' : Db} {request : Request} {response : Response}
  {skipped : List String}

/-- The journal after a request. -/
def Db.Journals (env : Env) (request : Request) (db db' : Db) : Prop :=
  Table.Grows (Operation.Moves request) (Operation.Entered env request) db.operations
    db'.operations

theorem Db.Journals.of_same (h : db'.operations = db.operations) : db.Journals env request db' := by
  rw [Db.Journals, h]
  exact Table.Grows.refl (fun _ => .kept) _

theorem rejectPrepared_journals (runId : String) :
    db.Journals env request (rejectPrepared runId db) := by
  refine Table.Grows.updateWhere (fun _ => .kept) fun o _ hsel => ?_
  exact .withdrawn (of_decide_eq_true hsel).2

/-- An arbitration withdraws the prepared operation of a run, or leaves the journal alone. -/
theorem arbitrate_journals {incidentId : String} {latest : Run} {dispatched : Bool}
    {action : ControlAction} {snapshot : Json} :
    db.Journals env request
      (arbitrate tx incidentId latest dispatched action snapshot db) := by
  have hcases : (arbitrate tx incidentId latest dispatched action snapshot db).operations =
      db.operations ∨
      (arbitrate tx incidentId latest dispatched action snapshot db).operations =
        (rejectPrepared latest.runId db).operations := by
    unfold arbitrate stopDiagnosis
    split <;> split <;> (try split) <;> first
      | exact Or.inl rfl
      | exact Or.inr rfl
  rcases hcases with hsame | hrejected
  · exact .of_same hsame
  · rw [Db.Journals, hrejected]
    exact rejectPrepared_journals latest.runId

theorem prepare_journals {lease : Lease} {args : PrepareArgs} {o : Operation}
    (h : prepare env tx lease args db = .ok (o, db')) :
    db.Journals env (.prepare lease args) db' := by
  obtain ⟨-, -, -, ⟨-, rfl, -⟩ | ⟨-, rfl, -, rfl⟩⟩ := prepare_eq_ok h
  · exact .of_same rfl
  · exact Table.Grows.insert (fun _ => .kept) ⟨lease, args, tx.now, rfl, rfl⟩ _

theorem dispatch_journals {lease : Lease} {operationId : String}
    (h : dispatch tx lease operationId db = .ok db') :
    db.Journals env (.dispatch lease operationId) db' := by
  obtain ⟨-, -, -, rfl⟩ := dispatch_eq_ok h
  refine Table.Grows.updateWhere (fun _ => .kept) fun o _ hsel => ?_
  obtain ⟨hid, hrun, hprepared⟩ := of_decide_eq_true hsel
  exact .dispatched rfl hid hrun hprepared

theorem record_journals (hk : db.Keys) {lease : Lease} {state : OperationState} {args : RecordArgs}
    (h : record tx lease state args db = .ok db') :
    db.Journals env (.record lease state args) db' := by
  obtain ⟨-, ⟨current, hcurrent, hallowed, hsaved⟩, rfl⟩ := record_eq_ok h
  refine Table.Grows.updateWhere (fun _ => .kept) fun o ho hsel => ?_
  have hrun : o.runId = lease.row.runId := of_decide_eq_true hsel
  have hsame := hk.operation?_eq ho
  rw [hrun, hcurrent] at hsame
  obtain rfl := Option.some.inj hsame
  -- What is saved already is not written again.
  rw [not_or, not_and, not_and] at hsaved
  exact .recorded rfl hrun hallowed (fun hr => by simpa using hsaved.1 hr)
    fun hr => by simpa using hsaved.2 hr

/-- **What every request does to the journal.** -/
theorem transact_journal (hk : db.Keys) (hrechecks : db.Rechecks)
    (h : transact env tx skipped request db = .ok (response, db')) :
    db.Journals env request db' := by
  cases hjournals : request.journals with
  | false => exact .of_same ((transact_frame hrechecks h).operations hjournals)
  | true =>
    cases request <;> simp only [Request.journals, Bool.false_eq_true] at hjournals <;>
      simp only [transact, map_eq_ok, Prod.mk.injEq] at h
    case prepare =>
      obtain ⟨⟨o, db₁⟩, h, -, rfl⟩ := h
      exact prepare_journals h
    case dispatch =>
      obtain ⟨db₁, h, -, rfl⟩ := h
      exact dispatch_journals h
    case record =>
      obtain ⟨db₁, h, -, rfl⟩ := h
      exact record_journals hk h
    case control =>
      obtain ⟨⟨view, db₁⟩, h, -, rfl⟩ := h
      rcases control_eq_ok h with ⟨_, -, -, -, rfl⟩ |
        ⟨latest, message, db₂, row, -, -, hmessage, -, -, -, hinsert⟩
      · exact .of_same rfl
      · obtain ⟨-, rfl⟩ := Db.insertControl_eq_ok hinsert
        have hsame := (messageInTransaction_eq_ok hmessage).1.frame.1
        rw [Db.Journals, ← hsame]
        exact arbitrate_journals

/-- **A move advances the operation.** -/
theorem Operation.Moves.advances {o o' : Operation} (h : o.Moves request o') : o.Advances o' := by
  cases h with
  | kept => exact .refl o
  | withdrawn hprepared => exact ⟨rfl, by rw [hprepared]; rfl, fun _ hr => hr, fun _ hr => hr⟩
  | dispatched _ _ _ hprepared =>
    exact ⟨rfl, by rw [hprepared]; rfl, fun _ hr => hr, fun _ hr => hr⟩
  | @recorded _ _ args _ _ hallowed hresponse hresult =>
    refine ⟨rfl, recordAllowed_leads hallowed, fun r hr => ?_, fun r hr => ?_⟩
    · cases hargs : args.response with
      | none => simpa [Operation.recorded, hargs] using hr
      | some _ =>
        rw [hresponse (by rw [hargs]; rfl)] at hr
        cases hr
    · cases hargs : args.result with
      | none => simpa [Operation.recorded, hargs] using hr
      | some _ =>
        rw [hresult (by rw [hargs]; rfl)] at hr
        cases hr

end Journal

end IncidentAgent
