import IncidentAgent.Executor.Authorization
import IncidentAgent.Investigation.Inquiries
import IncidentAgent.Lib.Flow
import IncidentAgent.Policy.Citations

/-!
# The state of the workflow and what its nodes ask for

The workflow of an incident is a graph whose state is a dictionary. A node reads the state and
returns an update: the members it sets, and what it adds to the errors and to the trace, which are
the two members that grow (`merge`). On its way it asks for what it cannot know: the time, the
services it is given, and what a human answers (`Ask`). All of these may answer anything of their
type, and the services may raise.
-/

namespace IncidentAgent

/-- What the workflow takes from libraries, besides what the executor and the reports do. -/
structure WorkflowLibrary extends ExecutionLibrary, ReportLibrary where
  /-- `ApprovalDecision.model_validate`. -/
  approvalDecision : Json → Option ApprovalDecision
  /-- `str` of the exception of `model_validate`, of a class and a value. -/
  validationText : String → Json → String
  /-- `str` of an exception that the program has given no message. -/
  exceptionText : Raised → String
  /-- A number that is not an integer. -/
  number : Rat → Json
  /-- Whether two characters match under `re.I`. -/
  sameLetter : Char → Char → Bool
  /-- `json.dumps(value, sort_keys=True, default=str)`. -/
  dumpsAscii : Json → String

/-- `str(exc)`. -/
def WorkflowLibrary.errorText (lib : WorkflowLibrary) (e : Raised) : String :=
  e.detail.getD (lib.exceptionText e)

/-- `str(value)`. -/
def WorkflowLibrary.textOf (lib : WorkflowLibrary) : Json → String
  | .str text => text
  | v => lib.pyRepr v

/-! ### Queries -/

/-- What `collect` returns: a bundle, and the errors of the collector. -/
structure CollectedBundle extends Bundle where
  errors : List Json
  deriving Inhabited

/-- `DiagnosisCallResult`. -/
structure DiagnosisCallResult where
  diagnosis : Diagnosis
  modelName : String
  usage : List (String × Json)
  deriving Inhabited

/-- `RemediationCallResult`. -/
structure RemediationCallResult where
  plan : RemediationPlan
  modelName : String
  usage : List (String × Json)
  deriving Inhabited

/-- **What a node asks for.** -/
inductive Ask
  /-- `datetime.now(UTC)`. -/
  | now
  /-- `uuid4()`. -/
  | uuid
  /-- `collector.collect(…)`. -/
  | collect (namespaceName serviceName : String)
  /-- `retriever.retrieve(query=…, k=3)`. -/
  | retrieve (query : String)
  /-- `diagnoser.diagnose(state)`. -/
  | diagnose (state : Json)
  /-- `planner.plan(state)`. -/
  | plan (state : Json)
  /-- `budget.decision(key)`. -/
  | decision (key : String)
  /-- `interrupt(payload)`, which is answered with the value that the graph is resumed with. -/
  | interrupt (payload : Json)
  /-- `executor.execute(state)`. -/
  | execute (state : Json)
  /-- `verifier.verify(state)`. -/
  | verify (state : Json)
  /-- What only an investigation asks for. -/
  | inquire (inquiry : Inquiry)
  deriving DecidableEq

/-- The answer to a query. The results of the executor and of the verifier are documents. -/
def Ask.Answer : Ask → Type
  | .now => ℕ
  | .uuid => String
  | .collect _ _ => Except Raised CollectedBundle
  | .retrieve _ => Except Raised (List Json)
  | .diagnose _ => Except Raised DiagnosisCallResult
  | .plan _ => Except Raised RemediationCallResult
  | .decision _ => Except Raised PUnit
  | .interrupt _ => Json
  | .execute _ | .verify _ => Except Raised Json
  | .inquire inquiry => inquiry.Answer

/-- A program of a node. -/
abbrev Node (α : Type) := Act Ask Ask.Answer Raised α

/-- The exchanges of a workflow. -/
abbrev Exchanges := History Ask Ask.Answer

namespace Ports

/-- `utc_now()`. -/
def clock : Node ℕ := Act.call Ask.now

/-- `collector.collect(namespace=…, service_name=…)`. -/
def collect (namespaceName serviceName : String) : Node CollectedBundle := do
  let answer ← Act.call (Ask.collect namespaceName serviceName)
  Act.ofExcept answer

/-- `retriever.retrieve(query=query, k=3)`. -/
def retrieve (query : String) : Node (List Json) := do
  let answer ← Act.call (Ask.retrieve query)
  Act.ofExcept answer

/-- `diagnoser.diagnose(state)`. -/
def diagnose (state : Json) : Node DiagnosisCallResult := do
  let answer ← Act.call (Ask.diagnose state)
  Act.ofExcept answer

/-- `planner.plan(state)`. -/
def plan (state : Json) : Node RemediationCallResult := do
  let answer ← Act.call (Ask.plan state)
  Act.ofExcept answer

/-- `budget.decision(key)`. -/
def decision (key : String) : Node PUnit := do
  let answer ← Act.call (Ask.decision key)
  Act.ofExcept answer

/-- `interrupt(payload)`. -/
def interrupt (payload : Json) : Node Json := Act.call (Ask.interrupt payload)

/-- `executor.execute(state)`. -/
def execute (state : Json) : Node Json := do
  let answer ← Act.call (Ask.execute state)
  Act.ofExcept answer

/-- `verifier.verify(state)`. -/
def verify (state : Json) : Node Json := do
  let answer ← Act.call (Ask.verify state)
  Act.ofExcept answer

end Ports

/-! ### Updates -/

/-- What a node returns: the members that it sets, and what it adds to `errors` and to `trace`. -/
structure Update where
  members : List (String × Json)
  errors : List Json
  trace : List Json
  deriving Inhabited, DecidableEq

/-- A member that grows: `Annotated[list, add]`. -/
def addTo (key : String) (items : List Json) (state : Json) : Json :=
  if items = [] then state else state.insert key (.arr ((state.get key).items ++ items))

/-- The members that an update sets. -/
def setAll (members : List (String × Json)) (state : Json) : Json :=
  members.foldl (fun state m => state.insert m.1 m.2) state

/-- The state after a node. -/
def merge (state : Json) (u : Update) : Json :=
  addTo "trace" u.trace (addTo "errors" u.errors (setAll u.members state))

theorem isObject_addTo {key : String} {items : List Json} {state : Json} :
    (addTo key items state).isObject = state.isObject := by
  unfold addTo
  split
  · rfl
  · exact Json.isObject_insert

theorem get?_addTo {key k : String} {items : List Json} {state : Json}
    (h : state.isObject = true) (hk : k ≠ key) : (addTo key items state).get? k = state.get? k := by
  unfold addTo
  split
  · rfl
  · rw [Json.get?_insert_of_isObject h, if_neg hk]

theorem isObject_setAll {members : List (String × Json)} {state : Json} :
    (setAll members state).isObject = state.isObject := by
  unfold setAll
  induction members generalizing state with
  | nil => rfl
  | cons m rest ih => rw [List.foldl_cons, ih, Json.isObject_insert]

/-- A member that is set more than once has its last value. -/
theorem get?_setAll {members : List (String × Json)} {state : Json} (h : state.isObject = true)
    (k : String) :
    (setAll members state).get? k = (members.reverse.lookup k).or (state.get? k) := by
  unfold setAll
  induction members generalizing state with
  | nil => simp
  | cons m rest ih =>
    rw [List.foldl_cons, ih (by rw [Json.isObject_insert, h]), Json.get?_insert_of_isObject h,
      List.reverse_cons, List.lookup_append, Json.lookup_cons_ite]
    by_cases hk : k = m.1 <;> simp [hk]

theorem isObject_merge {state : Json} {u : Update} :
    (merge state u).isObject = state.isObject := by
  rw [merge, isObject_addTo, isObject_addTo, isObject_setAll]

/-- **What a state has after a node**: what the update sets, and otherwise what it had. -/
theorem get?_merge {state : Json} {u : Update} (h : state.isObject = true) {k : String}
    (herrors : k ≠ "errors") (htrace : k ≠ "trace") :
    (merge state u).get? k = (u.members.reverse.lookup k).or (state.get? k) := by
  rw [merge, get?_addTo (by rw [isObject_addTo, isObject_setAll, h]) htrace,
    get?_addTo (by rw [isObject_setAll, h]) herrors, get?_setAll h]

/-- The same, of the value that is read. -/
theorem get_merge {state : Json} {u : Update} (h : state.isObject = true) {k : String}
    (herrors : k ≠ "errors") (htrace : k ≠ "trace") :
    (merge state u).get k = (u.members.reverse.lookup k).getD (state.get k) := by
  unfold Json.get
  rw [get?_merge h herrors htrace]
  cases u.members.reverse.lookup k <;> rfl

/-- A member that an update sets. -/
theorem get_merge_of_lookup {state v : Json} {u : Update} (h : state.isObject = true) {k : String}
    (hk : k ≠ "errors" ∧ k ≠ "trace") (hu : u.members.reverse.lookup k = some v) :
    (merge state u).get k = v := by
  rw [get_merge h hk.1 hk.2, hu]
  rfl

/-- A member that no update sets. -/
theorem get_merge_of_notMem {state : Json} {u : Update} (h : state.isObject = true) {k : String}
    (herrors : k ≠ "errors") (htrace : k ≠ "trace") (hk : ∀ m ∈ u.members, m.1 ≠ k) :
    (merge state u).get k = state.get k := by
  have hnone : u.members.reverse.lookup k = none := by
    refine List.lookup_eq_none_iff.2 fun m hm => ?_
    exact bne_iff_ne.2 (hk m (List.mem_reverse.1 hm)).symm
  rw [get_merge h herrors htrace, hnone]
  rfl

/-! ### What nodes return -/

section

variable (env : Env)

/-- `trace_event`. -/
def traceEvent (step status message : String) : Node Json := do
  let now ← Ports.clock
  pure (.obj [("step", .str step), ("status", .str status), ("message", .str message),
    ("timestamp", .str (env.isoformat now))])

/-- The events of a trace: step, status and message. -/
def traceEvents : List (String × String × String) → Node (List Json)
  | [] => pure []
  | (step, status, message) :: rest => do
    let event ← traceEvent env step status message
    let events ← traceEvents rest
    pure (event :: events)

/-- The update of a node, with the events of its trace. -/
def update (members : List (String × Json)) (errors : List Json)
    (events : List (String × String × String)) : Node Update := do
  let trace ← traceEvents env events
  pure ⟨members, errors, trace⟩

/-- An item of `errors`. -/
def errorItem (stage code message : String) : Json :=
  .obj [("stage", .str stage), ("code", .str code), ("message", .str message)]

/-- A Python integer; a truth value is one. -/
def pyInt : Json → Option Int
  | .num n => some n
  | .bool b => some (if b then 1 else 0)
  | _ => none

/-- `state.get("error_count", 0) + n`. -/
def countErrors (state : Json) (n : Int) : Except Raised Json :=
  (rowOr (pyInt ((state.get? "error_count").getD (.num 0))) typeError).map fun count =>
    .num (count + n)

/-- The update of a node that has failed, with one error that is counted. -/
def failure (state : Json) (phase stage code message event : String)
    (members : List (String × Json)) : Node Update := do
  let count ← Act.ofExcept (countErrors state 1)
  update env (("phase", .str phase) :: members ++ [("error_count", count)])
    [errorItem stage code message] [(stage, "failed", event)]

end

theorem keeps_traceEvents {env : Env} {rule : Exchanges → Ask → Prop} (hclock : ∀ h, rule h .now)
    {events : List (String × String × String)} {h : Exchanges} :
    (traceEvents env events).Keeps rule
      (fun trace h' => h <:+ h' ∧ trace.length = events.length) h := by
  induction events generalizing h with
  | nil => exact Act.keeps_pure ⟨List.suffix_refl h, rfl⟩
  | cons e rest ih =>
    refine Act.keeps_bind (Act.keeps_bind (Act.keeps_call (hclock h) fun now => ?_))
    refine Act.keeps_pure (Act.keeps_bind (ih.mono fun trace h' ht => ?_))
    exact Act.keeps_pure ⟨(List.suffix_cons _ _).trans ht.1, by simp [ht.2]⟩

/-- The clock may be asked anywhere, and what it tells is in the trace only. -/
theorem keeps_update {env : Env} {rule : Exchanges → Ask → Prop} (hclock : ∀ h, rule h .now)
    {members : List (String × Json)} {errors : List Json} {events : List (String × String × String)}
    {post : Update → Exchanges → Prop} {h : Exchanges}
    (hpost : ∀ u h', h <:+ h' → u.members = members → u.errors = errors →
      u.trace.length = events.length → post u h') :
    (update env members errors events).Keeps rule post h := by
  unfold update
  exact Act.keeps_bind ((keeps_traceEvents hclock).mono fun trace h' ht =>
    Act.keeps_pure (hpost ⟨members, errors, trace⟩ h' ht.1 rfl rfl ht.2))

end IncidentAgent
