import IncidentAgent.Worker.Actions

/-!
# What a worker does with an interaction

An interaction answers a message of the user: it may call a model, once to tell what is asked for
and once to explain the history, or take a fresh sample of the cluster, and what it has obtained is
saved before it is published. A delayed recheck takes one sample. Under a lease that may only
recover, neither does any of that: what was saved is published, and where nothing was saved the
interaction fails and the recheck ends without a verdict (`executeInteraction_recovers`,
`executeDelayedRecheck_recovers`).
-/

namespace IncidentAgent

/-- What a handler passes to `complete`. -/
structure Publication where
  output : Json
  assistant : Option String
  investigate : Bool

/-! ### The outputs of the model -/

/-- `value.update(members)`. -/
def Json.update (value : Json) (members : List (String × Json)) : Json :=
  members.foldl (fun v m => v.insert m.1 m.2) value

/-- A text of a length between two bounds. -/
def textWithin (low high : Nat) : Json → Bool
  | .str text => low ≤ text.length && text.length ≤ high
  | _ => false

/-- Whether a value is a text. -/
def Json.isText : Json → Bool
  | .str _ => true
  | _ => false

/-- A list of texts, of at most so many. -/
def textsWithin (high : Nat) : Json → Bool
  | .arr items => items.length ≤ high && items.all Json.isText
  | _ => false

/-- `Intent`. -/
def routeIntents : List String :=
  ["status", "explain", "compare", "supplement", "investigate", "recheck", "approval", "clarify"]

/-- `IntentDecision.model_validate(value).model_dump()`. -/
def intentDecision (value : Json) : Except Halt Json := do
  raiseIf (value.hasKeys ["intent", "reason"] = false ∨
      (value.get "intent").toText ∉ routeIntents ∨
      textWithin 1 600 (value.get "reason") = false)
    (.raised "ValidationError")
  pure (.obj [("intent", value.get "intent"), ("reason", value.get "reason")])

/-- `Explanation.model_validate(value).model_dump()`. -/
def explanation (value : Json) : Except Halt Json := do
  raiseIf (value.hasKeys ["summary", "citation_ids", "unknowns"] = false ∨
      textWithin 1 2400 (value.get "summary") = false ∨
      textsWithin 20 (value.get "citation_ids") = false ∨
      textsWithin 10 (value.get "unknowns") = false)
    (.raised "ValidationError")
  pure (.obj [("summary", value.get "summary"), ("citation_ids", value.get "citation_ids"),
    ("unknowns", value.get "unknowns")])

/-- The citations of one reference, added to those of the references before it. -/
def referenceCitations (citations reference : Json) : Except Halt Json := do
  let state ← entry reference "state"
  let runId ← entry reference "run_id"
  let snapshotAt ← entry reference "snapshot_at"
  raiseIf (state.isObject = false) (.raised "AttributeError")
  let evidence := ((state.get? "evidence").getD (.arr [])).items.take 10
  evidence.foldlM (fun citations item => do
    let id ← member item "evidence_id"
    if id.truthy then
      let key := (if runId.truthy then shown runId else "legacy") ++ ":" ++ shown id
      pure (citations.insert key (.obj [("run_id", runId), ("evidence_id", id),
        ("collected_at", item.get "collected_at"), ("snapshot_at", snapshotAt)]))
    else pure citations) citations

/-- The citations of `explanation_material(references)`. -/
def explanationCitations (references : List Json) : Except Halt Json :=
  references.foldlM referenceCitations (.obj [])

/-- `validate_answer(answer, references)`. -/
def validateAnswer (answer : Json) (references : List Json) : Except Halt (Json × Json) := do
  let answer ← explanation answer
  let citations ← explanationCitations references
  let ids := (answer.get "citation_ids").items.map Json.toText
  raiseIf ((ids.any fun key => (citations.get? key).isNone) = true ∨
      (citations.truthy = true ∧ ids = []))
    (.raised "ValueError")
  pure (answer, .arr (ids.eraseDups.map fun key =>
    .obj (("citation_id", .str key) :: (citations.get key).members)))

namespace Worker

variable (env : Env) (lease : Lease)

/-! ### Model calls -/

/-- The record of a call that has been announced. -/
def startedCall (purpose : Purpose) (stamp : CallStamp) : Json :=
  .obj [("id", .str stamp.id), ("purpose", .str purpose.text), ("model", .str stamp.model),
    ("started_at", .str stamp.startedAt), ("status", .str "started"), ("usage", .null)]

/-- The record of a call that has ended. -/
def endedCall (record usage : Json) (outcome : Except WorkerFault Json) (elapsed : Int) : Json :=
  (record.insert "usage" usage).update ((match outcome with
    | .ok _ => [("status", .str "completed")]
    | .error fault => [("status", .str "failed_or_unknown"),
        ("error_type", .str fault.error.typeName)]) ++ [("elapsed_ms", .num elapsed)])

/-- `progress.setdefault("calls", []).append(record)`. -/
def withCall (progress record : Json) : Json :=
  progress.insert "calls" (.arr (((progress.get? "calls").getD (.arr [])).items ++ [record]))

/-- What a call has parsed is validated, an explanation with its citations. -/
def validated (purpose : Purpose) (parsed : Json) (references : List Json) : Except Halt Json :=
  match purpose with
  | .route => intentDecision parsed
  | .explain => do
    let parsed ← explanation parsed
    let _ ← validateAnswer parsed references
    pure parsed

/-- `call(purpose)`: what was parsed, and the progress with it. -/
def call (content : Json) (references : List Json) (purpose : Purpose) (progress : Json) :
    WorkerProg (Json × Json) :=
  match progress.get? purpose.text with
  | some saved => pure (saved, progress)
  | none => do
    owned lease
    if lease.recoveryOnly then give "ValueError"
    else do
      let stamp ← ask (.newCall purpose)
      let record := startedCall purpose stamp
      -- A crash from here on leaves a call of unknown cost.
      store (.saveProgress lease (withCall progress record))
      let called ← Act.attempt
        (stage "interaction_model" 60 (ask (.callModel purpose content references)))
      let usage := match called with
        | .ok answer => orNull answer.2
        | .error _ => .null
      let outcome := called.bind fun answer =>
        (validated purpose answer.1 references).mapError Halt.fault
      let elapsed ← ask .elapsed
      let progress := withCall progress (endedCall record usage outcome elapsed)
      let progress := match outcome with
        | .ok parsed => progress.insert purpose.text parsed
        | .error _ => progress
      store (.saveProgress lease progress)
      let parsed ← Act.ofExcept outcome
      pure (parsed, progress)
where
  /-- `usage or None`. -/
  orNull (usage : Json) : Json := if usage.truthy then usage else .null

/-! ### Fresh samples -/

/-- `service.create(…)`: the sample is of no use unless the lease is owned when it is taken, and
one that could not be taken is a sample of nothing. -/
def createRecheck (state : Json) (note : String) : WorkerProg (String × Observed) := do
  ask (.target state)
  let bundle ← Act.attempt (do
    owned lease
    ask (.collect state))
  ask (.assess state note bundle.toOption)

/-- How an observation is carried out by a worker. -/
def answerWindow (key token : String) (state : Json) (note : String) :
    (q : WindowQuery) → WorkerProg q.Answer
  | .clock => ask .clock
  | .monotonic => ask .monotonic
  | .segment => ask .token
  | .sleep duration => ask (.sleep duration)
  | .openWindow initial => do
    let response ← ask (.store (.openWindow (some lease) key lease.row.incidentId token initial))
    match response with
    | .window payload => pure payload
    | _ => pure initial
  | .saveWindow payload => do
    let delayedId ← ask .token
    store (.saveWindow (some lease) key lease.row.incidentId token delayedId payload)
  | .sample _ => do
    let taken ← createRecheck lease state note
    pure taken.2

/-- `observe_recheck`. -/
def observeRecheck (state : Json) (note : String) : WorkerProg Unit := do
  let token ← ask .token
  let window ← Act.via (answerWindow lease ("interaction:" ++ lease.row.runId) token state note)
    (ObservationWindow.run observationPolicy)
  let window ← Act.ofExcept (window.mapError fun _ => WorkerFault.of "ValueError")
  let kept ← ask (.keep note window)
  store (.saveRecheck lease kept.1 kept.2)

/-- The fresh sample of an interaction, which is saved once. -/
def recheck (intent : String) (references : List Json) (note : String) :
    WorkerProg (Option Json) := do
  let saved ← ask .savedRecheck
  match saved with
  | some result => pure (some result)
  | none =>
    if lease.recoveryOnly then give "ValueError"
    else do
      owned lease
      let state ← read (rowOr (firstReferenceState references) (.raised "KeyError"))
      stage intent (if intent = "observe" then 120 else 45) (
        if intent = "observe" then observeRecheck lease state note
        else do
          let taken ← createRecheck lease state note
          store (.saveRecheck lease taken.1 (taken.2.result.getD .null)))
      ask .savedRecheck

/-! ### An interaction -/

/-- `[{key: ref[key] for key in ("run_id", "snapshot_at")} for ref in references]`. -/
def referenceSnapshots (references : List Json) : Except Halt Json := do
  let snapshots ← references.mapM fun reference => do
    let runId ← entry reference "run_id"
    let snapshotAt ← entry reference "snapshot_at"
    pure (.obj [("run_id", runId), ("snapshot_at", snapshotAt)])
  pure (.arr snapshots)

/-- The answer from history. -/
def explain (content : Json) (references : List Json) (progress output : Json) :
    WorkerProg Publication := do
  let called ← call lease content references .explain progress
  let checked ← read (validateAnswer called.1 references)
  let snapshots ← read (referenceSnapshots references)
  pure {
    output := output.update [("answer", checked.1.get "summary"),
      ("unknowns", checked.1.get "unknowns"), ("historical_only", .bool true),
      ("model_called", .bool true), ("citations", checked.2), ("reference_snapshots", snapshots)]
    assistant := some (checked.1.get "summary").toText
    investigate := false }

/-- What is done for an intent. -/
def respond (content : Json) (references : List Json) (progress : Json) (intent : String)
    (output : Json) : WorkerProg Publication :=
  if intent = "explain" ∨ intent = "compare" then explain lease content references progress output
  else if intent = "status" then do
    let status ← ask .status
    pure ⟨output.update [("status", status)], none, false⟩
  else if intent = "supplement" then
    pure ⟨output.update [("answer", .str "已保存补充信息，尚未核实；需要重新调查时请选择继续调查。"),
      ("note_source", .str "user_supplied_unverified")], none, false⟩
  else if intent = "approval" then
    pure ⟨output.update [("answer", .str "聊天不能批准修复，请查看并使用当前方案的审批卡片。")],
      none, false⟩
  else if intent = "clarify" then
    pure ⟨output.update [("answer",
      .str "请选择解释、补充信息、继续调查或重新检查。若要更换服务，请新建事件。")], none, false⟩
  else if intent = "recheck" ∨ intent = "observe" then do
    let result ← recheck lease intent references
      (String.ofList (content.toText.toList.take 2000))
    pure ⟨output.update [("recheck", result.getD .null), ("fresh_observation", .bool true),
      ("note_source", .str "user_supplied_unverified")], none, false⟩
  else if intent = "investigate" then
    pure ⟨output.update [("answer",
      .str "已接受新的诊断轮次，将重新采集证据；本次交互没有授权修复。")], none, true⟩
  else give "ValueError"

/-- The intent of an interaction, which the user has given or the model tells. -/
def route (content : Json) (references : List Json) (asked progress : Json) :
    WorkerProg (Json × Json) :=
  if asked = .str "auto" then call lease content references .route progress
  else pure (.obj [("intent", asked), ("reason", .str "explicit command")], progress)

/-- What is done for an intent, unless it is to compare anything but two rounds. -/
def respondTo (content : Json) (references : List Json) (progress intent output : Json) :
    WorkerProg Publication :=
  if intent = .str "compare" ∧ references.length ≠ 2 then
    respond lease content references progress "clarify"
      (output.update [("intent", .str "clarify"), ("reason", .str "请选择两个历史轮次后再比较。")])
  else respond lease content references progress intent.toText output

/-- `execute_interaction`, up to the call of `complete`. -/
def executeInteraction : WorkerProg Publication := do
  let context := lease.row.contextSnapshot.getD .null
  giveIf (lease.row.workflowVersion ≠ interactionWorkflow ∨
      env.requestDigest lease.row.inputPayload ≠ lease.row.inputSha256 ∨
      context.isObject = false ∨ some (env.requestDigest context) ≠ lease.row.contextSha256)
    "ValueError"
  let content := lease.row.inputPayload.get "content"
  let references ← read (entry context "references")
  let references := references.items
  let progress ← ask .progress
  owned lease
  let asked ← read (entry lease.row.inputPayload "intent")
  let routed ← route lease content references asked progress
  let intent ← read (entry routed.1 "intent")
  let reason ← read (entry routed.1 "reason")
  let output : Json := .obj [("intent", intent), ("reason", reason),
    ("cluster_writes_executed", .bool false),
    ("model_called", .bool (routed.2.get "calls").truthy), ("fresh_observation", .bool false)]
  let publication ← respondTo lease content references routed.2 intent output
  owned lease
  pure publication

/-! ### A delayed recheck -/

/-- What a delayed recheck reads of a record: the fields of the target, as far as they were seen. -/
def delayedSample (o : Observed) : DelayedSample where
  seen :=
    let record := o.result.getD .null
    let profile := orEmpty (record.get "service_profile")
    let services := (record.get "evidence").items.filter fun e =>
      e.hasText "resource_type" "Service" && !e.flag "error"
    let data (key : String) : Option Json := match services with
      | [service] => some ((service.get "data").get key)
      | _ => none
    [some (profile.get "digest"), some (profile.get "deployment_uid"),
      some (profile.get "deployment_generation"), data "uid", data "selector", data "ports"]
  identity := o.target
  status := o.status
  result := o.result.getD .null

/-- `labels`. -/
def delayedLabel : DelayedStatus → Option (String × String)
  | .passed => some ("passed", "延时复查通过")
  | .relapsed => some ("relapsed", "初次通过后复发")
  | .unknown => some ("unknown", "延时复查结果未知")
  | .invalidated => some ("invalidated", "依据或目标变化，延时复查失效")
  | .expired => some ("expired", "延时复查已过期，未验证")
  | _ => none

/-- The one sample of a delayed recheck that is due. -/
def sampleDelayed (row : DelayedRecheck) : WorkerProg DelayedRecheck := do
  let now ← ask .clock
  let remaining := min 30 (max 0 ((row.expiresAt / second : Nat) - now))
  let taken ← stage "delayed_recheck" remaining
    (createRecheck lease row.snapshot "稳定性窗口通过后的延时只读复查")
  owned lease
  ask (.delayed (.publishDelayed lease (delayedSample taken.2)))

/-- The end of a delayed recheck that is running: its sample, or none. -/
def finishDelayed (row : DelayedRecheck) : WorkerProg DelayedRecheck :=
  if row.status = .running then
    if lease.recoveryOnly then ask (.delayed (.exhaustDelayed lease))
    else sampleDelayed lease row
  else pure row

/-- `execute_delayed_recheck`, up to the call of `complete`. -/
def executeDelayedRecheck : WorkerProg Publication := do
  let context := lease.row.contextSnapshot.getD .null
  giveIf (lease.row.workflowVersion ≠ delayedWorkflow ∨
      env.requestDigest lease.row.inputPayload ≠ lease.row.inputSha256 ∨
      some (env.requestDigest context) ≠ lease.row.contextSha256)
    "ValueError"
  owned lease
  let row ← ask (.delayed (.inspectDelayed lease))
  let row ← finishDelayed lease row
  owned lease
  let label ← read (rowOr (delayedLabel row.status) (.raised "KeyError"))
  pure {
    output := .obj [("intent", .str "delayed_recheck"), ("answer", .str label.2),
      ("delayed_id", .str row.delayedId), ("delayed_status", .str label.1),
      ("cluster_writes_executed", .bool false), ("model_called", .bool false),
      ("fresh_observation", .bool row.result.isSome)]
    assistant := none
    investigate := false }

/-! ### A lease that may only recover -/

section Recovers

variable {env : Env} {lease : Lease} {references : List Json}
  (hrecovers : lease.recoveryOnly = true)
include hrecovers

/-- A lease that may only recover makes no new call: a purpose has a saved answer, or none. -/
theorem call_recovers {content : Json} {purpose : Purpose} {progress : Json} :
    (call lease content references purpose progress).Avoids WorkerQuery.Works := by
  unfold call
  split
  · exact Act.avoids_pure _
  · refine Act.avoids_bind (avoids_owned id id) fun _ => ?_
    rw [if_pos hrecovers]
    exact avoids_give _

theorem recheck_recovers {intent note : String} :
    (recheck lease intent references note).Avoids WorkerQuery.Works := by
  refine Act.avoids_bind (avoids_ask id) fun saved => ?_
  cases saved with
  | some result => exact Act.avoids_pure _
  | none =>
    show Act.Avoids _ (if lease.recoveryOnly then _ else _)
    rw [if_pos hrecovers]
    exact avoids_give _

theorem explain_recovers {content progress output : Json} :
    (explain lease content references progress output).Avoids WorkerQuery.Works :=
  Act.avoids_bind (call_recovers hrecovers) fun _ => Act.avoids_bind (avoids_read _) fun _ =>
    Act.avoids_bind (avoids_read _) fun _ => Act.avoids_pure _

/-- **Whatever is asked for**, a lease that may only recover works on nothing. -/
theorem respond_recovers {content progress output : Json} {intent : String} :
    (respond lease content references progress intent output).Avoids WorkerQuery.Works := by
  unfold respond
  refine Act.avoids_ite (fun _ => explain_recovers hrecovers) fun _ => ?_
  refine Act.avoids_ite (fun _ => ?_) fun _ => ?_
  · exact Act.avoids_bind (avoids_ask id) fun _ => Act.avoids_pure _
  refine Act.avoids_ite (fun _ => Act.avoids_pure _) fun _ => ?_
  refine Act.avoids_ite (fun _ => Act.avoids_pure _) fun _ => ?_
  refine Act.avoids_ite (fun _ => Act.avoids_pure _) fun _ => ?_
  refine Act.avoids_ite (fun _ => ?_) fun _ => ?_
  · exact Act.avoids_bind (recheck_recovers hrecovers) fun _ => Act.avoids_pure _
  · exact Act.avoids_ite (fun _ => Act.avoids_pure _) fun _ => avoids_give _

/-- **An interaction under a lease that may only recover** makes no model call and takes no
sample. -/
theorem executeInteraction_recovers :
    (executeInteraction env lease).Avoids WorkerQuery.Works := by
  unfold executeInteraction
  refine Act.avoids_bind (avoids_giveIf _ _) fun _ => ?_
  refine Act.avoids_bind (avoids_read _) fun _ => ?_
  refine Act.avoids_bind (avoids_ask id) fun _ => ?_
  refine Act.avoids_bind (avoids_owned id id) fun _ => ?_
  refine Act.avoids_bind (avoids_read _) fun _ => ?_
  refine Act.avoids_bind (Act.avoids_ite (fun _ => call_recovers hrecovers)
    fun _ => Act.avoids_pure _) fun _ => ?_
  refine Act.avoids_bind (avoids_read _) fun _ => ?_
  refine Act.avoids_bind (avoids_read _) fun _ => ?_
  refine Act.avoids_bind (Act.avoids_ite (fun _ => respond_recovers hrecovers)
    fun _ => respond_recovers hrecovers) fun _ => ?_
  exact Act.avoids_bind (avoids_owned id id) fun _ => Act.avoids_pure _

/-- **A delayed recheck under a lease that may only recover** takes no sample. -/
theorem executeDelayedRecheck_recovers :
    (executeDelayedRecheck env lease).Avoids WorkerQuery.Works := by
  unfold executeDelayedRecheck
  refine Act.avoids_bind (avoids_giveIf _ _) fun _ => ?_
  refine Act.avoids_bind (avoids_owned id id) fun _ => ?_
  refine Act.avoids_bind (avoids_ask id) fun row => ?_
  refine Act.avoids_bind (Act.avoids_ite (fun _ => ?_) fun _ => Act.avoids_pure _) fun _ => ?_
  · rw [if_pos hrecovers]
    exact avoids_ask id
  · refine Act.avoids_bind (avoids_owned id id) fun _ => ?_
    exact Act.avoids_bind (avoids_read _) fun _ => Act.avoids_pure _

end Recovers

end Worker

end IncidentAgent
