import IncidentAgent.Policy.Remediation
import IncidentAgent.Store.Operations

/-!
# The authorization of a write

Before it touches the cluster, the executor reads the authorization of the write out of the
state of the graph: the plan, the request for its approval and the record of the decision
(`validateExecutionAuthorization`). The request is rebuilt from the state, so that it cannot be
about another plan, and the plan is validated again.

What was approved is remembered as a digest. `approvalBinding` is the digest of all that a human
was shown, and the revision of a plan is the digest of its payload. As far as digests tell
documents apart, a revision determines the plan (`RemediationPlan.eq_of_revision`).
-/

namespace IncidentAgent

/-- `text.strip()`. -/
def strip (text : String) : String :=
  String.ofList ((text.toList.dropWhile isSpace).reverse.dropWhile isSpace).reverse

/-- `str(value or "")`. -/
def shownOr (value : Json) : String := if value.truthy then shown value else ""

/-- What the executor takes from libraries, besides what the policy does. -/
structure ExecutionLibrary extends PolicyLibrary where
  /-- `RemediationPlan.model_validate`. -/
  plan : Json → Option RemediationPlan
  /-- `ApprovalRequest.model_validate`. -/
  approvalRequest : Json → Option ApprovalRequest
  /-- `ApprovalRecord.model_validate`. -/
  approvalRecord : Json → Option ApprovalRecord
  /-- `ActionExecutionResult.model_validate`. -/
  actionResult : Json → Option ActionExecutionResult
  /-- `hashlib.sha256(text.encode("utf-8")).hexdigest()`. -/
  textDigest : String → String

/-! ### The payload of a plan -/

/-- The text of a risk level. -/
def RiskLevel.value : RiskLevel → String
  | .low => "low"
  | .medium => "medium"
  | .high => "high"

/-- `pair.model_dump(mode="json")`. -/
def LabelPair.dump (pair : LabelPair) : Json :=
  .obj [("key", .str pair.key), ("value", .str pair.value)]

/-- `parameters.model_dump(mode="json")`. -/
def RemediationParameters.dump (p : RemediationParameters) : Json :=
  .obj [("namespace", .str p.namespaceName), ("resource_kind", .str p.resourceKind.value),
    ("resource_name", .str p.resourceName), ("container_name", textOr p.containerName),
    ("current_probe_path", textOr p.currentProbePath),
    ("proposed_probe_path", textOr p.proposedProbePath),
    ("current_probe_port", portOr p.currentProbePort),
    ("proposed_probe_port", portOr p.proposedProbePort),
    ("current_selector", .arr (p.currentSelector.map LabelPair.dump)),
    ("proposed_selector", .arr (p.proposedSelector.map LabelPair.dump)),
    ("investigation_steps", .arr (p.investigationSteps.map .str))]

/-- `plan.model_dump(mode="json")`. -/
def RemediationPlan.dump (plan : RemediationPlan) : Json :=
  .obj [("target_uid", textOr plan.targetUid), ("action", .str plan.action.value),
    ("parameters", plan.parameters.dump), ("risk_level", .str plan.riskLevel.value),
    ("summary", .str plan.summary), ("expected_result", .str plan.expectedResult),
    ("rollback_plan", .str plan.rollbackPlan),
    ("evidence_ids", .arr (plan.evidenceIds.map .str)),
    ("runbook_ids", .arr (plan.runbookIds.map .str)),
    ("requires_approval", .bool plan.requiresApproval)]

/-- `plan_payload`: a plan without a target leaves no trace of it. -/
def planPayload (plan : RemediationPlan) : Json :=
  if plan.targetUid = none then plan.dump.erase "target_uid" else plan.dump

/-- `request_digest(plan_payload(plan))`. -/
def planRevision (env : Env) (plan : RemediationPlan) : String :=
  env.requestDigest (planPayload plan)

/-- The digests of the environment tell documents apart, up to the order of members. -/
def Env.TellsApart (env : Env) : Prop :=
  ∀ v w : Json, env.requestDigest v = env.requestDigest w → v.canonical = w.canonical

attribute [ext] LabelPair RemediationParameters RemediationPlan

section Payload

/-- The payload has the members of the plan, up to the target. -/
theorem get?_planPayload (plan : RemediationPlan) {key : String} (h : key ≠ "target_uid") :
    (planPayload plan).get? key = plan.dump.get? key := by
  unfold planPayload
  split
  · exact Json.get?_erase h
  · rfl

theorem textOr_plain (text : Option String) : (textOr text).Plain := by
  cases text <;> trivial

theorem portOr_plain (port : Option Port) : (portOr port).Plain := by
  rcases port with _ | _ | _ <;> trivial

theorem ResourceKind.value_injective : Function.Injective ResourceKind.value := by
  rintro (_ | _ | _) (_ | _ | _) h <;> first | rfl | exact absurd h (by decide)

theorem RemediationActionName.value_injective : Function.Injective RemediationActionName.value := by
  rintro (_ | _ | _) (_ | _ | _) h <;> first | rfl | exact absurd h (by decide)

theorem RiskLevel.value_injective : Function.Injective RiskLevel.value := by
  rintro (_ | _ | _) (_ | _ | _) h <;> first | rfl | exact absurd h (by decide)

/-- Documents that agree have the same plain member. -/
theorem Json.plain_of_canonical {a b v w : Json} (h : a.canonical = b.canonical) (key : String)
    (hv : a.get? key = some v) (hw : b.get? key = some w) (hplain : w.Plain) : v = w :=
  Option.some.inj (hv.symm.trans (Json.get?_of_plain h hw hplain))

/-- Documents that agree have the same text. -/
theorem Json.text_of_canonical {a b : Json} (h : a.canonical = b.canonical) (key : String)
    {s t : String} (hs : a.get? key = some (.str s)) (ht : b.get? key = some (.str t)) : s = t :=
  Json.str.inj (Json.plain_of_canonical h key hs ht trivial)

theorem Json.textOr_of_canonical {a b : Json} (h : a.canonical = b.canonical) (key : String)
    {s t : Option String} (hs : a.get? key = some (textOr s)) (ht : b.get? key = some (textOr t)) :
    s = t :=
  textOr_injective (Json.plain_of_canonical h key hs ht (textOr_plain t))

theorem Json.portOr_of_canonical {a b : Json} (h : a.canonical = b.canonical) (key : String)
    {s t : Option Port} (hs : a.get? key = some (portOr s)) (ht : b.get? key = some (portOr t)) :
    s = t :=
  portOr_injective (Json.plain_of_canonical h key hs ht (portOr_plain t))

theorem LabelPair.eq_of_canonical {a b : LabelPair} (h : a.dump.canonical = b.dump.canonical) :
    a = b := by
  have hkey := Json.plain_of_canonical h "key" rfl rfl trivial
  have hvalue := Json.plain_of_canonical h "value" rfl rfl trivial
  exact LabelPair.ext (Json.str.inj hkey) (Json.str.inj hvalue)

/-- Documents that agree have the same list, of items that their documents determine. -/
theorem Json.items_of_canonical {α : Type} {dump : α → Json}
    (hdump : ∀ x y, (dump x).canonical = (dump y).canonical → x = y) {a b : Json} {xs ys : List α}
    (h : a.canonical = b.canonical) (key : String) (hx : a.get? key = some (.arr (xs.map dump)))
    (hy : b.get? key = some (.arr (ys.map dump))) : xs = ys := by
  have hmember := Json.get?_of_canonical h key
  rw [hx, hy] at hmember
  have hitems : canonicalItems (xs.map dump) = canonicalItems (ys.map dump) :=
    Json.arr.inj (Option.some.inj hmember)
  rw [canonicalItems_eq, canonicalItems_eq, List.map_map, List.map_map] at hitems
  exact List.map_injective_iff.2 (fun x y hxy => hdump x y hxy) hitems

/-- A document that agrees with an empty list has no items. -/
theorem Json.items_of_canonical_nil {v : Json} (h : v.canonical = (Json.arr []).canonical) :
    v.items = [] := by
  cases v with
  | arr vs =>
    have hitems : canonicalItems vs = [] := Json.arr.inj h
    rw [canonicalItems_eq, List.map_eq_nil_iff] at hitems
    exact hitems
  | _ => rfl

theorem Json.texts_of_canonical {a b : Json} {xs ys : List String}
    (h : a.canonical = b.canonical) (key : String) (hx : a.get? key = some (.arr (xs.map .str)))
    (hy : b.get? key = some (.arr (ys.map .str))) : xs = ys := by
  have htext : ∀ s t : String, (Json.str s).canonical = (Json.str t).canonical → s = t :=
    fun _ _ he => Json.str.inj he
  exact Json.items_of_canonical htext h key hx hy

theorem RemediationParameters.eq_of_canonical {p q : RemediationParameters}
    (h : p.dump.canonical = q.dump.canonical) : p = q :=
  RemediationParameters.ext (Json.text_of_canonical h "namespace" rfl rfl)
    (ResourceKind.value_injective (Json.text_of_canonical h "resource_kind" rfl rfl))
    (Json.text_of_canonical h "resource_name" rfl rfl)
    (Json.textOr_of_canonical h "container_name" rfl rfl)
    (Json.textOr_of_canonical h "current_probe_path" rfl rfl)
    (Json.textOr_of_canonical h "proposed_probe_path" rfl rfl)
    (Json.portOr_of_canonical h "current_probe_port" rfl rfl)
    (Json.portOr_of_canonical h "proposed_probe_port" rfl rfl)
    (Json.items_of_canonical (fun _ _ => LabelPair.eq_of_canonical) h "current_selector" rfl rfl)
    (Json.items_of_canonical (fun _ _ => LabelPair.eq_of_canonical) h "proposed_selector" rfl rfl)
    (Json.texts_of_canonical h "investigation_steps" rfl rfl)

/-- **A payload determines its plan.** -/
theorem RemediationPlan.eq_of_canonical {p q : RemediationPlan}
    (h : (planPayload p).canonical = (planPayload q).canonical) : p = q := by
  have hget : ∀ {plan : RemediationPlan} {key : String} {v : Json}, key ≠ "target_uid" →
      plan.dump.get? key = some v → (planPayload plan).get? key = some v := fun hkey hv =>
    (get?_planPayload _ hkey).trans hv
  have htext : ∀ {key : String} {s t : String}, key ≠ "target_uid" →
      p.dump.get? key = some (.str s) → q.dump.get? key = some (.str t) → s = t :=
    fun hkey hs ht => Json.text_of_canonical h _ (hget hkey hs) (hget hkey ht)
  have hparameters : p.parameters.dump.canonical = q.parameters.dump.canonical := by
    have hmember := Json.get?_of_canonical h "parameters"
    rw [get?_planPayload _ (by decide), get?_planPayload _ (by decide)] at hmember
    exact Option.some.inj hmember
  have hflag : Json.bool p.requiresApproval = .bool q.requiresApproval :=
    Json.plain_of_canonical h "requires_approval" (hget (by decide) rfl) (hget (by decide) rfl)
      trivial
  refine RemediationPlan.ext ?_
    (RemediationActionName.value_injective (htext (by decide : "action" ≠ "target_uid") rfl rfl))
    (RemediationParameters.eq_of_canonical hparameters)
    (RiskLevel.value_injective (htext (by decide : "risk_level" ≠ "target_uid") rfl rfl))
    (htext (by decide : "summary" ≠ "target_uid") rfl rfl) (htext (by decide : "expected_result" ≠ "target_uid") rfl rfl)
    (htext (by decide : "rollback_plan" ≠ "target_uid") rfl rfl)
    (Json.texts_of_canonical h "evidence_ids" (hget (by decide) rfl) (hget (by decide) rfl))
    (Json.texts_of_canonical h "runbook_ids" (hget (by decide) rfl) (hget (by decide) rfl))
    (Json.bool.inj hflag)
  -- The target is there with its text, or has left no trace.
  have htarget : ∀ plan : RemediationPlan,
      (planPayload plan).get? "target_uid" = plan.targetUid.map .str := by
    intro plan
    unfold planPayload
    split
    · rename_i hnone
      rw [hnone]
      rfl
    · rename_i hsome
      obtain ⟨uid, huid⟩ := Option.ne_none_iff_exists'.1 hsome
      rw [huid]
      exact congrArg (fun target => some (textOr target)) huid
  have hmember := Json.get?_of_canonical h "target_uid"
  rw [htarget, htarget] at hmember
  cases hp : p.targetUid <;> cases hq : q.targetUid <;> simp_all [Json.canonical]

/-- **A revision determines its plan**, as far as digests tell documents apart. -/
theorem RemediationPlan.eq_of_revision {env : Env} (henv : env.TellsApart) {p q : RemediationPlan}
    (h : planRevision env p = planRevision env q) : p = q :=
  RemediationPlan.eq_of_canonical (henv _ _ h)

end Payload

/-! ### The state of the graph -/

/-- A row of `state["evidence"]`, by the members that the policy reads. -/
def evidenceRow (row : Json) : EvidenceRow where
  evidenceId := (row.get "evidence_id").toText
  source := (row.get "source").toText
  resourceType := (row.get "resource_type").toText
  resourceName := (row.get "resource_name").toText
  collectedAt := (row.get "collected_at").toText
  data := row.get "data"
  error := if (row.get "error").truthy then some (row.get "error").toText else none
  invalidates := []
  invalidatesLog := none

/-- The part of a state that the policy reads. -/
def remediationState (state : Json) : RemediationState where
  request := state.get "request"
  serviceProfile := state.get "service_profile"
  evidence := (state.get "evidence").items.map evidenceRow
  diagnosis := state.get "diagnosis"
  retrievedRunbooks := (state.get "retrieved_runbooks").items

/-- The payload of `approval_binding`: what a human was shown, and whose run it is. -/
def bindingPayload (state : Json) : Json :=
  .obj ((["request", "remediation_plan", "service_profile", "diagnosis", "evidence"].map
      fun key => (key, state.get key)) ++
    if (state.get "run_id").truthy then [("run_id", state.get "run_id")] else [])

/-- `approval_binding`. -/
def approvalBinding (env : Env) (state : Json) : String :=
  env.requestDigest (bindingPayload state)

/-! ### The request for an approval -/

/-- `InvalidApprovalRequest(message)`. -/
def invalidRequest (message : String) : Raised := ⟨"InvalidApprovalRequest", none, some message⟩

/-- The fingerprint of a request: the plan with the snapshots that it rests on. -/
def fingerprintPayload (state : Json) (incidentId : String) (plan : RemediationPlan) :
    Except Raised Json := do
  let bound := present plan.targetUid
  let diagnosed ← if bound || ((state.get "diagnosis").get "assessment") ≠ .null then do
      let diagnosis ← rowOr (state.get? "diagnosis") ⟨"KeyError", none, none⟩
      pure [("diagnosis", diagnosis), ("evidence", (state.get? "evidence").getD (.arr []))]
    else pure []
  pure (.obj ([("incident_id", Json.str incidentId), ("remediation_plan", planPayload plan)] ++
    (if (state.get "run_id").truthy then [("run_id", state.get "run_id")] else []) ++
    (if state.get "service_profile" ≠ .null then [("service_profile", state.get "service_profile")]
      else []) ++
    (if bound then [("request", state.get "request")] else []) ++ diagnosed))

/-- `build_approval_request`. -/
def buildApprovalRequest (env : Env) (lib : ExecutionLibrary) (state : Json) :
    Except Raised ApprovalRequest := do
  let incidentId := strip (shownOr (state.get "incident_id"))
  raiseIf (incidentId = "") (invalidRequest "incident_id is required")
  raiseIf (state.get "remediation_plan" = .null) (invalidRequest "remediation plan is required")
  let plan ← rowOr (lib.plan (state.get "remediation_plan"))
    (invalidRequest "remediation plan is invalid")
  raiseIf (state.get "requires_approval" ≠ .bool true)
    (invalidRequest "state does not require approval")
  raiseIf (plan.requiresApproval ≠ true)
    (invalidRequest "remediation plan does not require approval")
  raiseIf (plan.action = .manualInvestigation)
    (invalidRequest "manual investigation must not require approval")
  raiseIf (plan.parameters.namespaceName ≠ safeNamespace)
    (invalidRequest ("approval target namespace must be " ++ safeNamespace))
  let fingerprint ← fingerprintPayload state incidentId plan
  let bound := present plan.targetUid
  pure { approvalId := "apr-" ++ String.ofList ((env.requestDigest fingerprint).toList.take 16)
         incidentId := incidentId
         plan := plan
         planRevision := if bound then some (planRevision env plan) else none
         approvalRevision := if bound then some (env.requestDigest fingerprint) else none }

/-! ### The authorization -/

/-- `InvalidExecutionAuthorization(message)`. -/
def unauthorized (message : String) : Raised :=
  ⟨"InvalidExecutionAuthorization", none, some message⟩

/-- `ExecutionAuthorization`. -/
structure ExecutionAuthorization where
  executionId : String
  approvalId : String
  incidentId : String
  plan : RemediationPlan
  approvalRequest : ApprovalRequest
  approvalRecord : ApprovalRecord
  previousResult : Option ActionExecutionResult
  alreadyExecuted : Bool
  deriving DecidableEq, Inhabited

/-- `APPROVAL_ID_PATTERN.fullmatch(text)`. -/
def approvalIdPattern (text : String) : Bool :=
  text.toList.take 4 = "apr-".toList && text.toList.length = 20 &&
    (text.toList.drop 4).all fun c => c.isDigit || ('a' ≤ c && c ≤ 'f')

/-- `build_execution_id`. -/
def buildExecutionId (lib : ExecutionLibrary) (approvalId : String) : Except Raised String := do
  let normalized := strip approvalId
  raiseIf (approvalIdPattern normalized = false)
    (unauthorized "approval_id has an invalid format")
  pure ("exec-" ++ String.ofList ((lib.textDigest normalized).toList.take 16))

/-- `_load_plan`, `_load_approval_request` and `_load_approval_record`: a value of the state that
is there and valid. -/
def loadRequired {α : Type} (validate : Json → Option α) (state : Json) (key what : String) :
    Except Raised α := do
  raiseIf (state.get key = .null) (unauthorized (what ++ " is required"))
  rowOr (validate (state.get key)) (unauthorized (what ++ " is invalid"))

/-- `_load_previous_result`. -/
def loadPreviousResult (lib : ExecutionLibrary) (state : Json) :
    Except Raised (Option ActionExecutionResult) :=
  if state.get "action_result" = .null then .ok none
  else (rowOr (lib.actionResult (state.get "action_result"))
    (unauthorized "existing action result is invalid")).map some

/-- `_validate_approved_state`. -/
def validateApprovedState (state : Json) : Except Raised PUnit := do
  raiseIf (state.get "phase" ≠ .str "approval_approved")
    (unauthorized "workflow phase is not approval_approved")
  raiseIf (state.get "requires_approval" ≠ .bool true)
    (unauthorized "write operation does not have an approval requirement")
  raiseIf (state.get "approval_status" ≠ .str "approved")
    (unauthorized "approval status is not approved")
  raiseIf (state.get "approved" ≠ .bool true)
    (unauthorized "write operation was not approved")

/-- `except InvalidApprovalRequest`. -/
def rebuiltRequest (env : Env) (lib : ExecutionLibrary) (state : Json) :
    Except Raised ApprovalRequest :=
  match buildApprovalRequest env lib state with
  | .ok request => .ok request
  | .error e => .error (if e.errorType = "InvalidApprovalRequest" then
      unauthorized "approval request cannot be rebuilt from workflow state" else e)

/-- `_validate_approval_binding`. -/
def validateApprovalBinding (env : Env) (lib : ExecutionLibrary) (state : Json)
    (plan : RemediationPlan) (request : ApprovalRequest) (record : ApprovalRecord) :
    Except Raised PUnit := do
  let incidentId := strip (shownOr (state.get "incident_id"))
  raiseIf (incidentId = "") (unauthorized "incident_id is required")
  raiseIf (request.incidentId ≠ incidentId)
    (unauthorized "approval request incident_id does not match workflow state")
  raiseIf (record.incidentId ≠ incidentId)
    (unauthorized "approval record incident_id does not match workflow state")
  raiseIf (request.approvalId ≠ record.approvalId) (unauthorized "approval IDs do not match")
  raiseIf (record.approved ≠ true)
    (unauthorized "approval record does not approve the write operation")
  raiseIf (request.plan ≠ plan) (unauthorized "remediation plan changed after approval")
  raiseIf (¬ (request.planRevision = record.planRevision ∧
    request.approvalRevision = record.approvalRevision))
    (unauthorized "approval revisions do not match")
  raiseIf (record.action ≠ plan.action)
    (unauthorized "approval record action does not match the remediation plan")
  let expected ← rebuiltRequest env lib state
  raiseIf (expected ≠ request)
    (unauthorized "approval request does not match the approved remediation plan")

/-- `_revalidate_plan`. -/
def revalidatePlan (lib : ExecutionLibrary) (state : Json) (plan : RemediationPlan) :
    Except Raised PUnit :=
  match validateRemediationPlan lib.toPolicyLibrary plan (remediationState state) with
  | .ok _ => .ok ⟨⟩
  | .error e => .error (if e.errorType = "InvalidRemediationPlan" then
      unauthorized ("remediation plan failed execution-time validation: " ++ e.detail.getD "")
      else e)

/-- `_validate_previous_result`. A result that is there authorizes nothing but its reuse. -/
def validatePreviousResult (previous : ActionExecutionResult) (executionId : String)
    (request : ApprovalRequest) (plan : RemediationPlan) : Except Raised Bool := do
  let p := plan.parameters
  raiseIf (previous.executionId ≠ executionId)
    (unauthorized "existing action result belongs to another execution")
  raiseIf (previous.approvalId ≠ request.approvalId)
    (unauthorized "existing action result belongs to another approval")
  raiseIf (previous.action ≠ plan.action)
    (unauthorized "existing action result belongs to another remediation action")
  raiseIf (¬ (previous.namespaceName = p.namespaceName ∧ previous.resourceKind = p.resourceKind ∧
      previous.resourceName = p.resourceName))
    (unauthorized "existing action result belongs to another remediation target")
  raiseIf (¬ (previous.status = .succeeded ∨ previous.status = .alreadyApplied))
    (unauthorized "an execution attempt has already been recorded for this approval")
  pure true

/-- The verdict on the result that a state has, if it has one. -/
def alreadyExecuted (previous : Option ActionExecutionResult) (executionId : String)
    (request : ApprovalRequest) (plan : RemediationPlan) : Except Raised Bool :=
  match previous with
  | none => .ok false
  | some result => validatePreviousResult result executionId request plan

/-- `validate_execution_authorization`. -/
def validateExecutionAuthorization (env : Env) (lib : ExecutionLibrary) (state : Json) :
    Except Raised ExecutionAuthorization := do
  validateApprovedState state
  let plan ← loadRequired lib.plan state "remediation_plan" "remediation plan"
  let request ← loadRequired lib.approvalRequest state "approval_request" "approval request"
  let record ← loadRequired lib.approvalRecord state "approval_record" "approval record"
  raiseIf (plan.action.executable = false)
    (unauthorized ("action '" ++ plan.action.value ++ "' is not executable"))
  validateApprovalBinding env lib state plan request record
  revalidatePlan lib state plan
  let executionId ← buildExecutionId lib request.approvalId
  let previous ← loadPreviousResult lib state
  let executed ← alreadyExecuted previous executionId request plan
  pure { executionId := executionId
         approvalId := request.approvalId
         incidentId := request.incidentId
         plan := plan
         approvalRequest := request
         approvalRecord := record
         previousResult := previous
         alreadyExecuted := executed }

/-- The result that a state has, if it has one, is of this execution of this approval, by this
action and on this target, and completed it. -/
def ResultBelongs (lib : ExecutionLibrary) (s : Json) (request : ApprovalRequest) : Prop :=
  s.get "action_result" = .null ∨ ∃ result executionId,
    lib.actionResult (s.get "action_result") = some result ∧
    buildExecutionId lib request.approvalId = .ok executionId ∧
    result.executionId = executionId ∧ result.approvalId = request.approvalId ∧
    result.action = request.plan.action ∧
    result.namespaceName = request.plan.parameters.namespaceName ∧
    result.resourceKind = request.plan.parameters.resourceKind ∧
    result.resourceName = request.plan.parameters.resourceName ∧
    (result.status = .succeeded ∨ result.status = .alreadyApplied)

/-- **What an authorization rests on.** -/
structure ExecutionAuthorization.Rests (env : Env) (lib : ExecutionLibrary) (state : Json)
    (auth : ExecutionAuthorization) : Prop where
  plan : lib.plan (state.get "remediation_plan") = some auth.plan
  request : lib.approvalRequest (state.get "approval_request") = some auth.approvalRequest
  record : lib.approvalRecord (state.get "approval_record") = some auth.approvalRecord
  executable : auth.plan.action.executable = true
  approvalId : auth.approvalRequest.approvalId = auth.approvalId ∧
    auth.approvalRecord.approvalId = auth.approvalId
  approved : auth.approvalRecord.approved = true
  requested : auth.approvalRequest.plan = auth.plan
  rebuilt : buildApprovalRequest env lib state = .ok auth.approvalRequest
  valid : ∃ accepted, validateRemediationPlan lib.toPolicyLibrary auth.plan
    (remediationState state) = .ok accepted
  result : ResultBelongs lib state auth.approvalRequest

theorem loadRequired_eq_ok {α : Type} {validate : Json → Option α} {state : Json}
    {key what : String} {a : α} (h : loadRequired validate state key what = .ok a) :
    validate (state.get key) = some a := by
  simp only [loadRequired, bind_eq_ok, raiseIf_eq_ok, rowOr_eq_ok] at h
  obtain ⟨-, -, h⟩ := h
  exact h

theorem rebuiltRequest_eq_ok {env : Env} {lib : ExecutionLibrary} {state : Json}
    {request : ApprovalRequest} (h : rebuiltRequest env lib state = .ok request) :
    buildApprovalRequest env lib state = .ok request := by
  unfold rebuiltRequest at h
  split at h
  · rename_i built hbuilt
    rw [hbuilt, Except.ok.inj h]
  · cases h

theorem revalidatePlan_eq_ok {lib : ExecutionLibrary} {state : Json} {plan : RemediationPlan}
    {u : PUnit} (h : revalidatePlan lib state plan = .ok u) :
    ∃ accepted, validateRemediationPlan lib.toPolicyLibrary plan (remediationState state) =
      .ok accepted := by
  unfold revalidatePlan at h
  split at h
  · rename_i accepted haccepted
    exact ⟨accepted, haccepted⟩
  · cases h

theorem resultBelongs_of_executed {lib : ExecutionLibrary} {state : Json} {executionId : String}
    {request : ApprovalRequest} {previous : Option ActionExecutionResult} {executed : Bool}
    (hid : buildExecutionId lib request.approvalId = .ok executionId)
    (hprevious : loadPreviousResult lib state = .ok previous)
    (h : alreadyExecuted previous executionId request request.plan = .ok executed) :
    ResultBelongs lib state request := by
  unfold loadPreviousResult at hprevious
  split at hprevious
  · rename_i hnone
    exact Or.inl hnone
  · simp only [map_eq_ok, rowOr_eq_ok] at hprevious
    obtain ⟨result, hresult, rfl⟩ := hprevious
    simp only [alreadyExecuted, validatePreviousResult, bind_eq_ok, raiseIf_eq_ok, pure_eq_ok,
      not_not] at h
    obtain ⟨-, hexecution, -, happroval, -, haction, -, ⟨hnamespace, hkind, hname⟩, -, hstatus, -⟩ :=
      h
    exact Or.inr ⟨result, executionId, hresult, hid, hexecution, happroval, haction, hnamespace,
      hkind, hname, hstatus⟩

/-- **An authorization is granted on a plan that is valid, was requested and was approved.** -/
theorem validateExecutionAuthorization_eq_ok {env : Env} {lib : ExecutionLibrary} {state : Json}
    {auth : ExecutionAuthorization} (h : validateExecutionAuthorization env lib state = .ok auth) :
    auth.Rests env lib state := by
  simp only [validateExecutionAuthorization, bind_eq_ok, raiseIf_eq_ok, pure_eq_ok] at h
  obtain ⟨-, -, plan, hplan, request, hrequest, record, hrecord, -, hexec, ⟨⟩, hbinding,
    ⟨⟩, hvalid, executionId, hexecution, previous, hprevious, executed, hexecuted, rfl⟩ := h
  simp only [validateApprovalBinding, bind_eq_ok, raiseIf_eq_ok, not_not] at hbinding
  obtain ⟨-, -, -, -, -, -, -, hid, -, happroved, -, hsame, -, -, -, -, expected, hexpected, hrest⟩ :=
    hbinding
  have hrebuilt := rebuiltRequest_eq_ok hexpected
  rw [hrest] at hrebuilt
  rw [← hsame] at hexecuted
  exact ⟨loadRequired_eq_ok hplan, loadRequired_eq_ok hrequest, loadRequired_eq_ok hrecord,
    by simpa using hexec, ⟨rfl, hid.symm⟩, happroved, hsame, hrebuilt,
    revalidatePlan_eq_ok hvalid, resultBelongs_of_executed hexecution hprevious hexecuted⟩

end IncidentAgent
