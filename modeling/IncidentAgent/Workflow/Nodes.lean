import IncidentAgent.Business.Protocol
import IncidentAgent.Policy.Preparation
import IncidentAgent.Store.Rounds
import IncidentAgent.Workflow.State

/-!
# The nodes before an approval

A request is validated, the evidence is collected, runbooks are retrieved, the diagnosis is made and
checked, and a repair is planned. Each node takes what its services return, or raise, and turns it
into an update; a service that raises leads to a phase of failure, of which the graph makes an end.
The diagnosis of a model is tried twice, and only what passes all checks becomes a diagnosis of the
state; the same holds of a plan.
-/

namespace IncidentAgent

/-! ### The request -/

/-- `IncidentRequest.model_validate`: two names of Kubernetes and a description that is not blank. -/
def incidentRequest (raw : Json) : Option IncidentRequest :=
  match raw.get "namespace", raw.get "service_name", raw.get "description" with
  | .str namespaceName, .str serviceName, .str description =>
    if isNameOf ['-'] 63 namespaceName && isNameOf ['-'] 63 serviceName &&
        1 ≤ description.length && description.length ≤ 1000 && strip description ≠ "" then
      some ⟨strip namespaceName, strip serviceName, strip description⟩
    else none
  | _, _, _ => none

section

variable (env : Env) (lib : WorkflowLibrary)

/-- `state.get("incident_id") or str(uuid4())`. -/
def incidentIdOf (state : Json) : Node Json :=
  if (state.get "incident_id").truthy then pure (state.get "incident_id")
  else do
    let id ← Act.call Ask.uuid
    pure (.str id)

/-- The update of a request that is rejected. -/
def rejected (state incidentId : Json) (members : List (String × Json))
    (code message event : String) : Node Update := do
  let count ← Act.ofExcept (countErrors state 1)
  update env ([("incident_id", incidentId)] ++ members ++ [("phase", .str "validation_failed"),
      ("valid", .bool false), ("error_count", count)])
    [errorItem "validate_request" code message] [("validate_request", "failed", event)]

/-- `validate_request`. -/
def validateRequestNode (state : Json) : Node Update := do
  let incidentId ← incidentIdOf state
  let raw := (state.get? "request").getD (.obj [])
  match incidentRequest raw with
  | none =>
    rejected env state incidentId [] "INVALID_REQUEST"
      (lib.validationText "IncidentRequest" raw) "request schema validation failed"
  | some request =>
    if request.namespaceName ≠ safeNamespace then
      rejected env state incidentId [("request", request.dump)] "NAMESPACE_NOT_ALLOWED"
        ("namespace " ++ lib.pyRepr (.str request.namespaceName) ++ " is not allowed")
        "namespace rejected by safety policy"
    else
      update env [("incident_id", incidentId), ("request", request.dump),
        ("phase", .str "validated"), ("valid", .bool true),
        ("error_count", (state.get? "error_count").getD (.num 0))] []
        [("validate_request", "completed", "request validated")]

/-- The operations of a collection. -/
def collectionPlan : List String :=
  ["get_service", "list_namespace_pod_names", "list_service_pod_names",
    "get_service_endpoint_slices", "get_pod_status", "get_pod_events", "get_pod_logs",
    "resolve_pod_owner", "get_deployment_config", "get_node_status"]

/-- `plan_collection`. -/
def planCollection (state : Json) : Node Update :=
  update env [("phase", .str "collection_planned"),
    ("collection_plan", .arr (collectionPlan.map .str)),
    ("evidence", (state.get? "evidence").getD (.arr []))] []
    [("plan_collection", "completed",
      "planned " ++ toString collectionPlan.length ++ " read-only operations")]

/-- `finish_failure`. -/
def finishFailure : Node Update :=
  update env [("phase", .str "failed")] []
    [("finish_failure", "completed", "workflow stopped because request was rejected")]

/-! ### The evidence -/

/-- A row of evidence in the state. -/
def EvidenceRow.dump (row : EvidenceRow) : Json :=
  .obj [("evidence_id", .str row.evidenceId), ("source", .str row.source),
    ("resource_type", .str row.resourceType), ("resource_name", .str row.resourceName),
    ("collected_at", .str row.collectedAt), ("data", row.data), ("error", textOr row.error)]

/-- An error of the collector, in the state. -/
def collectorError (error : Json) : Json :=
  if error.isObject then
    .obj [("stage", .str "collect_evidence"), ("code", .str "KUBERNETES_COLLECTION_PARTIAL_ERROR"),
      ("operation", error.get "operation"), ("resource_kind", error.get "resource_kind"),
      ("resource_name", error.get "resource_name"), ("status_code", error.get "status_code"),
      ("message", (error.get? "message").getD (.str (lib.textOf error)))]
  else errorItem "collect_evidence" "KUBERNETES_COLLECTION_PARTIAL_ERROR" (lib.textOf error)

/-- What is collected: the evidence with its identifiers, and the bundle. -/
def collectBundle (state incidentId : Json) : Node (List EvidenceRow × CollectedBundle) := do
  let raw ← Act.ofExcept (rowOr (state.get? "request") ⟨"KeyError", none, none⟩)
  let request ← Act.ofExcept (rowOr (incidentRequest raw)
    ⟨"ValidationError", none, some (lib.validationText "IncidentRequest" raw)⟩)
  let bundle ← Ports.collect request.namespaceName request.serviceName
  let now ← Ports.clock
  match incidentId with
  | .str id => pure (normalizeEvidence id (env.isoformat now) bundle.toBundle, bundle)
  | _ => throw ⟨"AttributeError", none, none⟩

/-- The update of a collection. -/
def collectedUpdate (state : Json) (rows : List EvidenceRow) (bundle : CollectedBundle) :
    Node Update :=
  if rows = [] then
    failure env state "evidence_collection_failed" "collect_evidence" "EMPTY_EVIDENCE"
      "collector returned no evidence" "no evidence was collected" []
  else do
    let count ← Act.ofExcept (countErrors state bundle.errors.length)
    update env [("phase", .str (if bundle.errors = [] then "evidence_collected"
        else "evidence_collected_with_errors")),
      ("evidence", .arr (rows.map EvidenceRow.dump)), ("service_profile", bundle.serviceProfile),
      ("error_count", count)] (bundle.errors.map (collectorError lib))
      [("collect_evidence", "completed", "collected " ++ toString rows.length ++
        " evidence items; collector errors: " ++ toString bundle.errors.length)]

/-- `collect_evidence`. -/
def collectEvidence (state : Json) : Node Update := do
  let incidentId ← Act.ofExcept (rowOr (state.get? "incident_id") ⟨"KeyError", none, none⟩)
  let outcome ← Act.attempt do
    let collected ← collectBundle env lib state incidentId
    collectedUpdate env lib state collected.1 collected.2
  match outcome with
  | .ok u => pure u
  | .error e =>
    failure env state "evidence_collection_failed" "collect_evidence" "COLLECTION_ERROR"
      (lib.errorText e) "evidence collection raised an exception" []

/-! ### The runbooks -/

/-- `RETRIEVAL_EVIDENCE_TYPES`. -/
def retrievalEvidenceTypes : List String :=
  ["BusinessCheck", "Service", "PodSelection", "EndpointSlice", "PodStatus", "PodEvents",
    "PodLogs", "Deployment", "Node"]

/-- What an item of the evidence contributes to a query. -/
def retrievalPart (item : Json) : Option String :=
  let kind := item.get "resource_type"
  if kind ∈ retrievalEvidenceTypes.map Json.str then
    let serialized := env.dumps ((item.get? "data").getD (.obj []))
    some (lib.textOf kind ++ " " ++ lib.textOf ((item.get? "resource_name").getD (.str "")) ++
      "：" ++ (if 1200 < serialized.length then
        String.ofList (serialized.toList.take 1200) ++ "...[truncated]" else serialized))
  else none

/-- `build_retrieval_query(state)`. The business checks come before all other evidence. -/
def buildRetrievalQuery (state : Json) : String :=
  let request := (state.get? "request").getD (.obj [])
  let field := fun key => lib.textOf ((request.get? key).getD (.str ""))
  let evidence := (state.get "evidence").items
  let isCheck := fun item : Json => item.hasText "resource_type" "BusinessCheck"
  let ordered := evidence.filter isCheck ++ evidence.filter fun item => !isCheck item
  let parts := ["用户描述：" ++ field "description",
    "目标服务：" ++ field "namespace" ++ "/" ++ field "service_name"] ++
    ordered.filterMap (retrievalPart env lib)
  String.ofList (("\n".intercalate parts).toList.take 8000)

/-- `retrieve_runbooks`. -/
def retrieveRunbooks (state : Json) : Node Update := do
  let query := buildRetrievalQuery env lib state
  let outcome ← Act.attempt (Ports.retrieve query)
  match outcome with
  | .ok runbooks =>
    update env [("phase", .str "runbooks_retrieved"),
      ("retrieval_query", .str query), ("retrieved_runbooks", .arr runbooks)] []
      [("retrieve_runbooks", "completed",
        "retrieved " ++ toString runbooks.length ++ " runbook chunks")]
  | .error e =>
    failure env state "runbook_retrieval_failed" "retrieve_runbooks" "RETRIEVAL_ERROR"
      (lib.errorText e) "runbook retrieval raised an exception" []

/-! ### The diagnosis -/

/-- `diagnosis.model_dump()`. -/
def Diagnosis.dump (d : Diagnosis) : Json :=
  .obj (d.members ++ [("confidence", lib.number d.confidence),
    ("reasoning_summary", .str d.reasoningSummary)])

/-- `REFERENCE_EDGE_CHARACTERS`. -/
def referenceEdge (c : Char) : Bool := c ∈ [' ', '\t', '\r', '\n', ',', '，', ';', '；']

/-- `value.strip(REFERENCE_EDGE_CHARACTERS)`. -/
def stripReference (value : String) : String :=
  String.ofList ((value.toList.dropWhile referenceEdge).reverse.dropWhile referenceEdge).reverse

/-- `_normalize_reference_ids`. -/
def normalizeReferenceIds (values : List String) : Except Raised (List String) := do
  raiseIf (∃ value ∈ values, stripReference value = "")
    (invalidReference "diagnosis contains an empty reference ID")
  pure (values.map stripReference).eraseDups

/-- A diagnosis that was checked: the report, the citations that were indexed, and whether the
program has written the report. -/
structure CheckedDiagnosis where
  report : Diagnosis
  indexed : List String
  controlled : Bool
  deriving Inhabited

/-- The checks of a diagnosis of the model, and of the report that is made of it. -/
def checkDiagnosis (d : Diagnosis) (state : Json) : Except Raised CheckedDiagnosis := do
  let s := remediationState state
  let evidenceIds ← normalizeReferenceIds d.evidenceIds
  let runbookIds ← normalizeReferenceIds d.runbookIds
  let reconciled ← reconcileDeclaredEvidence lib.toReportLibrary
    { d with evidenceIds := evidenceIds, runbookIds := runbookIds } s
  validateDiagnosisReferences lib.toReportLibrary reconciled.1 s
  validateDiagnosisAssessment lib.toPolicyLibrary reconciled.1 s.toPolicyState
  let report ← buildControlledReport lib.toReportLibrary reconciled.1 s
  validateDiagnosisReferences lib.toReportLibrary report s
  validateDiagnosisAssessment lib.toPolicyLibrary report s.toPolicyState
  let facts ← diagnosticFactsOf lib.toCheckLibrary s.toPolicyState
  pure ⟨report, reconciled.2,
    reconciled.1.faultCategory = .applicationError && facts.businessStatus = .failed⟩

/-- `except (InvalidDiagnosisReference, InvalidDiagnosisAssessment)`. -/
def Raised.isInvalidDiagnosis (e : Raised) : Bool :=
  e.errorType = "InvalidDiagnosisReference" || e.errorType = "InvalidDiagnosisAssessment"

/-- What the attempts at a diagnosis have left, whether they have succeeded or not. -/
structure DiagnosisProgress where
  usage : Json
  retryCount : Int
  modelName : Json
  modelOutput : Json
  deriving Inhabited, DecidableEq

/-- The progress before the first attempt. -/
def DiagnosisProgress.none : DiagnosisProgress := ⟨.obj [], 0, .null, .null⟩

/-- The usage of one more call, of which only integers count. -/
def addUsage (usage : Json) (item : String × Json) : Json :=
  match pyInt item.2 with
  | some n => usage.insert item.1 (.num ((usage.get item.1).toInt + n))
  | none => usage

/-- The progress after a call that has returned. -/
def DiagnosisProgress.after (progress : DiagnosisProgress) (result : DiagnosisCallResult) :
    DiagnosisProgress :=
  { progress with
    usage := result.usage.foldl addUsage progress.usage
    modelName := .str result.modelName
    modelOutput := result.diagnosis.dump lib }

/-- What the progress sets in the state. -/
def DiagnosisProgress.members (progress : DiagnosisProgress) : List (String × Json) :=
  [("diagnosis_model_output", progress.modelOutput), ("llm_model", progress.modelName),
    ("llm_usage", progress.usage), ("diagnosis_retry_count", .num progress.retryCount)]

/-- The update of a diagnosis that was not made. -/
def diagnosisFailed (state : Json) (progress : DiagnosisProgress) (e : Raised) : Node Update :=
  let members := ("diagnosis", .null) :: progress.members
  if e.errorType = "InvalidDiagnosisAssessment" then
    failure env state "diagnosis_failed" "diagnose_incident" "INVALID_DIAGNOSIS_ASSESSMENT"
      (lib.errorText e) "diagnosis assessment validation failed" members
  else if e.errorType = "InvalidDiagnosisReference" then
    failure env state "diagnosis_failed" "diagnose_incident" "INVALID_DIAGNOSIS_REFERENCE"
      (lib.errorText e) "diagnosis reference validation failed" members
  else failure env state "diagnosis_failed" "diagnose_incident" "LLM_DIAGNOSIS_ERROR"
      (lib.errorText e) "LLM diagnosis failed" members

/-- The update of a diagnosis that has passed all checks. -/
def diagnosisCompleted (progress : DiagnosisProgress) (checked : CheckedDiagnosis) : Node Update :=
  update env ([("phase", .str "diagnosis_completed"), ("diagnosis", checked.report.dump lib)] ++
      progress.members) []
    ([("diagnose_incident", "completed", (if progress.retryCount = 0 then
        "structured diagnosis completed"
      else "structured diagnosis completed after one validation retry") ++
      (if checked.indexed = [] then "" else
        "; indexed existing Evidence references omitted from evidence_ids: " ++
          ", ".intercalate checked.indexed))] ++
      if checked.controlled then [("diagnosis_controlled_report", "completed",
        "model classification validated; narrative generated from current evidence; " ++
          "original model output retained for audit")] else [])

/-- The state that an attempt is made with, after the feedback of the attempt before it. -/
def callState (state : Json) (feedback : Option String) : Json :=
  feedback.elim state fun text => state.insert "diagnosis_validation_feedback" (.str text)

/-- The loop of the attempts, of which so many are left. Only a diagnosis that its checks refuse is
tried again, and only once. -/
def diagnoseAttempts (state : Json) : ℕ → Option String → DiagnosisProgress → Node Update
  | 0, _, progress => diagnosisFailed env lib state progress
      ⟨"RuntimeError", none, some "diagnosis retry loop ended without a result"⟩
  | attempts + 1, feedback, progress => do
    let progress := { progress with retryCount := if feedback.isSome then 1 else 0 }
    let outcome ← Act.attempt (Ports.diagnose (callState state feedback))
    match outcome with
    | .error e => diagnosisFailed env lib state progress e
    | .ok result =>
      match checkDiagnosis lib result.diagnosis state with
      | .ok checked => diagnosisCompleted env lib (progress.after lib result) checked
      | .error e =>
        if e.isInvalidDiagnosis ∧ attempts ≠ 0 then
          diagnoseAttempts state attempts (some (lib.errorText e)) (progress.after lib result)
        else diagnosisFailed env lib state (progress.after lib result) e

/-- The diagnosis that the program makes itself, where the facts cannot lead to a cause. -/
def localDiagnosis (state : Json) : Except Raised (Option Diagnosis) := do
  let s := remediationState state
  let facts ← diagnosticFactsOf lib.toCheckLibrary s.toPolicyState
  if canReportInsufficientEvidence facts then do
    let d ← insufficientEvidenceDiagnosis lib.toReportLibrary s
    validateDiagnosisReferences lib.toReportLibrary d s
    validateDiagnosisAssessment lib.toPolicyLibrary d s.toPolicyState
    pure (some d)
  else pure none

/-- The update of a diagnosis that the program has made. -/
def diagnosedLocally (d : Diagnosis) : Node Update :=
  update env ([("phase", .str "diagnosis_completed"), ("diagnosis", d.dump lib)] ++
      DiagnosisProgress.none.members) []
    [("diagnosis_policy_precheck", "completed",
      "rule_precheck: insufficient evidence; diagnosis model not called; " ++
        "resource_status=not_ready; business_status=unknown; no write actions")]

/-- `diagnose_incident`. -/
def diagnoseIncident (state : Json) : Node Update :=
  match localDiagnosis lib state with
  | .error e => diagnosisFailed env lib state .none e
  | .ok (some d) => diagnosedLocally env lib d
  | .ok none => diagnoseAttempts env lib state 2 none .none

/-! ### The plan -/

/-- `skip_remediation`. -/
def skipRemediation (state : Json) : Node Update :=
  update env [("phase", .str "remediation_skipped"), ("remediation_plan", .null),
    ("risk_level", .null), ("requires_approval", .bool false), ("approved", .null)] []
    [("skip_remediation", "completed", "remediation skipped for fault category " ++
      lib.textOf (((state.get "diagnosis").get? "fault_category").getD (.str "unknown")))]

/-- The update of a plan that was accepted. -/
def planned (result : RemediationCallResult) (plan : RemediationPlan) (added : List String) :
    Node Update :=
  update env [("phase", .str "remediation_planned"), ("remediation_plan", plan.dump),
    ("risk_level", .str plan.riskLevel.value), ("requires_approval", .bool plan.requiresApproval),
    ("approved", .null), ("remediation_llm_model", .str result.modelName),
    ("remediation_llm_usage", .obj result.usage)] []
    [("plan_remediation", "completed",
      "structured remediation plan completed; model_evidence_ids=" ++
        lib.pyRepr (.arr (result.plan.evidenceIds.map .str)) ++
        "; program_added_configuration_evidence_ids=" ++ lib.pyRepr (.arr (added.map .str)))]

/-- `plan_remediation`. -/
def planRemediation (state : Json) : Node Update := do
  let outcome ← Act.attempt do
    let result ← Ports.plan state
    let prepared ← Act.ofExcept
      (prepareRemediationPlan lib.toPolicyLibrary result.plan (remediationState state))
    pure (result, prepared)
  match outcome with
  | .ok (result, prepared) => planned env lib result prepared.1 prepared.2
  | .error e =>
    if e.errorType = "InvalidRemediationPlan" then
      failure env state "remediation_failed" "plan_remediation" "INVALID_REMEDIATION_PLAN"
        (lib.errorText e) "remediation plan validation failed" []
    else
      failure env state "remediation_failed" "plan_remediation" "LLM_REMEDIATION_ERROR"
        (lib.errorText e) "LLM remediation planning failed" []

end

end IncidentAgent
