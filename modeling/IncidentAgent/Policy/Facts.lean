import IncidentAgent.Business.Collector
import IncidentAgent.Data.Observation

/-!
# The facts of a diagnosis

What the policy computes from the evidence of a state, and nothing else: whether the resources
of the registered Deployment are ready, whether the registered business checks have passed, and
whether the configuration of the Service and of the readiness probe has drifted from the
profile. A state whose profile is not matched has no facts.

Business checks are judged one by one (`businessVerdict`). The collector has bound a result to
its target already; here the target is built once more, from the profile and the Service in
evidence, and a result about any other target counts as unknown.
-/

namespace IncidentAgent

/-- `FaultCategory`. -/
inductive FaultCategory
  | crashLoopBackoff
  | imagePullBackoff
  | oomKilled
  | readinessProbeError
  | serviceSelectorMismatch
  | applicationError
  | dependencyError
  | noFaultDetected
  | unknown
  deriving DecidableEq, Inhabited

/-- `readiness_configuration_status`. -/
inductive ConfigurationStatus
  | unknown
  | drift
  | matched
  deriving DecidableEq, Inhabited

/-- The text of the status of the resources. -/
def ResourceStatus.value : ResourceStatus → String
  | .ready => "ready"
  | .notReady => "not_ready"
  | .unknown => "unknown"

/-- The text of the status of the business checks. -/
def BusinessStatus.value : BusinessStatus → String
  | .passed => "passed"
  | .failed => "failed"
  | .unknown => "unknown"
  | .skipped => "skipped"

/-- The result of `diagnostic_facts`. -/
structure DiagnosticFacts where
  resourceStatus : ResourceStatus
  businessStatus : BusinessStatus
  selectorDrift : Bool
  readinessDrift : Bool
  configurationEvidenceIds : List String
  businessEvidenceIds : List String
  resourceEvidenceIds : List String
  currentRuntimeFaults : List FaultCategory
  configurationEvidenceComplete : Bool
  currentLogEvidenceIds : List String
  profileMatched : Bool
  readinessConfigurationStatus : ConfigurationStatus
  readinessPatchSupported : Bool
  expectedReplicas : Option Int
  observedDesiredReplicas : Json
  replicaCountMatches : Option Bool
  deriving DecidableEq

/-- The facts of a state whose profile is not matched. -/
def DiagnosticFacts.none : DiagnosticFacts where
  resourceStatus := .unknown
  businessStatus := .unknown
  selectorDrift := false
  readinessDrift := false
  configurationEvidenceIds := []
  businessEvidenceIds := []
  resourceEvidenceIds := []
  currentRuntimeFaults := []
  configurationEvidenceComplete := false
  currentLogEvidenceIds := []
  profileMatched := false
  readinessConfigurationStatus := .unknown
  readinessPatchSupported := false
  expectedReplicas := Option.none
  observedDesiredReplicas := .null
  replicaCountMatches := Option.none

/-! ### Configuration -/

/-- `readiness_configuration_facts`: the status of the configuration, and whether the probe can
be patched. -/
def readinessConfigurationFacts (container : Json) (expected : HttpProbeContract) :
    ConfigurationStatus × Bool :=
  match container.get? "readiness_probe" with
  | Option.none => (.unknown, false)
  | some .null => (.drift, false)
  | some probe =>
    if !probe.isObject || !(probe.get "path").truthy || probe.get "port" = .null then
      (.unknown, false)
    else
      let scheme := if (probe.get "scheme").truthy then probe.get "scheme" else .str "HTTP"
      let sameScheme : Bool := scheme = .str expected.scheme
      let sameAddress : Bool := probe.get "path" = .str expected.path &&
        (probe.get "port").pyEq expected.port.dump
      (if sameScheme && sameAddress then .matched else .drift, sameScheme && !sameAddress)

/-- The Service of a request in evidence, when there is exactly one. -/
def serviceInEvidence (evidence : List EvidenceRow) (request : Json) : Option EvidenceRow :=
  match evidence.filter fun e => e.resourceType = "Service" &&
      request.hasText "service_name" e.resourceName with
  | [row] => some row
  | _ => Option.none

/-- Whether the Service in evidence is the one of the request, with a selector. -/
def serviceValid (request service : Json) : Bool :=
  service.get "namespace" = request.get "namespace" &&
    service.get "name" = request.get "service_name" && (service.get "selector").isObject

/-- A Service that is valid is there. -/
theorem exists_of_serviceValid {request : Json} {row? : Option EvidenceRow}
    (h : serviceValid request (row?.elim (.obj []) (·.data)) = true) :
    ∃ row, row? = some row ∧ serviceValid request row.data = true := by
  cases row? with
  | none => simp [serviceValid, Json.get, Json.get?, Json.isObject] at h
  | some row => exact ⟨row, rfl, h⟩

/-- `dict == expected`, for the labels of a profile. -/
def sameLabels (selector : Json) (expected : Labels) : Bool :=
  selector.pyEq (textMap expected)

/-- A selector is equal to the labels of one dictionary only. -/
theorem labels_eq_of_same {selector : Json} {m n : Labels} (hm : sameLabels selector m = true)
    (hn : sameLabels selector n = true) : m = n := by
  refine textMap_injective ?_
  have hsame := (of_decide_eq_true hm).symm.trans (of_decide_eq_true hn)
  rwa [unbool_textMap, unbool_textMap, canonical_textMap, canonical_textMap] at hsame

/-- The container of a profile in a Deployment. -/
def registeredContainer (profile : ServiceProfile) (deployment : Json) : Json :=
  ((deployment.get "containers").items.find? fun c =>
    c.hasText "name" profile.containerName).getD (.obj [])

/-! ### Resources -/

/-- The names of the pods that the registered Deployment owns. -/
def ownedPods (profile : ServiceProfile) (request : Json) (evidence : List EvidenceRow) :
    List String :=
  ((rowsOf evidence "OwnerChain").filter fun e =>
    (e.data.get "owner_chain").hasText "deployment_name" profile.deploymentName &&
      (e.data.get "owner_chain").get "namespace" = request.get "namespace").map (·.resourceName)

/-- The runtime fault that a container is in, if any. Restarts and earlier terminations are not
current. -/
def runtimeFault (container : Json) : Option FaultCategory :=
  let reason := if container.hasText "state" "waiting" then container.get "waiting_reason"
    else if container.hasText "state" "terminated" then container.get "terminated_reason"
    else .null
  if reason = .str "CrashLoopBackOff" then some .crashLoopBackoff
  else if reason = .str "ImagePullBackOff" || reason = .str "ErrImagePull" then
    some .imagePullBackoff
  else if reason = .str "OOMKilled" then some .oomKilled
  else Option.none

/-- What the status of the resources is computed from. -/
structure ResourceView where
  deployment : Json
  pods : List EvidenceRow
  endpoints : List EvidenceRow
  owned : List String
  serviceValid : Bool
  selectorDrift : Bool
  configuration : ConfigurationStatus
  replicaCountMatches : Option Bool

/-- Whether the resources are seen not to be ready, for a desired number of replicas. -/
def ResourceView.isNotReady (v : ResourceView) (desired : Int) : Bool :=
  desired = 0 || v.replicaCountMatches = some false ||
    (v.deployment.get "ready_replicas").toInt < desired ||
    (v.deployment.get "available_replicas").toInt < desired ||
    v.selectorDrift || v.configuration = .drift ||
    v.pods.any fun p => p.data.get "ready" = .bool false

/-- Whether the resources are seen to be ready. -/
def ResourceView.isReady (v : ResourceView) (desired : Int) : Bool :=
  v.serviceValid && v.configuration = .matched && desired ≤ v.pods.length &&
    (v.pods.all fun p => p.data.get "ready" = .bool true) &&
    v.endpoints.any fun e => (e.data.get "endpoints").items.any fun ep =>
      ep.get "ready" = .bool true && v.owned.any fun name => ep.hasText "target_name" name

/-- `resource_status`. -/
def ResourceView.status (v : ResourceView) : ResourceStatus :=
  match v.deployment.get "desired_replicas" with
  | .num desired =>
    if desired < 0 then .unknown
    else if v.isNotReady desired then .notReady
    else if v.isReady desired then .ready
    else .unknown
  | _ => .unknown

/-- What is ready has a desired number of replicas, for which it is seen to be ready and not
seen not to be. -/
theorem ResourceView.status_eq_ready {v : ResourceView} (h : v.status = .ready) :
    ∃ desired, v.deployment.get "desired_replicas" = .num desired ∧
      v.isNotReady desired = false ∧ v.isReady desired = true := by
  unfold status at h
  cases hdesired : v.deployment.get "desired_replicas" with
  | num desired =>
    simp only [hdesired] at h
    refine ⟨desired, rfl, ?_⟩
    by_cases hnegative : desired < 0
    · rw [if_pos hnegative] at h
      cases h
    · rw [if_neg hnegative] at h
      cases hnot : v.isNotReady desired <;> cases hready : v.isReady desired <;>
        simp_all
  | _ =>
    simp only [hdesired] at h
    cases h

/-! ### Business checks -/

/-- The status of one check: what its row says, as far as the row is bound to the target. -/
inductive CheckVerdict
  | passed
  | failed
  | other
  deriving DecidableEq, Inhabited

/-- The rows about a check. -/
def checkRows (evidence : List EvidenceRow) (check : BusinessCheckContract) : List EvidenceRow :=
  (rowsOf evidence "BusinessCheck").filter fun e => e.data.hasText "check_id" check.checkId

/-- Whether a row is about the target that is built of the profile, a check and a Service. -/
def rowValid (lib : CheckLibrary) (profile : ServiceProfile) (service : Json)
    (check : BusinessCheckContract) (row : EvidenceRow) : Bool :=
  match buildTarget lib profile check service with
  | .error _ => false
  | .ok target =>
    row.data.hasText "scope" "cluster_service_http" && (row.data.get "request_id").truthy &&
      row.source = "cluster_http_probe" &&
      (row.data.get "target").canonical = target.canonical

/-- Whether a row reports what a check expects. -/
def rowReports (check : BusinessCheckContract) (row : EvidenceRow) : Bool :=
  (row.data.get "http_status").pyEq (.num check.expectedStatus) &&
    row.data.get "content_matches" = .bool true && row.data.get "error_code" = .null

/-- The verdict on one check. -/
def businessVerdict (lib : CheckLibrary) (profile : ServiceProfile) (service : Json)
    (evidence : List EvidenceRow) (check : BusinessCheckContract) : CheckVerdict :=
  match checkRows evidence check with
  | [row] =>
    if !rowValid lib profile service check row then .other
    else if row.data.hasText "status" "passed" then
      if rowReports check row then .passed else .other
    else if row.data.hasText "status" "failed" then .failed
    else .other
  | _ => .other

/-- `business_status`: a failure counts, and a pass only when all have passed. -/
def businessStatus (verdicts : List CheckVerdict) : BusinessStatus :=
  if .failed ∈ verdicts then .failed
  else if verdicts ≠ [] ∧ ∀ v ∈ verdicts, v = .passed then .passed
  else .unknown

/-! ### The facts -/

/-- `diagnostic_facts`, of a profile that is matched by a Deployment in evidence. -/
def factsOf (lib : CheckLibrary) (state : PolicyState) (profile : ServiceProfile)
    (deploymentRow : EvidenceRow) : DiagnosticFacts :=
  let evidence := state.evidence.filter fun e => e.error.isNone
  let deployment := deploymentRow.data
  let serviceRow := serviceInEvidence evidence state.request
  let service := serviceRow.elim (.obj []) (·.data)
  let valid := serviceValid state.request service
  let drift := valid && !sameLabels (service.get "selector") profile.expectedSelector
  let container := registeredContainer profile deployment
  let probe := container.get "readiness_probe"
  let configuration := readinessConfigurationFacts container profile.readinessProbe
  let owned := ownedPods profile state.request evidence
  let pods := (rowsOf evidence "PodStatus").filter fun e =>
    e.resourceName ∈ owned && e.data.get "namespace" = state.request.get "namespace"
  let endpoints := (rowsOf evidence "EndpointSlice").filter fun e =>
    e.data.get "namespace" = state.request.get "namespace" &&
      e.data.get "service_name" = state.request.get "service_name"
  let desired := deployment.get "desired_replicas"
  let replicas := match profile.expectedReplicas, desired with
    | some expected, .num n => some (decide (n = expected))
    | _, _ => Option.none
  { resourceStatus := ResourceView.status
      { deployment := deployment
        pods := pods
        endpoints := endpoints
        owned := owned
        serviceValid := valid
        selectorDrift := drift
        configuration := configuration.1
        replicaCountMatches := replicas }
    businessStatus := businessStatus
      (profile.businessChecks.map (businessVerdict lib profile service evidence))
    selectorDrift := drift
    readinessDrift := configuration.1 = .drift
    configurationEvidenceIds :=
      (if valid then (serviceRow.map (·.evidenceId)).toList else []) ++ [deploymentRow.evidenceId]
    businessEvidenceIds := profile.businessChecks.flatMap fun check =>
      match checkRows evidence check with
      | [row] => [row.evidenceId]
      | _ => []
    resourceEvidenceIds := (deploymentRow :: pods ++ endpoints).map (·.evidenceId)
    currentRuntimeFaults := pods.flatMap fun pod =>
      (pod.data.get "containers").items.filterMap runtimeFault
    configurationEvidenceComplete := valid && container.truthy && (probe.get "path").truthy &&
      probe.get "port" ≠ .null
    currentLogEvidenceIds := ((rowsOf evidence "PodLogs").filter fun e =>
      e.resourceName ∈ owned && e.data.get "previous" = .bool false &&
        (e.data.get "content").truthy).map (·.evidenceId)
    profileMatched := true
    readinessConfigurationStatus := configuration.1
    readinessPatchSupported := configuration.2
    expectedReplicas := profile.expectedReplicas
    observedDesiredReplicas := desired
    replicaCountMatches := replicas }

/-- `diagnostic_facts`. The Deployment of a profile that is matched may still be a row with an
error, of which there are no facts. -/
def diagnosticFacts (lib : CheckLibrary) (state : PolicyState) : DiagnosticFacts :=
  match matchedProfile lib.toLibrary state with
  | .error _ => .none
  | .ok profile =>
    match rowsNamed (state.evidence.filter fun e => e.error.isNone) "Deployment"
        profile.deploymentName with
    | [] => .none
    | row :: _ => factsOf lib state profile row

end IncidentAgent
