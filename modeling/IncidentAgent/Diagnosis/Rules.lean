import IncidentAgent.Diagnosis.Collector
import Mathlib.Data.List.Infix

/-!
# The rule-based diagnosis

Seven rules look at the collected evidence in a fixed order, and the first one that applies
gives the diagnosis (`diagnoseEvidence`). What each rule reports has one category and the status
that goes with it (`Reports`), so that the category of a diagnosis tells which rule has given it
(`diagnoseEvidence_eq`).
-/

namespace IncidentAgent

namespace Rules

/-- `FaultCategory`. -/
inductive FaultCategory
  | healthy
  | serviceNotFound
  | selectorMismatch
  | imagePullError
  | oomKilled
  | crashLoop
  | readinessProbeError
  | unknown
  deriving DecidableEq, Inhabited

/-- `DiagnosisStatus`. -/
inductive DiagnosisStatus
  | healthy
  | unhealthy
  | unknown
  deriving DecidableEq, Inhabited

/-- `EvidenceSource`. -/
inductive EvidenceSource
  | service
  | pod
  | event
  | deployment
  | endpointSlice
  | collector
  deriving DecidableEq, Inhabited

/-- `DiagnosisEvidenceReference`. -/
structure EvidenceReference where
  evidenceId : String
  source : EvidenceSource
  resourceName : String
  summary : String
  deriving DecidableEq, Inhabited

/-- `DiagnosisResult`, with the confidence in hundredths. -/
structure DiagnosisResult where
  namespaceName : String
  serviceName : String
  status : DiagnosisStatus
  faultCategory : FaultCategory
  rootCause : String
  confidence : Nat
  evidence : List EvidenceReference
  recommendedAction : Option String
  requiresApproval : Bool
  deriving DecidableEq, Inhabited

/-- What the rules take from Python: how values are shown, and lower case. -/
structure RuleLibrary where
  /-- `repr(text)`. -/
  reprText : String → String
  /-- `str(labels)`, of a dictionary. -/
  showLabels : List (String × String) → String
  /-- `text.lower()`. -/
  lower : String → String

variable {Log Node : Type}

/-! ### The rules -/

/-- `str(value)`, of a text or `None`. -/
def showText : Option String → String
  | some text => text
  | none => "None"

/-- `str(value)`, of a number or `None`. -/
def showNumber : Option Int → String
  | some n => toString n
  | none => "None"

/-- `repr(value)`, of a text or `None`. -/
def RuleLibrary.reprOr (lib : RuleLibrary) : Option String → String
  | some text => lib.reprText text
  | none => "None"

/-- `_pod_reference`. -/
def podReference (pod : PodInfo) (summary : String) : EvidenceReference :=
  ⟨"pod_status:" ++ pod.name, .pod, pod.name, summary⟩

/-- `_ready_endpoint_count`. -/
def readyEndpointCount (slices : List (List EndpointInfo)) : Nat :=
  slices.flatten.foldl (fun count endpoint =>
    if endpoint.ready = some true then count + max endpoint.addresses.length 1 else count) 0

/-- `service_not_found_rule`. -/
def serviceNotFoundRule (lib : RuleLibrary) (bundle : EvidenceBundle Log Node) :
    Option DiagnosisResult :=
  if bundle.errors.any fun e => e.operation = "get_service" && e.statusCode = some 404 then
    some {
      namespaceName := bundle.namespaceName
      serviceName := bundle.serviceName
      status := .unhealthy
      faultCategory := .serviceNotFound
      rootCause := "Service " ++ lib.reprText bundle.serviceName ++
        " does not exist in namespace " ++ lib.reprText bundle.namespaceName ++ "."
      confidence := 100
      evidence := [⟨"collector:get_service", .collector, bundle.serviceName,
        "Kubernetes API returned HTTP 404."⟩]
      recommendedAction := some "verify_service_name"
      requiresApproval := false }
  else none

/-- Whether the pods of a Service seem not to be selected. -/
def selectsNothing (bundle : EvidenceBundle Log Node) (service : ServiceInfo) : Bool :=
  !service.selector.isEmpty && bundle.servicePodNames.isEmpty &&
    !bundle.namespacePodNames.isEmpty && readyEndpointCount bundle.endpointSlices = 0

/-- `selector_mismatch_rule`. -/
def selectorMismatchRule (lib : RuleLibrary) (bundle : EvidenceBundle Log Node) :
    Option DiagnosisResult :=
  match bundle.service with
  | none => none
  | some service =>
    if selectsNothing bundle service then
      some {
        namespaceName := bundle.namespaceName
        serviceName := bundle.serviceName
        status := .unhealthy
        faultCategory := .selectorMismatch
        rootCause := "Service selector " ++ lib.showLabels service.selector ++
          " matches no Pods, although Pods exist in the namespace."
        confidence := 98
        evidence := [
          ⟨"service:" ++ service.name, .service, service.name,
            "selector=" ++ lib.showLabels service.selector ++ "; matched_pods=0"⟩,
          ⟨"namespace:pods", .pod, bundle.namespaceName,
            "; ".intercalate (bundle.podStatuses.map fun e =>
              e.2.name ++ " labels=" ++ lib.showLabels e.2.labels)⟩,
          ⟨"endpoint_slice:ready_count", .endpointSlice, service.name,
            "ready_endpoint_count=0"⟩]
        recommendedAction := some "patch_service_selector"
        requiresApproval := true }
    else none

/-- The loop of the three rules about containers: the first container of the first pod that has
one with the fault. -/
def containerRule (faulty : ContainerStatusInfo → Bool)
    (report : PodInfo → ContainerStatusInfo → DiagnosisResult)
    (bundle : EvidenceBundle Log Node) : Option DiagnosisResult :=
  bundle.podStatuses.findSome? fun e => (e.2.containers.find? faulty).map (report e.2)

/-- Whether a container was terminated since it exceeded its memory. -/
def outOfMemory (c : ContainerStatusInfo) : Bool :=
  (match c.lastTerminatedReason with
    | some reason => if reason = "" then c.terminatedReason else some reason
    | none => c.terminatedReason) = some "OOMKilled"

/-- `oom_killed_rule`. -/
def oomKilledRule (lib : RuleLibrary) (bundle : EvidenceBundle Log Node) :
    Option DiagnosisResult :=
  containerRule outOfMemory (fun pod c => {
    namespaceName := bundle.namespaceName
    serviceName := bundle.serviceName
    status := .unhealthy
    faultCategory := .oomKilled
    rootCause := "Container " ++ lib.reprText c.name ++ " in Pod " ++ lib.reprText pod.name ++
      " was terminated because it exceeded its memory limit."
    confidence := 99
    evidence := [podReference pod ("container=" ++ c.name ++ "; reason=OOMKilled; exit_code=" ++
      showNumber (if c.lastTerminatedReason = some "OOMKilled" then c.lastTerminatedExitCode
        else c.terminatedExitCode) ++ "; restart_count=" ++ toString c.restartCount)]
    recommendedAction := some "review_memory_limit"
    requiresApproval := false }) bundle

/-- Whether the image of a container cannot be pulled. -/
def imageNotPulled (c : ContainerStatusInfo) : Bool :=
  c.waitingReason ∈ [some "ErrImagePull", some "ImagePullBackOff", some "InvalidImageName",
    some "RegistryUnavailable"]

/-- `image_pull_rule`. -/
def imagePullRule (lib : RuleLibrary) (bundle : EvidenceBundle Log Node) :
    Option DiagnosisResult :=
  containerRule imageNotPulled (fun pod c => {
    namespaceName := bundle.namespaceName
    serviceName := bundle.serviceName
    status := .unhealthy
    faultCategory := .imagePullError
    rootCause := "Container " ++ lib.reprText c.name ++ " in Pod " ++ lib.reprText pod.name ++
      " cannot pull image " ++ lib.reprText c.image ++ "."
    confidence := 99
    evidence := [podReference pod ("container=" ++ c.name ++ "; image=" ++ c.image ++
      "; waiting_reason=" ++ showText c.waitingReason ++ "; message=" ++
      showText c.waitingMessage)]
    recommendedAction := some "verify_image_reference_and_registry"
    requiresApproval := false }) bundle

/-- Whether a container is restarted again and again. -/
def crashLooping (c : ContainerStatusInfo) : Bool := c.waitingReason = some "CrashLoopBackOff"

/-- `crash_loop_rule`. -/
def crashLoopRule (lib : RuleLibrary) (bundle : EvidenceBundle Log Node) :
    Option DiagnosisResult :=
  containerRule crashLooping (fun pod c => {
    namespaceName := bundle.namespaceName
    serviceName := bundle.serviceName
    status := .unhealthy
    faultCategory := .crashLoop
    rootCause := "Container " ++ lib.reprText c.name ++ " in Pod " ++ lib.reprText pod.name ++
      " repeatedly exits and is being restarted."
    confidence := 97
    evidence := [podReference pod ("container=" ++ c.name ++
      "; waiting_reason=CrashLoopBackOff; restart_count=" ++ toString c.restartCount)]
    recommendedAction := some "inspect_previous_logs"
    requiresApproval := false }) bundle

/-- Whether an event says that a readiness probe has failed. -/
def probeFailed (lib : RuleLibrary) (event : EventInfo) : Bool :=
  event.reason = some "Unhealthy" &&
    decide ("readiness probe failed".toList <:+: (lib.lower (event.message.getD "")).toList)

/-- The name of the Deployment of a pod, and the path of its readiness probe. -/
def probeOwner (bundle : EvidenceBundle Log Node) (podName : String) :
    Option String × Option String :=
  let deploymentName := (bundle.ownerChains.lookup podName).bind (·.deploymentName)
  let deployment := deploymentName.bind fun name => bundle.deployments.lookup name
  (deploymentName, (deployment.bind fun d => d.readinessProbes.findSome? id).join)

/-- What a failed readiness probe is reported as. -/
def probeReport (lib : RuleLibrary) (bundle : EvidenceBundle Log Node) (podName : String)
    (pod : PodInfo) (event : EventInfo) : DiagnosisResult :=
  let (deploymentName, probePath) := probeOwner bundle podName
  { namespaceName := bundle.namespaceName
    serviceName := bundle.serviceName
    status := .unhealthy
    faultCategory := .readinessProbeError
    rootCause := "Pod " ++ lib.reprText pod.name ++ " is running but its readiness probe at " ++
      lib.reprOr probePath ++ " is failing."
    confidence := 98
    evidence := [
      podReference pod ("phase=Running; ready=False; ready_endpoint_count=" ++
        toString (readyEndpointCount bundle.endpointSlices)),
      ⟨"event:" ++ pod.name ++ ":readiness", .event, pod.name, event.message.getD ""⟩] ++
      (deploymentName.elim [] fun name => [⟨"deployment:" ++ name ++ ":probe", .deployment, name,
        "readiness_probe_path=" ++ showText probePath⟩])
    recommendedAction := some "patch_readiness_probe"
    requiresApproval := true }

/-- `readiness_probe_rule`. -/
def readinessProbeRule (lib : RuleLibrary) (bundle : EvidenceBundle Log Node) :
    Option DiagnosisResult :=
  bundle.podStatuses.findSome? fun e =>
    if e.2.phase != "Running" || e.2.ready then none
    else (((bundle.podEvents.lookup e.1).getD []).filter (probeFailed lib)).getLast?.map
      (probeReport lib bundle e.1 e.2)

/-- Whether a pod runs and is ready. -/
def runsReady (pod : PodInfo) : Bool := pod.phase = "Running" && pod.ready

/-- `service_pods`: the statuses that are there of the pods of the Service. -/
def servicePods (bundle : EvidenceBundle Log Node) : List PodInfo :=
  bundle.servicePodNames.filterMap fun podName => bundle.podStatuses.lookup podName

/-- `healthy_rule`. -/
def healthyRule (bundle : EvidenceBundle Log Node) : Option DiagnosisResult :=
  match bundle.service with
  | none => none
  | some service =>
    if bundle.servicePodNames.isEmpty || (servicePods bundle).isEmpty ||
        !(servicePods bundle).all runsReady || readyEndpointCount bundle.endpointSlices = 0 then
      none
    else
      some {
        namespaceName := bundle.namespaceName
        serviceName := bundle.serviceName
        status := .healthy
        faultCategory := .healthy
        rootCause :=
          "Service has running and ready Pods and at least one ready EndpointSlice address."
        confidence := 100
        evidence := [⟨"service:" ++ service.name ++ ":healthy", .service, service.name,
          "ready_pods=" ++ toString (servicePods bundle).length ++ "; ready_endpoints=" ++
            toString (readyEndpointCount bundle.endpointSlices)⟩]
        recommendedAction := none
        requiresApproval := false }

/-- `unknown_rule`. -/
def unknownRule (bundle : EvidenceBundle Log Node) : DiagnosisResult where
  namespaceName := bundle.namespaceName
  serviceName := bundle.serviceName
  status := .unknown
  faultCategory := .unknown
  rootCause :=
    let summary := "; ".intercalate ((bundle.errors.take 3).map fun e =>
      e.operation ++ ": " ++ e.message)
    "The collected evidence does not match a supported diagnostic rule." ++
      (if summary = "" then "" else " Evidence collection errors: " ++ summary)
  confidence := 0
  evidence := []
  recommendedAction := some "manual_investigation"
  requiresApproval := false

/-- `RULES`. -/
def rules (lib : RuleLibrary) : List (EvidenceBundle Log Node → Option DiagnosisResult) :=
  [serviceNotFoundRule lib, selectorMismatchRule lib, oomKilledRule lib, imagePullRule lib,
    crashLoopRule lib, readinessProbeRule lib, healthyRule]

/-- `diagnose_evidence`. -/
def diagnoseEvidence (lib : RuleLibrary) (bundle : EvidenceBundle Log Node) : DiagnosisResult :=
  ((rules lib).findSome? fun rule => rule bundle).getD (unknownRule bundle)

/-! ### Which rule gives the diagnosis -/

/-- The status that goes with a category. -/
def FaultCategory.status : FaultCategory → DiagnosisStatus
  | .healthy => .healthy
  | .unknown => .unknown
  | _ => .unhealthy

/-- What a rule reports has one category. -/
def Reports (result : Option DiagnosisResult) (category : FaultCategory) : Prop :=
  ∀ r, result = some r → r.faultCategory = category ∧ r.status = category.status

variable (lib : RuleLibrary) (bundle : EvidenceBundle Log Node)

theorem reports_serviceNotFoundRule : Reports (serviceNotFoundRule lib bundle) .serviceNotFound := by
  intro r hr
  unfold serviceNotFoundRule at hr
  split at hr
  · rw [← Option.some.inj hr]
    exact ⟨rfl, rfl⟩
  · cases hr

theorem reports_selectorMismatchRule :
    Reports (selectorMismatchRule lib bundle) .selectorMismatch := by
  intro r hr
  unfold selectorMismatchRule at hr
  repeat' split at hr
  · cases hr
  · rw [← Option.some.inj hr]
    exact ⟨rfl, rfl⟩
  · cases hr

theorem reports_containerRule {faulty : ContainerStatusInfo → Bool}
    {report : PodInfo → ContainerStatusInfo → DiagnosisResult} {category : FaultCategory}
    (h : ∀ pod c, (report pod c).faultCategory = category ∧
      (report pod c).status = category.status) :
    Reports (containerRule faulty report bundle) category := by
  intro r hr
  obtain ⟨e, -, he⟩ := List.exists_of_findSome?_eq_some hr
  obtain ⟨c, -, rfl⟩ := Option.map_eq_some_iff.1 he
  exact h e.2 c

theorem reports_readinessProbeRule :
    Reports (readinessProbeRule lib bundle) .readinessProbeError := by
  intro r hr
  obtain ⟨e, -, he⟩ := List.exists_of_findSome?_eq_some hr
  split at he
  · cases he
  · obtain ⟨event, -, rfl⟩ := Option.map_eq_some_iff.1 he
    exact ⟨rfl, rfl⟩

theorem reports_healthyRule : Reports (healthyRule bundle) .healthy := by
  intro r hr
  unfold healthyRule at hr
  repeat' split at hr
  · cases hr
  · cases hr
  · rw [← Option.some.inj hr]
    exact ⟨rfl, rfl⟩

/-- The category of the first rule that applies, where the others come after it. -/
theorem reports_or {x y : Option DiagnosisResult} {default : DiagnosisResult}
    {category : FaultCategory} (hx : Reports x category)
    (hy : (y.getD default).status = (y.getD default).faultCategory.status) :
    ((x.or y).getD default).faultCategory =
      (if x.isSome then category else (y.getD default).faultCategory) ∧
    ((x.or y).getD default).status = ((x.or y).getD default).faultCategory.status := by
  cases x with
  | none => exact ⟨rfl, hy⟩
  | some r =>
    obtain ⟨hcategory, hstatus⟩ := hx r rfl
    refine ⟨hcategory, ?_⟩
    show r.status = r.faultCategory.status
    rw [hstatus, hcategory]

/-- **The diagnosis is that of the first rule that applies.** -/
theorem diagnoseEvidence_eq :
    (diagnoseEvidence lib bundle).faultCategory =
      (if (serviceNotFoundRule lib bundle).isSome then .serviceNotFound
      else if (selectorMismatchRule lib bundle).isSome then .selectorMismatch
      else if (oomKilledRule lib bundle).isSome then .oomKilled
      else if (imagePullRule lib bundle).isSome then .imagePullError
      else if (crashLoopRule lib bundle).isSome then .crashLoop
      else if (readinessProbeRule lib bundle).isSome then .readinessProbeError
      else if (healthyRule bundle).isSome then .healthy else .unknown) ∧
    (diagnoseEvidence lib bundle).status = (diagnoseEvidence lib bundle).faultCategory.status := by
  have horder : diagnoseEvidence lib bundle = ((serviceNotFoundRule lib bundle).or
      ((selectorMismatchRule lib bundle).or ((oomKilledRule lib bundle).or
      ((imagePullRule lib bundle).or ((crashLoopRule lib bundle).or
      ((readinessProbeRule lib bundle).or ((healthyRule bundle).or none))))))).getD
        (unknownRule bundle) := by
    simp only [diagnoseEvidence, rules, List.findSome?_cons, List.findSome?_nil]
    repeat' split
    all_goals simp [*]
  obtain ⟨hhealthy, h₇⟩ := reports_or (y := none) (reports_healthyRule bundle)
    (show ((none : Option DiagnosisResult).getD (unknownRule bundle)).status = _ from rfl)
  obtain ⟨hreadiness, h₆⟩ := reports_or (reports_readinessProbeRule lib bundle) h₇
  obtain ⟨hcrash, h₅⟩ := reports_or (x := crashLoopRule lib bundle)
    (reports_containerRule bundle fun _ _ => ⟨rfl, rfl⟩) h₆
  obtain ⟨himage, h₄⟩ := reports_or (x := imagePullRule lib bundle)
    (reports_containerRule bundle fun _ _ => ⟨rfl, rfl⟩) h₅
  obtain ⟨hoom, h₃⟩ := reports_or (x := oomKilledRule lib bundle)
    (reports_containerRule bundle fun _ _ => ⟨rfl, rfl⟩) h₄
  obtain ⟨hselector, h₂⟩ := reports_or (reports_selectorMismatchRule lib bundle) h₃
  obtain ⟨hservice, h₁⟩ := reports_or (reports_serviceNotFoundRule lib bundle) h₂
  rw [horder]
  refine ⟨?_, h₁⟩
  rw [hservice, hselector, hoom, himage, hcrash, hreadiness, hhealthy]
  rfl

end Rules

end IncidentAgent
