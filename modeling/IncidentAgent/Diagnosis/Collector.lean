import IncidentAgent.Lib.Entries

/-!
# The evidence that the rules look at

The rule-based diagnosis collects its evidence read by read (`collectServiceEvidence`). A read
that fails leaves an error in a list of its own, and the field it was for as it was: an empty
list, or a dictionary without the entry. The reads are those of a world (`EvidenceReads`) in
which each of them may fail on its own.

What the collected evidence is made of is said once (`collect_spec`): the fields of the Service
are what their reads gave, or empty; the status of a pod is there if it was read; and the error
of the Service is there if its read failed, with its status.
-/

namespace IncidentAgent

namespace Rules

/-- An exception of a read: its text, and the status of an `ApiException`. -/
structure ReadError where
  message : String
  statusCode : Option Int
  deriving DecidableEq, Inhabited

/-- `ServiceInfo`. -/
structure ServiceInfo where
  name : String
  selector : List (String × String)
  deriving DecidableEq, Inhabited

/-- `EndpointInfo`. -/
structure EndpointInfo where
  addresses : List String
  ready : Option Bool
  deriving DecidableEq, Inhabited

/-- `ContainerStatusInfo`. -/
structure ContainerStatusInfo where
  name : String
  restartCount : Int
  image : String
  state : String
  waitingReason : Option String
  waitingMessage : Option String
  terminatedReason : Option String
  terminatedExitCode : Option Int
  lastTerminatedReason : Option String
  lastTerminatedExitCode : Option Int
  deriving DecidableEq, Inhabited

/-- `PodInfo`. -/
structure PodInfo where
  name : String
  phase : String
  ready : Bool
  nodeName : Option String
  labels : List (String × String)
  containers : List ContainerStatusInfo
  deriving DecidableEq, Inhabited

/-- `EventInfo`. -/
structure EventInfo where
  reason : Option String
  message : Option String
  deriving DecidableEq, Inhabited

/-- `OwnerChainInfo`. -/
structure OwnerChainInfo where
  deploymentName : Option String
  deriving DecidableEq, Inhabited

/-- `DeploymentInfo`: of each container the path of its readiness probe, if it has one. -/
structure DeploymentInfo where
  readinessProbes : List (Option (Option String))
  deriving DecidableEq, Inhabited

/-- `CollectionErrorInfo`. -/
structure CollectionErrorInfo where
  operation : String
  resourceKind : String
  resourceName : String
  message : String
  statusCode : Option Int
  deriving DecidableEq, Inhabited

/-- `ServiceEvidenceBundle`. The logs and the nodes are not looked at by the rules. -/
structure EvidenceBundle (Log Node : Type) where
  namespaceName : String
  serviceName : String
  service : Option ServiceInfo
  servicePodNames : List String
  namespacePodNames : List String
  /-- The endpoints of each slice. -/
  endpointSlices : List (List EndpointInfo)
  podStatuses : List (String × PodInfo)
  podEvents : List (String × List EventInfo)
  podLogs : List Log
  ownerChains : List (String × OwnerChainInfo)
  deployments : List (String × DeploymentInfo)
  nodes : List (String × Node)
  errors : List CollectionErrorInfo

/-- What each read of a collection gives. The reads of a Deployment and of a node are known by
the pod for which they are made, since a read that has failed is made again for another pod. -/
structure EvidenceReads (Log Node : Type) where
  namespacePods : Except ReadError (List String)
  service : Except ReadError ServiceInfo
  servicePods : Except ReadError (List String)
  endpointSlices : Except ReadError (List (List EndpointInfo))
  podStatus : (podName : String) → Except ReadError PodInfo
  podEvents : (podName : String) → Except ReadError (List EventInfo)
  podLogs : (podName : String) → (previous : Bool) → Except ReadError Log
  podOwner : (podName : String) → Except ReadError OwnerChainInfo
  deployment : (podName deploymentName : String) → Except ReadError DeploymentInfo
  node : (podName nodeName : String) → Except ReadError Node

variable {Log Node : Type}

/-! ### The collection -/

/-- `_record_error`. -/
def recordError (operation resourceKind resourceName : String) (error : ReadError)
    (bundle : EvidenceBundle Log Node) : EvidenceBundle Log Node :=
  { bundle with errors := bundle.errors ++
      [⟨operation, resourceKind, resourceName, error.message, error.statusCode⟩] }

/-- A read in a `try`: its value is kept, or its error recorded. -/
def attempt {α : Type} (operation resourceKind resourceName : String)
    (read : Except ReadError α) (keep : α → EvidenceBundle Log Node → EvidenceBundle Log Node)
    (bundle : EvidenceBundle Log Node) : EvidenceBundle Log Node :=
  match read with
  | .ok value => keep value bundle
  | .error error => recordError operation resourceKind resourceName error bundle

/-- `bundle.pod_statuses[pod_name] = pod_status`. -/
def keepStatus (podName : String) (pod : PodInfo) (bundle : EvidenceBundle Log Node) :
    EvidenceBundle Log Node :=
  { bundle with podStatuses := Entries.set podName pod bundle.podStatuses }

/-- `bundle.pod_events[pod_name] = events`. -/
def keepEvents (podName : String) (events : List EventInfo) (bundle : EvidenceBundle Log Node) :
    EvidenceBundle Log Node :=
  { bundle with podEvents := Entries.set podName events bundle.podEvents }

/-- `bundle.pod_logs.append(log)`. -/
def keepLog (log : Log) (bundle : EvidenceBundle Log Node) : EvidenceBundle Log Node :=
  { bundle with podLogs := bundle.podLogs ++ [log] }

/-- `bundle.owner_chains[pod_name] = owner_chain`. -/
def keepOwner (podName : String) (chain : OwnerChainInfo) (bundle : EvidenceBundle Log Node) :
    EvidenceBundle Log Node :=
  { bundle with ownerChains := Entries.set podName chain bundle.ownerChains }

/-- `bundle.deployments[deployment_name] = deployment`, of one that is not there. -/
def keepDeployment (deploymentName : String) (deployment : DeploymentInfo)
    (bundle : EvidenceBundle Log Node) : EvidenceBundle Log Node :=
  { bundle with deployments := bundle.deployments ++ [(deploymentName, deployment)] }

/-- `bundle.nodes[node_name] = node`, of one that is not there. -/
def keepNode (nodeName : String) (node : Node) (bundle : EvidenceBundle Log Node) :
    EvidenceBundle Log Node :=
  { bundle with nodes := bundle.nodes ++ [(nodeName, node)] }

/-- `_pod_may_have_logs`. -/
def podMayHaveLogs (pod : PodInfo) : Bool :=
  pod.containers.any fun c => c.state ∈ ["running", "terminated"] || 0 < c.restartCount

/-- Whether a container has been restarted. -/
def hasRestarts (pod : PodInfo) : Bool := pod.containers.any fun c => 0 < c.restartCount

/-- `_pod_is_abnormal`. -/
def podIsAbnormal (pod : PodInfo) : Bool :=
  pod.phase != "Running" || !pod.ready || hasRestarts pod

/-- The logs of a pod that is not well. -/
def collectLogs (reads : EvidenceReads Log Node) (podName : String) (pod : PodInfo)
    (bundle : EvidenceBundle Log Node) : EvidenceBundle Log Node :=
  if podIsAbnormal pod && podMayHaveLogs pod then
    let current := attempt "get_current_logs" "Pod" podName (reads.podLogs podName false) keepLog
      bundle
    if hasRestarts pod then
      attempt "get_previous_logs" "Pod" podName (reads.podLogs podName true) keepLog current
    else current
  else bundle

/-- The Deployment that owns a pod, unless it is there. -/
def collectDeployment (reads : EvidenceReads Log Node) (podName : String)
    (bundle : EvidenceBundle Log Node) : EvidenceBundle Log Node :=
  match reads.podOwner podName with
  | .ok ⟨some deploymentName⟩ =>
    if (bundle.deployments.lookup deploymentName).isSome then bundle
    else attempt "get_deployment_config" "Deployment" deploymentName
      (reads.deployment podName deploymentName) (keepDeployment deploymentName) bundle
  | _ => bundle

/-- The node of a pod, unless it is there. -/
def collectNode (reads : EvidenceReads Log Node) (podName : String)
    (bundle : EvidenceBundle Log Node) : EvidenceBundle Log Node :=
  match reads.podStatus podName with
  | .ok { nodeName := some nodeName, .. } =>
    if (bundle.nodes.lookup nodeName).isSome then bundle
    else attempt "get_node_status" "Node" nodeName (reads.node podName nodeName) (keepNode nodeName)
      bundle
  | _ => bundle

/-- The events and the logs of a pod. -/
def collectDetails (reads : EvidenceReads Log Node) (podName : String)
    (bundle : EvidenceBundle Log Node) : EvidenceBundle Log Node :=
  let withEvents := attempt "get_pod_events" "Pod" podName (reads.podEvents podName)
    (keepEvents podName) bundle
  match reads.podStatus podName with
  | .ok pod => collectLogs reads podName pod withEvents
  | .error _ => withEvents

/-- One turn of the loop over the pods. -/
def collectPod (reads : EvidenceReads Log Node) (includeDetails : Bool)
    (bundle : EvidenceBundle Log Node) (podName : String) : EvidenceBundle Log Node :=
  let withStatus := attempt "get_pod_status" "Pod" podName (reads.podStatus podName)
    (keepStatus podName) bundle
  let withDetails := if includeDetails then collectDetails reads podName withStatus else withStatus
  let withOwner := attempt "resolve_pod_owner" "Pod" podName (reads.podOwner podName)
    (keepOwner podName) withDetails
  collectNode reads podName (collectDeployment reads podName withOwner)

/-- The pods of the Service and its endpoints, if the Service was read. -/
def collectSelected (reads : EvidenceReads Log Node) (bundle : EvidenceBundle Log Node) :
    EvidenceBundle Log Node :=
  if bundle.service.isSome then
    attempt "get_endpoint_slices" "Service" bundle.serviceName reads.endpointSlices
      (fun slices b => { b with endpointSlices := slices })
      (attempt "list_service_pods" "Service" bundle.serviceName reads.servicePods
        (fun names b => { b with servicePodNames := names }) bundle)
  else bundle

/-- The reads before the loop over the pods. -/
def collectService (reads : EvidenceReads Log Node) (namespaceName serviceName : String) :
    EvidenceBundle Log Node :=
  let empty : EvidenceBundle Log Node :=
    ⟨namespaceName, serviceName, none, [], [], [], [], [], [], [], [], [], []⟩
  collectSelected reads
    (attempt "get_service" "Service" serviceName reads.service
      (fun service b => { b with service := some service })
      (attempt "list_namespace_pods" "Namespace" namespaceName reads.namespacePods
        (fun names b => { b with namespacePodNames := names }) empty))

/-- The pods that are looked at: those of the Service or, if none are known, those of the
namespace. -/
def podNames (bundle : EvidenceBundle Log Node) : List String :=
  if bundle.servicePodNames = [] then bundle.namespacePodNames else bundle.servicePodNames

/-- `collect_service_evidence`. -/
def collectServiceEvidence (reads : EvidenceReads Log Node) (namespaceName serviceName : String)
    (includeDetails : Bool) : EvidenceBundle Log Node :=
  let bundle := collectService reads namespaceName serviceName
  (podNames bundle).foldl (collectPod reads includeDetails) bundle

/-! ### What the evidence is made of -/

/-- The part of the evidence that the rules take for what there is in the cluster, and the errors
of the read of the Service. -/
structure Seen where
  service : Option ServiceInfo
  servicePodNames : List String
  namespacePodNames : List String
  endpointSlices : List (List EndpointInfo)
  podStatuses : List (String × PodInfo)
  serviceErrors : List CollectionErrorInfo

/-- That part of a bundle. -/
def EvidenceBundle.seen (bundle : EvidenceBundle Log Node) : Seen where
  service := bundle.service
  servicePodNames := bundle.servicePodNames
  namespacePodNames := bundle.namespacePodNames
  endpointSlices := bundle.endpointSlices
  podStatuses := bundle.podStatuses
  serviceErrors := bundle.errors.filter fun e => e.operation = "get_service"

variable {reads : EvidenceReads Log Node} {bundle : EvidenceBundle Log Node}
  {podName operation resourceKind resourceName : String}

theorem seen_recordError (hop : operation ≠ "get_service") (error : ReadError) :
    (recordError operation resourceKind resourceName error bundle).seen = bundle.seen := by
  have hfilter : (bundle.errors ++ [(⟨operation, resourceKind, resourceName, error.message,
      error.statusCode⟩ : CollectionErrorInfo)]).filter (fun e => e.operation = "get_service") =
      bundle.errors.filter fun e => e.operation = "get_service" := by
    rw [List.filter_append, List.filter_cons_of_neg (by simpa using hop), List.filter_nil,
      List.append_nil]
  rw [recordError, EvidenceBundle.seen, EvidenceBundle.seen, hfilter]

/-- A read whose value goes elsewhere, and that is not the one of the Service. -/
theorem seen_attempt {α : Type} {read : Except ReadError α}
    {keep : α → EvidenceBundle Log Node → EvidenceBundle Log Node}
    (hop : operation ≠ "get_service") (hkeep : ∀ value b, (keep value b).seen = b.seen) :
    (attempt operation resourceKind resourceName read keep bundle).seen = bundle.seen := by
  unfold attempt
  split
  · exact hkeep _ _
  · exact seen_recordError hop _

theorem seen_collectLogs (pod : PodInfo) :
    (collectLogs reads podName pod bundle).seen = bundle.seen := by
  have hlogs (operation : String) (hop : operation ≠ "get_service") (read : Except ReadError Log)
      (b : EvidenceBundle Log Node) :
      (attempt operation "Pod" podName read keepLog b).seen = b.seen :=
    seen_attempt hop fun _ _ => rfl
  unfold collectLogs
  split
  · simp only
    split
    · rw [hlogs _ (by decide), hlogs _ (by decide)]
    · exact hlogs _ (by decide) _ _
  · rfl

theorem seen_collectDetails : (collectDetails reads podName bundle).seen = bundle.seen := by
  have hevents : (attempt "get_pod_events" "Pod" podName (reads.podEvents podName)
      (keepEvents podName) bundle).seen = bundle.seen := seen_attempt (by decide) fun _ _ => rfl
  unfold collectDetails
  simp only
  split
  · exact (seen_collectLogs _).trans hevents
  · exact hevents

theorem seen_collectDeployment : (collectDeployment reads podName bundle).seen = bundle.seen := by
  unfold collectDeployment
  split
  · split
    · rfl
    · exact seen_attempt (by decide) fun _ _ => rfl
  · rfl

theorem seen_collectNode : (collectNode reads podName bundle).seen = bundle.seen := by
  unfold collectNode
  split
  · split
    · rfl
    · exact seen_attempt (by decide) fun _ _ => rfl
  · rfl

/-- The statuses after the read of one more. -/
def withStatus (reads : EvidenceReads Log Node) (statuses : List (String × PodInfo))
    (podName : String) : List (String × PodInfo) :=
  match reads.podStatus podName with
  | .ok pod => Entries.set podName pod statuses
  | .error _ => statuses

/-- **One turn of the loop** adds the status of its pod, if it is read, and nothing else that
the rules take for an observation. -/
theorem seen_collectPod (includeDetails : Bool) :
    (collectPod reads includeDetails bundle podName).seen =
      { bundle.seen with podStatuses := withStatus reads bundle.podStatuses podName } := by
  have hstatus : (attempt "get_pod_status" "Pod" podName (reads.podStatus podName)
      (keepStatus podName) bundle).seen =
        { bundle.seen with podStatuses := withStatus reads bundle.podStatuses podName } := by
    unfold attempt withStatus
    cases reads.podStatus podName with
    | ok pod => rfl
    | error error => exact seen_recordError (by decide) error
  have howner (b : EvidenceBundle Log Node) : (attempt "resolve_pod_owner" "Pod" podName
      (reads.podOwner podName) (keepOwner podName) b).seen = b.seen :=
    seen_attempt (by decide) fun _ _ => rfl
  unfold collectPod
  simp only
  rw [seen_collectNode, seen_collectDeployment, howner]
  split
  · rw [seen_collectDetails, hstatus]
  · exact hstatus

theorem seen_collectPods (includeDetails : Bool) (names : List String)
    (bundle : EvidenceBundle Log Node) :
    (names.foldl (collectPod reads includeDetails) bundle).seen =
      { bundle.seen with podStatuses := names.foldl (withStatus reads) bundle.podStatuses } := by
  induction names generalizing bundle with
  | nil => rfl
  | cons name rest ih =>
    have hturn : (collectPod reads includeDetails bundle name).seen =
        { bundle.seen with podStatuses := withStatus reads bundle.podStatuses name } :=
      seen_collectPod includeDetails
    have hstatuses : (collectPod reads includeDetails bundle name).podStatuses =
        withStatus reads bundle.podStatuses name := congrArg Seen.podStatuses hturn
    rw [List.foldl_cons, ih, hturn, List.foldl_cons, hstatuses]

/-- The names that the pods of the Service are known by: none where a read failed. -/
def EvidenceReads.selected (reads : EvidenceReads Log Node) : List String :=
  match reads.service, reads.servicePods with
  | .ok _, .ok names => names
  | _, _ => []

/-- The slices that are known: none where a read failed. -/
def EvidenceReads.slices (reads : EvidenceReads Log Node) : List (List EndpointInfo) :=
  match reads.service, reads.endpointSlices with
  | .ok _, .ok slices => slices
  | _, _ => []

/-- The names of the pods of the namespace: none where the read failed. -/
def EvidenceReads.ofNamespace (reads : EvidenceReads Log Node) : List String :=
  match reads.namespacePods with
  | .ok names => names
  | .error _ => []

/-- The pods that are looked at. -/
def EvidenceReads.looked (reads : EvidenceReads Log Node) : List String :=
  if reads.selected = [] then reads.ofNamespace else reads.selected

/-- Before the loop over the pods. -/
theorem seen_collectService (reads : EvidenceReads Log Node) (namespaceName serviceName : String) :
    (collectService reads namespaceName serviceName).seen =
      ⟨reads.service.toOption, reads.selected, reads.ofNamespace, reads.slices, [],
        match reads.service with
        | .ok _ => []
        | .error e => [⟨"get_service", "Service", serviceName, e.message, e.statusCode⟩]⟩ := by
  unfold collectService collectSelected EvidenceReads.selected EvidenceReads.slices
    EvidenceReads.ofNamespace
  rcases reads.namespacePods with _ | _ <;> rcases reads.service with _ | _ <;>
    rcases reads.servicePods with _ | _ <;> rcases reads.endpointSlices with _ | _ <;>
    simp [attempt, recordError, EvidenceBundle.seen, Except.toOption]

/-- The statuses of the pods that were looked at, behind those that were there. -/
theorem lookup_withStatus (names : List String) (statuses : List (String × PodInfo))
    (name : String) : (names.foldl (withStatus reads) statuses).lookup name =
      if name ∈ names then ((reads.podStatus name).toOption).or (statuses.lookup name)
      else statuses.lookup name := by
  induction names generalizing statuses with
  | nil => rfl
  | cons first rest ih =>
    have hfirst : (withStatus reads statuses first).lookup name =
        if name = first then ((reads.podStatus name).toOption).or (statuses.lookup name)
        else statuses.lookup name := by
      unfold withStatus
      by_cases hname : name = first
      · rw [if_pos hname, ← hname]
        cases reads.podStatus name with
        | ok pod => exact Entries.lookup_set.trans (if_pos rfl)
        | error e => rfl
      · rw [if_neg hname]
        cases reads.podStatus first with
        | ok pod => exact Entries.lookup_set.trans (if_neg hname)
        | error e => rfl
    rw [List.foldl_cons, ih, hfirst]
    by_cases hname : name = first
    · rw [if_pos hname, if_pos (List.mem_cons.2 (Or.inl hname))]
      split
      · cases (reads.podStatus name).toOption <;> rfl
      · rfl
    · rw [if_neg hname]
      simp only [List.mem_cons, hname, false_or]

theorem mem_withStatus {names : List String} {e : String × PodInfo}
    {statuses : List (String × PodInfo)} (h : e ∈ names.foldl (withStatus reads) statuses) :
    e ∈ statuses ∨ (e.1 ∈ names ∧ reads.podStatus e.1 = .ok e.2) := by
  induction names generalizing statuses with
  | nil => exact Or.inl h
  | cons first rest ih =>
    rcases ih h with hmem | ⟨hmem, hread⟩
    · unfold withStatus at hmem
      cases hpod : reads.podStatus first with
      | error error =>
        rw [hpod] at hmem
        exact Or.inl hmem
      | ok pod =>
        rw [hpod] at hmem
        rcases Entries.mem_set hmem with rfl | hmem
        · exact Or.inr ⟨List.mem_cons_self, hpod⟩
        · exact Or.inl hmem
    · exact Or.inr ⟨List.mem_cons_of_mem _ hmem, hread⟩

/-- What evidence is made of, in terms of the reads. -/
structure Collected (reads : EvidenceReads Log Node) (bundle : EvidenceBundle Log Node) : Prop where
  service : bundle.service = reads.service.toOption
  servicePodNames : bundle.servicePodNames = reads.selected
  namespacePodNames : bundle.namespacePodNames = reads.ofNamespace
  endpointSlices : bundle.endpointSlices = reads.slices
  /-- A status that is there was read, of a pod that was looked at. -/
  statuses : ∀ e ∈ bundle.podStatuses, e.1 ∈ reads.looked ∧ reads.podStatus e.1 = .ok e.2
  /-- The status of a pod that was looked at is there if it was read. -/
  status : ∀ name ∈ reads.looked,
    bundle.podStatuses.lookup name = (reads.podStatus name).toOption
  /-- The only error of the Service is that of its read. -/
  notFound : (bundle.errors.any fun e => e.operation = "get_service" && e.statusCode = some 404) =
    true ↔ ∃ e, reads.service = .error e ∧ e.statusCode = some 404

/-- **What is collected is what was read**, and nothing where a read failed. -/
theorem collect_spec (reads : EvidenceReads Log Node) (namespaceName serviceName : String)
    (includeDetails : Bool) :
    Collected reads (collectServiceEvidence reads namespaceName serviceName includeDetails) := by
  have hservice := seen_collectService reads namespaceName serviceName
  have hlooked : podNames (collectService reads namespaceName serviceName) = reads.looked := by
    have hselected := congrArg Seen.servicePodNames hservice
    have hothers := congrArg Seen.namespacePodNames hservice
    simp only [EvidenceBundle.seen] at hselected hothers
    rw [podNames, hselected, hothers, EvidenceReads.looked]
  have hseen : (collectServiceEvidence reads namespaceName serviceName includeDetails).seen = _ :=
    seen_collectPods includeDetails _ _
  have hempty : (collectService reads namespaceName serviceName).podStatuses = [] :=
    congrArg Seen.podStatuses hservice
  rw [hservice, hlooked, hempty] at hseen
  have hstatuses := congrArg Seen.podStatuses hseen
  have herrors := congrArg Seen.serviceErrors hseen
  simp only [EvidenceBundle.seen] at hstatuses herrors
  refine ⟨congrArg Seen.service hseen, congrArg Seen.servicePodNames hseen,
    congrArg Seen.namespacePodNames hseen, congrArg Seen.endpointSlices hseen, ?_, ?_, ?_⟩
  · intro e he
    rw [hstatuses] at he
    rcases mem_withStatus he with he | he
    · cases he
    · exact he
  · intro name hname
    rw [hstatuses, lookup_withStatus, if_pos hname, List.lookup_nil, Option.or_none]
  · have hany (bundle : EvidenceBundle Log Node) : (bundle.errors.any fun e =>
        e.operation = "get_service" && e.statusCode = some 404) =
        ((bundle.errors.filter fun e => e.operation = "get_service").any fun e =>
          e.statusCode = some 404) := List.any_filter.symm
    rw [hany, herrors]
    cases reads.service with
    | ok service => simp
    | error e => simp

end Rules

end IncidentAgent
