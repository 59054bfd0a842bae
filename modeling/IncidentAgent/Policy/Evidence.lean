import IncidentAgent.Data.Records
import IncidentAgent.Lib.JsonDict

/-!
# Evidence

A row of evidence is an observation of one resource: a part of what a collection returned
(`normalizeEvidence`), or the result of a read-only tool (`adapt`). The rows of a state are
those of its baseline with the observations of the investigation put over them
(`activeEvidence`): an observation replaces the rows of its slot, and never a row that is newer
or that is about another object of the same name.

Nothing becomes evidence but through these functions: a row of the current view is a row of
the baseline or an observation (`mem_activeEvidence`).
-/

namespace IncidentAgent

/-- A row of `state["evidence"]`. -/
structure EvidenceRow where
  evidenceId : String
  source : String
  resourceType : String
  resourceName : String
  collectedAt : String
  data : Json
  error : Option String
  /-- `invalidates`: the resources whose rows this one replaces. -/
  invalidates : List (String × String)
  /-- `invalidates_log`: the pod, the container and the generation of a log. -/
  invalidatesLog : Option (String × String × Bool)
  deriving DecidableEq, Inhabited

/-- A state of the policy: what was asked, the snapshot of the profile, and the evidence. -/
structure PolicyState where
  /-- `state["request"]`. -/
  request : Json
  /-- `state["service_profile"]`. -/
  serviceProfile : Json
  evidence : List EvidenceRow
  deriving DecidableEq, Inhabited

/-- `[e for e in evidence if e["resource_type"] == kind]`. -/
def rowsOf (evidence : List EvidenceRow) (kind : String) : List EvidenceRow :=
  evidence.filter fun e => e.resourceType = kind

/-- The rows of a kind and a name. -/
def rowsNamed (evidence : List EvidenceRow) (kind name : String) : List EvidenceRow :=
  evidence.filter fun e => e.resourceType = kind && e.resourceName = name

/-! ### What a collection returns -/

/-- What a collection returns. -/
structure Bundle where
  namespaceName : String
  serviceName : String
  service : Json
  servicePodNames : List Json
  namespacePodNames : List Json
  endpointSlices : List Json
  podStatuses : List (String × Json)
  podEvents : List (String × Json)
  podLogs : List Json
  ownerChains : List (String × Json)
  deployments : List (String × Json)
  nodes : List (String × Json)
  serviceProfile : Json
  businessChecks : List Json
  deriving Inhabited

/-- An item of a collection, before it has an identifier. -/
structure CollectedItem where
  resourceType : String
  resourceName : String
  data : Json
  source : String

/-- `add_evidence` for a resource that the Kubernetes API returned. -/
def kubernetesItem (kind name : String) (data : Json) : CollectedItem :=
  ⟨kind, name, if data.isObject then data else .obj [("value", data)], "kubernetes_api"⟩

/-- `str(value)` of a name. -/
def shown : Json → String
  | .str s => s
  | .num n => toString n
  | .bool b => if b then "True" else "False"
  | _ => "None"

/-- `str(value or default)` of a name. -/
def nameOr (value : Json) (default : String) : String :=
  match value with
  | .str "" => default
  | .str s => s
  | _ => default

/-- The items of a bundle, in the order in which they are numbered. -/
def collectedItems (bundle : Bundle) : List CollectedItem :=
  let service := bundle.serviceName
  (if bundle.service.truthy then [kubernetesItem "Service" service bundle.service] else []) ++
  (if bundle.service.truthy || !bundle.servicePodNames.isEmpty ||
      !bundle.namespacePodNames.isEmpty then
    [kubernetesItem "PodSelection" service (.obj [("namespace", .str bundle.namespaceName),
      ("service_pod_names", .arr bundle.servicePodNames),
      ("namespace_pod_names", .arr bundle.namespacePodNames)])] else []) ++
  (bundle.endpointSlices.mapIdx fun i s =>
    kubernetesItem "EndpointSlice"
      ((s.get? "name").elim (service ++ "-endpointslice-" ++ toString (i + 1)) shown) s) ++
  (bundle.podStatuses.map fun p => kubernetesItem "PodStatus" p.1 p.2) ++
  (bundle.podEvents.map fun p => kubernetesItem "PodEvents" p.1 (.obj [("events", p.2)])) ++
  (bundle.podLogs.mapIdx fun i log =>
    kubernetesItem "PodLogs" (nameOr (log.get "pod_name")
      (nameOr (log.get "name") ("unknown-pod-" ++ toString (i + 1)))) log) ++
  (bundle.ownerChains.map fun p =>
    kubernetesItem "OwnerChain" p.1 (.obj [("owner_chain", p.2)])) ++
  (bundle.deployments.map fun p => kubernetesItem "Deployment" p.1 p.2) ++
  (bundle.nodes.map fun p => kubernetesItem "Node" p.1 p.2) ++
  (bundle.businessChecks.map fun check =>
    { kubernetesItem "BusinessCheck"
        (service ++ "/" ++ nameOr (check.get "check_id") "not-run") check with
      source := if (check.get "request_id").truthy then "cluster_http_probe"
        else "business_check_policy" })

/-- `f"{sequence:03d}"`. -/
def threeDigits (n : Nat) : String :=
  let digits := toString n
  String.ofList (List.replicate (3 - digits.length) '0') ++ digits

/-- `normalize_evidence`. -/
def normalizeEvidence (incidentId collectedAt : String) (bundle : Bundle) : List EvidenceRow :=
  let shortId := (incidentId.splitOn "-").headD ""
  (collectedItems bundle).mapIdx fun i item =>
    { evidenceId := "ev-" ++ shortId ++ "-" ++ threeDigits (i + 1)
      source := item.source
      resourceType := item.resourceType
      resourceName := item.resourceName
      collectedAt := collectedAt
      data := item.data
      error := none
      invalidates := []
      invalidatesLog := none }

/-- An item about a business check is one of the results that the bundle has. -/
theorem mem_collectedItems {bundle : Bundle} {item : CollectedItem}
    (h : item ∈ collectedItems bundle) (hkind : item.resourceType = "BusinessCheck") :
    ∃ check ∈ bundle.businessChecks,
      item.data = if check.isObject then check else .obj [("value", check)] := by
  simp only [collectedItems, List.mem_append, List.mem_map, List.mem_mapIdx] at h
  rcases h with ((((((((h | h) | h) | h) | h) | h) | h) | h) | h) | h
  · split at h
    · simp [List.mem_singleton.1 h, kubernetesItem] at hkind
    · cases h
  · split at h
    · simp [List.mem_singleton.1 h, kubernetesItem] at hkind
    · cases h
  · obtain ⟨_, _, rfl⟩ := h
    simp [kubernetesItem] at hkind
  · obtain ⟨_, _, rfl⟩ := h
    simp [kubernetesItem] at hkind
  · obtain ⟨_, _, rfl⟩ := h
    simp [kubernetesItem] at hkind
  · obtain ⟨_, _, rfl⟩ := h
    simp [kubernetesItem] at hkind
  · obtain ⟨_, _, rfl⟩ := h
    simp [kubernetesItem] at hkind
  · obtain ⟨_, _, rfl⟩ := h
    simp [kubernetesItem] at hkind
  · obtain ⟨_, _, rfl⟩ := h
    simp [kubernetesItem] at hkind
  · obtain ⟨check, hcheck, rfl⟩ := h
    exact ⟨check, hcheck, rfl⟩

/-! ### What a tool returns -/

/-- A read-only tool of the investigation. -/
inductive InvestigationTool
  | resourceSummary
  | deployment
  | podLogs
  | podEvents
  | replicaSet
  | endpointSlice
  | registeredBusiness
  deriving DecidableEq, Inhabited

/-- The name of a tool. -/
def InvestigationTool.value : InvestigationTool → String
  | .resourceSummary => "resource_summary"
  | .deployment => "deployment"
  | .podLogs => "pod_logs"
  | .podEvents => "pod_events"
  | .replicaSet => "replica_set"
  | .endpointSlice => "endpoint_slice"
  | .registeredBusiness => "registered_business"

/-- `result["coverage"]`. -/
inductive Coverage
  | unknown
  | partly
  | observed
  deriving DecidableEq, Inhabited

/-- What a call of a tool returns. -/
structure ToolResult where
  requestId : String
  collectedAt : String
  coverage : Coverage
  truncated : Bool
  errorCode : Option String
  text : String
  payload : Option Json
  payloadComplete : Bool
  deriving DecidableEq, Inhabited

/-- The resource that a reference of a catalog stands for. -/
structure ToolRef where
  name : String
  uid : String
  namespaceName : String
  service : String
  deployment : String
  container : Json
  deriving DecidableEq, Inhabited

/-- A request of a tool. -/
structure ToolRequest where
  tool : InvestigationTool
  resourceRef : String
  previous : Bool
  deriving DecidableEq, Inhabited

/-- The items that a result stands for: kind, name, data, error and source. -/
def toolItems (result : ToolResult) (request : ToolRequest) (ref : ToolRef) :
    List (CollectedItem × Option String) :=
  let add (kind name : String) (data : Json) : CollectedItem :=
    ⟨kind, name, data, "investigation_tool"⟩
  let other : List (CollectedItem × Option String) :=
    [(add "ToolObservation" (ref.name ++ "/" ++ request.tool.value)
      (.obj ([("tool", .str request.tool.value), ("namespace", .str ref.namespaceName),
        ("uid", .str ref.uid), ("text", .str result.text)] ++
        if result.payloadComplete then
          [("payload", result.payload.getD .null), ("payload_complete", .bool true)]
        else [])), none)]
  if result.coverage = .unknown then
    [(add "ToolObservation" ref.name
      (.obj [("tool", .str request.tool.value), ("text", .str result.text)]), result.errorCode)]
  else match request.tool, result.payload with
    | .podLogs, payload =>
      [(add "PodLogs" ref.name (.obj [("namespace", .str ref.namespaceName),
        ("pod_name", .str ref.name), ("uid", .str ref.uid), ("container_name", ref.container),
        ("previous", .bool request.previous),
        ("content", match payload with
          | some (.str text) => .str text
          | _ => .str result.text)]), none)]
    | .resourceSummary, some (.obj members) =>
      if result.coverage = .observed then
        [(add "Service" ref.service ((Json.obj members).get "service"), none),
          (add "Deployment" ref.deployment ((Json.obj members).get "deployment"), none)]
      else other
    | .deployment, some (.obj members) =>
      if result.coverage = .observed then [(add "Deployment" ref.deployment (.obj members), none)]
      else other
    | .registeredBusiness, some (.arr checks) =>
      checks.map fun check =>
        ({ add "BusinessCheck" (ref.service ++ "/" ++ shown (check.get "check_id")) check
          with source := "cluster_http_probe" }, none)
    | _, _ => other

/-- What a result of a tool invalidates. -/
def toolInvalidates (request : ToolRequest) (ref : ToolRef) : List (String × String) :=
  match request.tool with
  | .registeredBusiness => [("BusinessCheck", ref.service)]
  | .resourceSummary => [("Service", ref.service), ("Deployment", ref.deployment)]
  | .deployment => [("Deployment", ref.deployment)]
  | _ => []

/-- The text of a container in an invalidated log. -/
def ToolRef.containerText (ref : ToolRef) : String :=
  match ref.container with
  | .str text => text
  | _ => ""

/-- The items of a result, or the mark that it has none. -/
def observedItems (result : ToolResult) (request : ToolRequest) (ref : ToolRef) :
    List (CollectedItem × Option String) :=
  if (toolItems result request ref).isEmpty then
    [(⟨"ToolObservation", ref.name, .obj [("tool", .str request.tool.value)],
      "investigation_tool"⟩, some "EMPTY_OBSERVATION")]
  else toolItems result request ref

/-- `adapt`, where `evidenceDigest` is the digest of a request and a number. -/
def adapt (evidenceDigest : String → Nat → String) (result : ToolResult) (request : ToolRequest)
    (ref : ToolRef) : List EvidenceRow :=
  (observedItems result request ref).mapIdx fun i item =>
    { evidenceId := "ev-" ++ evidenceDigest result.requestId i ++ "-001"
      source := item.1.source
      resourceType := item.1.resourceType
      resourceName := item.1.resourceName
      collectedAt := result.collectedAt
      data := item.1.data
      error := item.2
      invalidates := if i = 0 then toolInvalidates request ref else []
      invalidatesLog := if i = 0 ∧ request.tool = .podLogs then
        some (ref.name, ref.containerText, request.previous) else none }

/-- An item of a tool about a business check is one of the payload of that tool. -/
theorem mem_toolItems {result : ToolResult} {request : ToolRequest} {ref : ToolRef}
    {item : CollectedItem × Option String} (h : item ∈ toolItems result request ref)
    (hkind : item.1.resourceType = "BusinessCheck") :
    item.2 = none ∧ request.tool = .registeredBusiness ∧ result.coverage ≠ .unknown ∧
      ∃ checks, result.payload = some (.arr checks) ∧ item.1.data ∈ checks := by
  unfold toolItems at h
  simp only at h
  split at h
  · rw [List.mem_singleton.1 h] at hkind
    simp at hkind
  · rename_i hcoverage
    split at h
    · rw [List.mem_singleton.1 h] at hkind
      simp at hkind
    · split at h
      · rcases List.mem_cons.1 h with rfl | h
        · simp at hkind
        · rw [List.mem_singleton.1 h] at hkind
          simp at hkind
      · rw [List.mem_singleton.1 h] at hkind
        simp at hkind
    · split at h
      · rw [List.mem_singleton.1 h] at hkind
        simp at hkind
      · rw [List.mem_singleton.1 h] at hkind
        simp at hkind
    · rename_i checks htool hpayload
      obtain ⟨check, hcheck, rfl⟩ := List.mem_map.1 h
      exact ⟨rfl, htool, hcoverage, checks, hpayload, hcheck⟩
    · rw [List.mem_singleton.1 h] at hkind
      simp at hkind

/-- A row of a tool about a business check has no error, and is an item of the payload of that
tool. -/
theorem mem_adapt {evidenceDigest : String → Nat → String} {result : ToolResult}
    {request : ToolRequest} {ref : ToolRef} {row : EvidenceRow}
    (h : row ∈ adapt evidenceDigest result request ref)
    (hkind : row.resourceType = "BusinessCheck") :
    row.error = none ∧ request.tool = .registeredBusiness ∧ result.coverage ≠ .unknown ∧
      ∃ checks, result.payload = some (.arr checks) ∧ row.data ∈ checks := by
  obtain ⟨i, hi, rfl⟩ := List.mem_mapIdx.1 h
  have hmem := List.getElem_mem hi
  obtain ⟨item, hitem⟩ : ∃ item, (observedItems result request ref)[i] = item := ⟨_, rfl⟩
  rw [hitem] at hmem
  simp only [hitem] at hkind ⊢
  unfold observedItems at hmem
  split at hmem
  · rw [List.mem_singleton.1 hmem] at hkind
    simp at hkind
  · exact mem_toolItems hmem hkind

/-! ### The current view -/

/-- `a and b and a != b`, of the members of two rows. -/
def conflicts (old new : Json) (key : String) : Bool :=
  (old.get key).truthy && (new.get key).truthy && old.get key ≠ new.get key

/-- `slot(value) == slot(item)`. -/
def sameSlot (value item : EvidenceRow) : Bool :=
  value.resourceType = item.resourceType && value.resourceName = item.resourceName &&
    value.data.get "container_name" = item.data.get "container_name" &&
    (value.data.get "previous").pyEq (item.data.get "previous")

/-- Whether an observation invalidates a row by the kind and the name of its resource. -/
def invalidatedBy (value item : EvidenceRow) : Bool :=
  item.invalidates.any fun target => value.resourceType = target.1 &&
    (value.resourceName = target.2 || (target.1 = "BusinessCheck" &&
      (target.2 ++ "/").toList.isPrefixOf value.resourceName.toList))

/-- Whether an observation of a log replaces a row. -/
def logReplacedBy (value item : EvidenceRow) : Bool :=
  item.invalidatesLog.any fun log => value.resourceType = "PodLogs" &&
    value.resourceName = log.1 &&
    (value.data.get "container_name" = .null ||
      value.data.get "container_name" = .str log.2.1) &&
    ((value.data.get? "previous").getD (.bool false)).pyEq (.bool log.2.2)

/-- `matches(value)` of `active_evidence`. -/
def replaces (item value : EvidenceRow) : Bool :=
  if conflicts value.data item.data "namespace" then false
  -- An object that was created again is a conflict, not a newer version.
  else if value.resourceType = item.resourceType && conflicts value.data item.data "uid" then false
  else sameSlot value item || invalidatedBy value item || logReplacedBy value item

/-- Whether one of the rows that an observation replaces is newer than it. -/
def outOfOrder (instant : String → Option Int) (current : List EvidenceRow) (item : EvidenceRow) :
    Bool :=
  (instant item.collectedAt).any fun sampled =>
    (current.filter (replaces item)).any fun value =>
      (instant value.collectedAt).any fun t => sampled < t

/-- An observation put over the current view. -/
def observeRow (instant : String → Option Int) (current : List EvidenceRow) (item : EvidenceRow) :
    List EvidenceRow :=
  if outOfOrder instant current item then current
  else current.filter (fun value => !replaces item value) ++ [item]

/-- `active_evidence`. -/
def activeEvidence (instant : String → Option Int) (baseline observations : List EvidenceRow) :
    List EvidenceRow :=
  observations.foldl (observeRow instant) baseline

/-- `current_state`. -/
def currentState (instant : String → Option Int) (baseline : PolicyState)
    (observations : List EvidenceRow) : PolicyState :=
  { baseline with evidence := activeEvidence instant baseline.evidence observations }

theorem mem_observeRow {instant : String → Option Int} {current : List EvidenceRow}
    {item e : EvidenceRow} (h : e ∈ observeRow instant current item) :
    e ∈ current ∨ e = item := by
  unfold observeRow at h
  split at h
  · exact .inl h
  · rcases List.mem_append.1 h with hold | hnew
    · exact .inl (List.mem_filter.1 hold).1
    · exact .inr (List.mem_singleton.1 hnew)

/-- **Each row of the current view is a row of the baseline or an observation.** -/
theorem mem_activeEvidence {instant : String → Option Int} {baseline observations : List EvidenceRow}
    {e : EvidenceRow} (h : e ∈ activeEvidence instant baseline observations) :
    e ∈ baseline ∨ e ∈ observations := by
  induction observations generalizing baseline with
  | nil => exact .inl h
  | cons item rest ih =>
    rcases ih h with hold | hnew
    · rcases mem_observeRow hold with hold | rfl
      · exact .inl hold
      · exact .inr List.mem_cons_self
    · exact .inr (List.mem_cons_of_mem _ hnew)

end IncidentAgent
