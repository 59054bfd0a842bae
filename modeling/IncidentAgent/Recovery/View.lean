import IncidentAgent.Policy.Remediation

/-!
# The view of a state after a repair

A rolling update leaves pods that are on their way out: not ready, and not served any more. The
view of a state leaves out the status of those pods of the registered Deployment for which every
endpoint says so (`excludedPods`); nothing else of the evidence is left out.
-/

namespace IncidentAgent

/-- The endpoints of the requested Service that point to a name. -/
def endpointRecords (request : Json) (evidence : List EvidenceRow) (name : String) : List Json :=
  ((evidence.filter fun e => e.resourceType = "EndpointSlice" && e.error.isNone &&
      (e.data.get "namespace").pyEq (request.get "namespace") &&
      (e.data.get "service_name").pyEq (request.get "service_name")).flatMap fun e =>
    (e.data.get "endpoints").items).filter fun endpoint =>
      name ≠ "" && endpoint.hasText "target_name" name

/-- Whether an endpoint is that of an address, and is on its way out. -/
def isLeaving (podIp : Json) (endpoint : Json) : Bool :=
  endpoint.hasText "target_kind" "Pod" &&
    ((endpoint.get "addresses").items.any fun address => address.pyEq podIp) &&
    endpoint.get "terminating" = .bool true && endpoint.get "ready" = .bool false &&
    endpoint.get "serving" = .bool false

/-- Whether a row is the status of a pod of the registered Deployment that is on its way out. -/
def isExcluded (profile : ServiceProfile) (request : Json) (evidence : List EvidenceRow)
    (row : EvidenceRow) : Bool :=
  let records := endpointRecords request evidence row.resourceName
  let podIp := row.data.get "pod_ip"
  row.resourceType = "PodStatus" && row.error.isNone &&
    (row.data.get "namespace").pyEq (request.get "namespace") &&
    row.resourceName ∈ ownedPods profile request (evidence.filter fun e => e.error.isNone) &&
    row.data.get "ready" = .bool false &&
    (evidence.filter fun other => other.resourceType = "PodStatus" &&
      other.resourceName = row.resourceName &&
      (other.data.get "namespace").pyEq (request.get "namespace")).length = 1 &&
    podIp.truthy && !records.isEmpty && records.all (isLeaving podIp)

/-- The names of the pods that are left out. -/
def excludedPods (profile : ServiceProfile) (request : Json) (evidence : List EvidenceRow) :
    List String :=
  (((evidence.filter (isExcluded profile request evidence)).map (·.resourceName)).eraseDups).mergeSort
    fun a b => a ≤ b

/-- Whether a row is left out with the pods of some names. -/
def leftOut (request : Json) (names : List String) (row : EvidenceRow) : Bool :=
  row.resourceType = "PodStatus" && row.resourceName ∈ names &&
    (row.data.get "namespace").pyEq (request.get "namespace") && row.error.isNone

/-- `recovery_resource_view`. -/
def recoveryResourceView (lib : Library) (state : PolicyState) : PolicyState × List String :=
  match matchedProfile lib state with
  | .error _ => (state, [])
  | .ok profile =>
    let names := excludedPods profile state.request state.evidence
    ({ state with evidence := state.evidence.filter fun row => !leftOut state.request names row },
      names)

/-- A view is of the request and the profile of the state. -/
theorem recoveryResourceView_frame (lib : Library) (state : PolicyState) :
    (recoveryResourceView lib state).1.request = state.request ∧
      (recoveryResourceView lib state).1.serviceProfile = state.serviceProfile := by
  unfold recoveryResourceView
  split <;> exact ⟨rfl, rfl⟩

/-- Only rows about pods are left out of a view. -/
theorem recoveryResourceView_rows (lib : Library) (state : PolicyState)
    (p : EvidenceRow → Bool) (h : ∀ row, p row = true → row.resourceType ≠ "PodStatus") :
    (recoveryResourceView lib state).1.evidence.filter p = state.evidence.filter p := by
  unfold recoveryResourceView
  split
  · rfl
  · simp only [List.filter_filter]
    refine List.filter_congr fun row _ => ?_
    cases hp : p row with
    | false => rfl
    | true =>
      have hkind := h row hp
      simp [leftOut, hkind]

end IncidentAgent
