import IncidentAgent.Policy.Diagnosis

/-!
# The identity of a target

A plan names its target; the server binds it to the object that was observed under that name.
The binding is refused when the evidence does not show one object (`observedTargetUid`), and
when the links between the resources in evidence contradict each other
(`validateRelationships`): two objects of one name, a pod whose owner has changed, an endpoint
slice of another Service or of another pod.
-/

namespace IncidentAgent

/-- The text of the kind of a target. -/
def ResourceKind.value : ResourceKind → String
  | .service => "Service"
  | .deployment => "Deployment"
  | .pod => "Pod"

/-! ### The target of a plan -/

/-- The rows that show the target of a plan. -/
def targetRows (state : PolicyState) (plan : RemediationPlan) : List EvidenceRow :=
  (rowsNamed state.evidence plan.parameters.resourceKind.value
    plan.parameters.resourceName).filter fun e =>
      e.data.hasText "namespace" plan.parameters.namespaceName && e.error.isNone

/-- `observed_target_uid`. -/
def observedTargetUid (state : PolicyState) (plan : RemediationPlan) : Except Raised String :=
  match (targetRows state plan).map fun e => e.data.get "uid" with
  | [Json.str uid] =>
    if 1 ≤ uid.length ∧ uid.length ≤ 128 then .ok uid
    else .error (valueError "TARGET_IDENTITY_MISSING_OR_AMBIGUOUS")
  | _ => .error (valueError "TARGET_IDENTITY_MISSING_OR_AMBIGUOUS")

/-! ### The links between resources -/

/-- The data of the resources in evidence, by kind and name, the last ones first. -/
abbrev Resources := List ((String × String) × Json)

/-- `resources.get((kind, name), {})`. -/
def Resources.at (resources : Resources) (kind : String) (name : Json) : Json :=
  match name with
  | .str text => (List.lookup (kind, text) resources).getD (.obj [])
  | _ => .obj []

/-- A resource put beside the others, unless it is another object of a name that is taken. -/
def identify (resources : Resources) (row : EvidenceRow) : Except Raised Resources := do
  let before := List.lookup (row.resourceType, row.resourceName) resources
  raiseIf (∃ data ∈ before, ¬((data.get "uid").pyEq (row.data.get "uid") ∧
      (data.get "namespace").pyEq (row.data.get "namespace")))
    (valueError "RESOURCE_IDENTITY_AMBIGUOUS")
  pure (((row.resourceType, row.resourceName), row.data) :: resources)

/-- `saved and current and saved != current`. -/
def changed (saved current : Json) : Bool :=
  saved.truthy && current.truthy && !saved.pyEq current

/-- The links from a pod to its owner. -/
def checkOwner (resources : Resources) (row : EvidenceRow) : Except Raised PUnit := do
  let chain := row.data.get "owner_chain"
  let pod := resources.at "PodStatus" (.str row.resourceName)
  let deployment := resources.at "Deployment" (chain.get "deployment_name")
  raiseIf ((pod.get "uid").truthy ∧ (chain.get "deployment_name").truthy ∧
      (¬(chain.get "pod_uid").truthy ∨ ¬(chain.get "deployment_uid").truthy))
    (valueError "OWNER_IDENTITY_INCOMPLETE")
  raiseIf (changed (chain.get "pod_uid") (pod.get "uid") ∨
      changed (chain.get "deployment_uid") (deployment.get "uid"))
    (valueError "OWNER_IDENTITY_CHANGED_DURING_COLLECTION")

/-- The link from an endpoint of a slice to its pod. -/
def checkEndpoint (resources : Resources) (slice endpoint : Json) : Except Raised PUnit := do
  let pod := resources.at "PodStatus" (endpoint.get "target_name")
  raiseIf ((slice.get "uid").truthy ∧ endpoint.hasText "target_kind" "Pod" ∧
      ¬(endpoint.get "target_uid").truthy)
    (valueError "ENDPOINT_POD_IDENTITY_MISSING")
  raiseIf (endpoint.hasText "target_kind" "Pod" ∧ pod.truthy ∧
      (changed (endpoint.get "target_uid") (pod.get "uid") ∨
        (endpoint.get "target_namespace").truthy ∧
          ¬(endpoint.get "target_namespace").pyEq (pod.get "namespace")))
    (valueError "ENDPOINT_POD_IDENTITY_MISMATCH")

/-- The links from a slice to its Service and its pods. -/
def checkSlice (resources : Resources) (row : EvidenceRow) : Except Raised PUnit := do
  let service := resources.at "Service" (row.data.get "service_name")
  raiseIf ((row.data.get "uid").truthy ∧ ¬(row.data.get "service_uid").truthy)
    (valueError "ENDPOINT_SERVICE_IDENTITY_MISSING")
  raiseIf (changed (row.data.get "service_uid") (service.get "uid"))
    (valueError "ENDPOINT_SERVICE_IDENTITY_MISMATCH")
  (row.data.get "endpoints").items.forM fun endpoint => checkEndpoint resources row.data endpoint

/-- The links of a row. -/
def checkLinks (resources : Resources) (row : EvidenceRow) : Except Raised PUnit :=
  if row.resourceType = "OwnerChain" then checkOwner resources row
  else if row.resourceType = "EndpointSlice" then checkSlice resources row
  else .ok ⟨⟩

/-- `validate_relationships`. -/
def validateRelationships (state : PolicyState) : Except Raised PUnit := do
  let resources ← state.evidence.foldlM identify []
  state.evidence.forM fun row => checkLinks resources row

/-- `bind_target`. -/
def bindTarget (plan : RemediationPlan) (state : PolicyState) : Except Raised RemediationPlan := do
  let uid ← observedTargetUid state plan
  raiseIf (plan.targetUid ≠ none ∧ plan.targetUid ≠ some uid)
    (valueError "PLAN_TARGET_IDENTITY_MISMATCH")
  validateRelationships state
  pure { plan with targetUid := some uid }

end IncidentAgent
