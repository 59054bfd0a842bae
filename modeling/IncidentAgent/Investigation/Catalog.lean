import IncidentAgent.Investigation.Sampling
import IncidentAgent.Lib.Entries
import IncidentAgent.Policy.Remediation

/-!
# The catalog of an investigation

What the tools of an investigation may read is fixed before it begins. The catalog has a reference
for the Service and for the Deployment that the profile registers, and for what the evidence shows to
belong to them: the pods whose owners lead to that Deployment, their ReplicaSets, and the slices of
that Service (`catalog`). A reference is a digest, so a model can neither make one up nor put a name
into it, and a tool takes the references of its own kind only (`validateBoundary`).

`RefersTo` says what a reference stands for, `catalog_refersTo` that a catalog has no other ones.
-/

namespace IncidentAgent

/-! ### References -/

/-- A value of the catalog: the resource, and the identities that it was observed with. -/
structure BoundRef extends CatalogRef where
  serviceUid : Json
  deploymentUid : Json
  generation : Json
  profileDigest : Json
  replicaSet : Json
  replicaSetUid : Json
  deriving DecidableEq, Inhabited

/-- The value as it is digested. Only a pod has a container and an owner. -/
def BoundRef.dump (ref : BoundRef) : Json :=
  .obj ([("namespace", .str ref.namespaceName), ("service", .str ref.service),
    ("service_uid", ref.serviceUid), ("deployment", .str ref.deployment),
    ("deployment_uid", ref.deploymentUid), ("generation", ref.generation),
    ("profile_digest", ref.profileDigest), ("kind", .str ref.kind), ("name", .str ref.name),
    ("uid", .str ref.uid)] ++
    if ref.kind = "pod" then [("container", ref.container), ("replica_set", ref.replicaSet),
      ("replica_set_uid", ref.replicaSetUid)] else [])

/-- `base`: what all references of a catalog have in common. -/
def catalogBase (profile : ServiceProfile) (snapshot serviceUid : Json) : BoundRef where
  kind := ""
  name := ""
  uid := ""
  namespaceName := profile.namespaceName
  service := profile.serviceName
  deployment := profile.deploymentName
  container := .null
  serviceUid := serviceUid
  deploymentUid := snapshot.get "deployment_uid"
  generation := snapshot.get "deployment_generation"
  profileDigest := snapshot.get "digest"
  replicaSet := .null
  replicaSetUid := .null

/-- `add`: a resource without a UID has no reference. -/
def BoundRef.named (base : BoundRef) (kind name : String) (uid : Json) : List BoundRef :=
  if uid.truthy then [{ base with kind := kind, name := name, uid := uid.toText }] else []

/-- `ProfileUnavailable(reason)`. -/
def orUnavailable {α : Type} : Except String α → Except Raised α
  | .ok a => .ok a
  | .error reason => .error ⟨"ProfileUnavailable", none, some reason⟩

@[simp] theorem orUnavailable_eq_ok {α : Type} {x : Except String α} {a : α} :
    orUnavailable x = .ok a ↔ x = .ok a := by
  cases x <;> simp [orUnavailable]

/-- The UID of the one Service that was observed under the name of the profile. -/
def observedServiceUid (state : PolicyState) (profile : ServiceProfile) : Except Raised Json :=
  match ((rowsNamed state.evidence "Service" profile.serviceName).filter fun e =>
    e.data.hasText "namespace" profile.namespaceName && e.error.isNone).map fun e =>
      e.data.get "uid" with
  | [uid] => if uid.truthy then .ok uid else .error (valueError "SERVICE_UID_REQUIRED")
  | _ => .error (valueError "SERVICE_UID_REQUIRED")

/-- `owners.get(name, {})`: the last chain of owners that was observed for a pod. -/
def ownerOf (evidence : List EvidenceRow) (name : String) : Json :=
  (((rowsNamed evidence "OwnerChain" name).filter fun e => e.error.isNone).getLast?).elim (.obj [])
    fun e => e.data.get "owner_chain"

/-- A pod that was observed with all of its owners, up to the Deployment of the catalog. -/
def ownedBy (base : BoundRef) (data owner : Json) : Bool :=
  (data.get "uid").truthy && (owner.get "replica_set_uid").truthy &&
    (owner.get "replica_set_name").truthy && owner.get "pod_uid" = data.get "uid" &&
    owner.get "deployment_uid" = base.deploymentUid

/-- The references of an owned pod, one for each container, and the one of its ReplicaSet. -/
def podRefs (base : BoundRef) (row : EvidenceRow) (owner : Json) (containers : List Json) :
    List BoundRef :=
  (containers.flatMap fun container =>
    ({ base with
      container := container
      replicaSet := owner.get "replica_set_name"
      replicaSetUid := owner.get "replica_set_uid" } : BoundRef).named "pod" row.resourceName
        (row.data.get "uid")) ++
    base.named "replica_set" (owner.get "replica_set_name").toText (owner.get "replica_set_uid")

/-- `container["name"]`, of all containers. -/
def containerNames : List Json → Except Raised (List Json)
  | [] => pure []
  | container :: rest => do
    let name ← rowOr (container.get? "name") ⟨"KeyError", none, none⟩
    let names ← containerNames rest
    pure (name :: names)

/-- The references that an item of the evidence stands for. -/
def itemRefs (base : BoundRef) (evidence : List EvidenceRow) (row : EvidenceRow) :
    Except Raised (List BoundRef) :=
  if row.data.hasText "namespace" base.namespaceName = false ∨ row.error.isSome then .ok []
  else if row.resourceType = "PodStatus" then
    if ownedBy base row.data (ownerOf evidence row.resourceName) then
      (containerNames (row.data.get "containers").items).map
        (podRefs base row (ownerOf evidence row.resourceName))
    else .ok []
  else if row.resourceType = "EndpointSlice" ∧ row.data.get "service_uid" = base.serviceUid then
    (rowOr (row.data.get? "name") ⟨"KeyError", none, none⟩).map fun name =>
      base.named "endpoint_slice" name.toText (row.data.get "uid")
  else .ok []

/-- The references of all items. -/
def rowRefs (base : BoundRef) (evidence : List EvidenceRow) :
    List EvidenceRow → Except Raised (List BoundRef)
  | [] => pure []
  | row :: rest => do
    let refs ← itemRefs base evidence row
    let others ← rowRefs base evidence rest
    pure (refs ++ others)

/-- The references of a catalog, in the order in which they are added. -/
def catalogRefs (lib : Library) (state : PolicyState) : Except Raised (List BoundRef) := do
  let profile ← orUnavailable (matchedProfile lib state)
  raiseIf (profile.namespaceName ≠ safeNamespace) (valueError "TARGET_NAMESPACE_NOT_ALLOWED")
  validateRelationships state
  let serviceUid ← observedServiceUid state profile
  let base := catalogBase profile state.serviceProfile serviceUid
  let refs ← rowRefs base state.evidence state.evidence
  pure (base.named "service" profile.serviceName serviceUid ++
    base.named "deployment" profile.deploymentName base.deploymentUid ++ refs)

/-- A catalog: its values, by their references. -/
abbrev Catalog := List (String × BoundRef)

/-- The reference of a value. -/
def refKey (refDigest : String → Json → String) (runId : String) (ref : BoundRef) : String :=
  "ref-" ++ String.ofList ((refDigest runId ref.dump).toList.take 24)

/-- `catalog`. Equal values have one reference. -/
def catalog (lib : Library) (refDigest : String → Json → String) (state : PolicyState)
    (runId : String) : Except Raised Catalog :=
  (catalogRefs lib state).map fun refs =>
    refs.foldl (fun known ref => Entries.set (refKey refDigest runId ref) ref known) []

/-! ### The boundary -/

/-- `TOOL_NOT_ALLOWED` and `TOOL_RESOURCE_NOT_ALLOWED`. -/
def boundaryError (message : String) : Raised := ⟨"ToolBoundaryError", none, some message⟩

/-- The tools, by their names. -/
def toolNamed (name : String) : Option InvestigationTool :=
  [InvestigationTool.resourceSummary, .registeredBusiness, .podLogs, .podEvents, .endpointSlice,
    .deployment, .replicaSet].find? fun tool => tool.value = name

/-- The reference of a payload is one of the catalog, and of the kind of its tool. -/
def validateResource (refs : Catalog) (payload : Json) (resource : String) : Except Raised PUnit :=
  match refs.lookup resource with
  | none => .error (boundaryError "TOOL_RESOURCE_NOT_ALLOWED")
  | some ref =>
    match payload.get "tool" with
    | .str name => raiseIf ((toolNamed name).map InvestigationTool.kind ≠ some ref.kind)
        (boundaryError "TOOL_RESOURCE_NOT_ALLOWED")
    | _ => .ok ⟨⟩

/-- `validate_boundary`: authority is checked first, whatever else is wrong with a payload. -/
def validateBoundary (refs : Catalog) (payload : Json) : Except Raised PUnit :=
  if payload.isObject = false then .ok ⟨⟩
  else do
    match payload.get "tool" with
    | .str name => raiseIf (toolNamed name = none) (boundaryError "TOOL_NOT_ALLOWED")
    | _ => pure ⟨⟩
    match payload.get "resource_ref" with
    | .str resource => validateResource refs payload resource
    | _ => pure ⟨⟩

/-- `toolbox.refs`, for the requests that the toolbox validates. -/
def SamplingEnv.within (env : SamplingEnv) (refs : Catalog) (runId : String) : SamplingEnv :=
  { env with refs := refs.map fun r => (r.1, r.2.toCatalogRef), runId := runId }

/-! ### What a catalog refers to -/

/-- What a reference stands for, as the evidence shows it. -/
inductive RefersTo (evidence : List EvidenceRow) (base : BoundRef) : BoundRef → Prop
  | service {ref : BoundRef} (kind : ref.kind = "service") (name : ref.name = base.service)
      (uid : ref.uid = base.serviceUid.toText) : RefersTo evidence base ref
  | deployment {ref : BoundRef} (kind : ref.kind = "deployment") (name : ref.name = base.deployment)
      (uid : ref.uid = base.deploymentUid.toText) : RefersTo evidence base ref
  /-- A pod that was observed without an error, and whose owners lead to the Deployment. -/
  | pod {ref : BoundRef} {row : EvidenceRow} (kind : ref.kind = "pod") (row_mem : row ∈ evidence)
      (observed : row.resourceType = "PodStatus" ∧ row.resourceName = ref.name ∧ row.error = none)
      (uid : ref.uid = (row.data.get "uid").toText)
      (owned : ownedBy base row.data (ownerOf evidence ref.name) = true) :
      RefersTo evidence base ref
  /-- The ReplicaSet of such a pod. -/
  | replicaSet {ref : BoundRef} {row : EvidenceRow} (kind : ref.kind = "replica_set")
      (row_mem : row ∈ evidence) (observed : row.resourceType = "PodStatus" ∧ row.error = none)
      (owned : ownedBy base row.data (ownerOf evidence row.resourceName) = true)
      (name : ref.name = ((ownerOf evidence row.resourceName).get "replica_set_name").toText)
      (uid : ref.uid = ((ownerOf evidence row.resourceName).get "replica_set_uid").toText) :
      RefersTo evidence base ref
  /-- A slice that was observed without an error, of the Service. -/
  | endpointSlice {ref : BoundRef} {row : EvidenceRow} (kind : ref.kind = "endpoint_slice")
      (row_mem : row ∈ evidence) (observed : row.resourceType = "EndpointSlice" ∧ row.error = none)
      (service : row.data.get "service_uid" = base.serviceUid)
      (name : ref.name = (row.data.get "name").toText)
      (uid : ref.uid = (row.data.get "uid").toText) : RefersTo evidence base ref

/-- Two values of the same catalog. -/
structure BoundRef.SameScope (base ref : BoundRef) : Prop where
  namespaceName : ref.namespaceName = base.namespaceName
  service : ref.service = base.service ∧ ref.serviceUid = base.serviceUid
  deployment : ref.deployment = base.deployment ∧ ref.deploymentUid = base.deploymentUid
  observed : ref.generation = base.generation ∧ ref.profileDigest = base.profileDigest

/-- **What a reference of a catalog is bound to**: the registered Service and Deployment in the one
namespace that is allowed, as they were observed, and a resource that belongs to them. -/
structure Bound (lib : Library) (state : PolicyState) (ref : BoundRef) : Prop where
  bound : ∃ profile serviceUid, matchedProfile lib state = .ok profile ∧
    observedServiceUid state profile = .ok serviceUid ∧ profile.namespaceName = safeNamespace ∧
    (catalogBase profile state.serviceProfile serviceUid).SameScope ref ∧
    RefersTo state.evidence (catalogBase profile state.serviceProfile serviceUid) ref

section Refers

variable {lib : Library} {state : PolicyState} {evidence rows : List EvidenceRow}
  {base ref : BoundRef} {row : EvidenceRow} {refs : List BoundRef}

theorem mem_named {kind name : String} {uid : Json} (h : ref ∈ base.named kind name uid) :
    ref = { base with kind := kind, name := name, uid := uid.toText } := by
  unfold BoundRef.named at h
  split at h
  · exact List.mem_singleton.1 h
  · cases h

/-- The references of an owned pod are bound to it, or to its ReplicaSet. -/
theorem podRefs_refersTo (hrow : row ∈ evidence) (hkind : row.resourceType = "PodStatus")
    (herror : row.error = none)
    (howned : ownedBy base row.data (ownerOf evidence row.resourceName) = true)
    {containers : List Json}
    (h : ref ∈ podRefs base row (ownerOf evidence row.resourceName) containers) :
    base.SameScope ref ∧ RefersTo evidence base ref := by
  rcases List.mem_append.1 h with h | h
  · obtain ⟨container, -, h⟩ := List.mem_flatMap.1 h
    obtain rfl := mem_named h
    exact ⟨⟨rfl, ⟨rfl, rfl⟩, ⟨rfl, rfl⟩, rfl, rfl⟩,
      .pod rfl hrow ⟨hkind, rfl, herror⟩ rfl howned⟩
  · obtain rfl := mem_named h
    exact ⟨⟨rfl, ⟨rfl, rfl⟩, ⟨rfl, rfl⟩, rfl, rfl⟩,
      .replicaSet rfl hrow ⟨hkind, herror⟩ howned rfl rfl⟩

theorem itemRefs_refersTo (hrefs : itemRefs base evidence row = .ok refs) (hrow : row ∈ evidence)
    (h : ref ∈ refs) : base.SameScope ref ∧ RefersTo evidence base ref := by
  unfold itemRefs at hrefs
  split at hrefs
  · obtain rfl := Except.ok.inj hrefs
    cases h
  · rename_i hscope
    have herror : row.error = none := by simpa using (not_or.1 hscope).2
    split at hrefs
    · rename_i hkind
      split at hrefs
      · rename_i howned
        obtain ⟨containers, -, rfl⟩ := map_eq_ok.1 hrefs
        exact podRefs_refersTo hrow hkind herror howned h
      · obtain rfl := Except.ok.inj hrefs
        cases h
    · split at hrefs
      · rename_i hslice
        obtain ⟨name, hname, rfl⟩ := map_eq_ok.1 hrefs
        have hget : row.data.get "name" = name := by
          rw [Json.get, rowOr_eq_ok.1 hname]
          rfl
        obtain rfl := mem_named h
        exact ⟨⟨rfl, ⟨rfl, rfl⟩, ⟨rfl, rfl⟩, rfl, rfl⟩,
          .endpointSlice rfl hrow ⟨hslice.1, herror⟩ hslice.2 (by rw [hget]) rfl⟩
      · obtain rfl := Except.ok.inj hrefs
        cases h

theorem rowRefs_refersTo (hsub : rows ⊆ evidence) (hrefs : rowRefs base evidence rows = .ok refs)
    (h : ref ∈ refs) : base.SameScope ref ∧ RefersTo evidence base ref := by
  induction rows generalizing refs with
  | nil =>
    obtain rfl := pure_eq_ok.1 hrefs
    cases h
  | cons row rest ih =>
    simp only [rowRefs, bind_eq_ok, pure_eq_ok] at hrefs
    obtain ⟨own, hown, others, hothers, rfl⟩ := hrefs
    rcases List.mem_append.1 h with h | h
    · exact itemRefs_refersTo hown (hsub List.mem_cons_self) h
    · exact ih (fun r hr => hsub (List.mem_cons_of_mem _ hr)) hothers h

theorem catalogRefs_bound (hrefs : catalogRefs lib state = .ok refs) (h : ref ∈ refs) :
    Bound lib state ref := by
  simp only [catalogRefs, bind_eq_ok, raiseIf_eq_ok, orUnavailable_eq_ok, pure_eq_ok, not_not]
    at hrefs
  obtain ⟨profile, hprofile, -, hallowed, -, -, uid, huid, rows, hrows, rfl⟩ := hrefs
  refine ⟨profile, uid, hprofile, huid, hallowed, ?_⟩
  rcases List.mem_append.1 h with h | h
  · rcases List.mem_append.1 h with h | h
    · obtain rfl := mem_named h
      exact ⟨⟨rfl, ⟨rfl, rfl⟩, ⟨rfl, rfl⟩, rfl, rfl⟩, .service rfl rfl rfl⟩
    · obtain rfl := mem_named h
      exact ⟨⟨rfl, ⟨rfl, rfl⟩, ⟨rfl, rfl⟩, rfl, rfl⟩, .deployment rfl rfl rfl⟩
  · exact rowRefs_refersTo (List.Subset.refl _) hrows h

/-- What is bound is in the namespace that is allowed. -/
theorem Bound.allowed (hbound : Bound lib state ref) : ref.namespaceName = safeNamespace := by
  obtain ⟨profile, uid, -, -, hallowed, hscope, -⟩ := hbound.bound
  rw [hscope.namespaceName, ← hallowed]
  rfl

/-- A value of a dictionary that was filled one after another is one that was put in. -/
theorem mem_of_lookup_filled {key : BoundRef → String} {known : Catalog} {k : String}
    (h : (refs.foldl (fun known ref => Entries.set (key ref) ref known) known).lookup k = some ref) :
    known.lookup k = some ref ∨ ref ∈ refs := by
  induction refs generalizing known with
  | nil => exact Or.inl h
  | cons r rest ih =>
    rcases ih h with h | h
    · rw [Entries.lookup_set] at h
      split at h
      · obtain rfl := Option.some.inj h
        exact Or.inr List.mem_cons_self
      · exact Or.inl h
    · exact Or.inr (List.mem_cons_of_mem _ h)

/-- **A catalog refers only to what belongs to the registered Service and Deployment**, in the
namespace that is allowed. -/
theorem catalog_bound {refDigest : String → Json → String} {runId key : String} {known : Catalog}
    (hcatalog : catalog lib refDigest state runId = .ok known) (h : known.lookup key = some ref) :
    Bound lib state ref := by
  obtain ⟨refs, hrefs, rfl⟩ := map_eq_ok.1 hcatalog
  rcases mem_of_lookup_filled h with h | h
  · cases h
  · exact catalogRefs_bound hrefs h

end Refers

end IncidentAgent
