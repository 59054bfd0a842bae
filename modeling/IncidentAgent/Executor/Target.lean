import IncidentAgent.Lib.PatchFrame
import IncidentAgent.Policy.WriteGate
import IncidentAgent.Tools.SelectorPatch

/-!
# The target of a write and its patch

The executor reads the target of a plan, takes a snapshot of what the plan may change, and builds a
JSON Patch that tests for all that the snapshot has before it replaces anything (`buildPatch`). The
patch is stored, and it may be sent later and by another lease than the one that has built it. It is
safe wherever it is applied: if it goes through, the object had the identity, the version and the
configuration of the snapshot, and nothing of it has changed but the selector, or the path and the
port of the readiness probe of one container (`guardedWrite_of_applyPatch`).
-/

namespace IncidentAgent

/-- What the executor takes from libraries besides its authorization: the complaint of a snapshot
about a name that is too long. -/
structure LedgerLibrary extends ExecutionLibrary where
  tooLong : String → String

/-! ### Snapshots -/

/-- `getattr(resource.metadata, "generation", None)`. -/
def generationOf (resource : Json) : Option Int :=
  match (resource.get "metadata").get "generation" with
  | .num n => some n
  | _ => none

/-- `_deployment_containers`. -/
def deploymentContainers (deployment : Json) : List Json :=
  ((((deployment.get "spec").get "template").get "spec").get "containers").items

/-- Whether a container has a name. -/
def containerNamed (name : Option String) (container : Json) : Bool :=
  container.get "name" == textOr name

/-- `_readiness_probe_values`. -/
def readinessProbeValues (container : Json) : Option String × Option Port :=
  let http := (container.get "readinessProbe").get "httpGet"
  (match http.get "path" with
    | .str path => some path
    | _ => none,
   match http.get "port" with
    | .str name => some (.name name)
    | .num n => some (.number n)
    | _ => none)

/-- `_deployment_snapshot`. -/
def deploymentSnapshot (tooLong : String → String) (namespaceName deploymentName : String)
    (containerName : Option String) (deployment : Json) : Except String ResourceSnapshot := do
  let container ← rowOr ((deploymentContainers deployment).find? (containerNamed containerName))
    "container does not exist in Deployment"
  let version ← resourceVersion deployment
  raiseIf (253 < deploymentName.length) (tooLong deploymentName)
  pure {
    uid := serviceUid deployment
    generation := generationOf deployment
    namespaceName := namespaceName
    resourceKind := .deployment
    resourceName := deploymentName
    resourceVersion := version
    configuration := .probe containerName (readinessProbeValues container).1
      (readinessProbeValues container).2 }

/-- The snapshot of a resource that was read, or that the answer to a patch contains, with its
identity and its generation. -/
def targetSnapshot (lib : LedgerLibrary) (p : RemediationParameters) (resource : Json) :
    Except String ResourceSnapshot := do
  let snapshot ← if p.resourceKind = .service then
      serviceSnapshot lib.tooLong p.namespaceName p.resourceName resource
    else deploymentSnapshot lib.tooLong p.namespaceName p.resourceName p.containerName resource
  pure { snapshot with uid := serviceUid resource, generation := generationOf resource }

/-- `approved_uid`. -/
def approvedUid (state : Json) (p : RemediationParameters) : Json :=
  if p.resourceKind = .deployment then (state.get "service_profile").get "deployment_uid"
  else
    match (state.get "evidence").items.filter fun e =>
        e.hasText "resource_type" "Service" && e.hasText "resource_name" p.resourceName &&
          (e.get "data").hasText "namespace" p.namespaceName with
    | [item] => (item.get "data").get "uid"
    | _ => .null

/-! ### The patch -/

open Json (Token)

/-- `/metadata/uid`. -/
def uidPath : List Token := [.member "metadata", .member "uid"]

/-- `/metadata/resourceVersion`. -/
def versionPath : List Token := [.member "metadata", .member "resourceVersion"]

/-- `/spec/selector`. -/
def selectorPath : List Token := [.member "spec", .member "selector"]

/-- `/spec/template/spec/containers/{index}`. -/
def containerPath (index : Nat) : List Token :=
  [.member "spec", .member "template", .member "spec", .member "containers", .item index]

/-- `/readinessProbe/httpGet/{key}` of a container. -/
def probePath (index : Nat) (key : String) : List Token :=
  containerPath index ++ [.member "readinessProbe", .member "httpGet", .member key]

/-- The tests that each patch begins with. -/
def identityTests (before : ResourceSnapshot) : List PatchOp :=
  [.test uidPath (textOr before.uid), .test versionPath (.str before.resourceVersion)]

/-- The operations on a Service. -/
def selectorOps (prior desired : Labels) : List PatchOp :=
  [.test selectorPath (textMap prior), .replace selectorPath (textMap desired)]

/-- The operations on a container: its name, and one value of its probe after the other. -/
def probeOps (index : Nat) (name path path' : Option String) (port port' : Option Port) :
    List PatchOp :=
  [.test (containerPath index ++ [.member "name"]) (textOr name),
    .test (probePath index "path") (textOr path),
    .replace (probePath index "path") (textOr path'),
    .test (probePath index "port") (portOr port),
    .replace (probePath index "port") (portOr port')]

/-- `build_patch`. -/
def buildPatch (plan : RemediationPlan) (resource : Json) (before : ResourceSnapshot) :
    Except String (List PatchOp) :=
  if plan.action = .patchServiceSelector then
    match before.configuration with
    | .selector labels => .ok (identityTests before ++
        selectorOps labels (Labels.ofPairs plan.parameters.proposedSelector))
    | .probe _ _ _ => .error "KeyError"
  else
    match (deploymentContainers resource).findIdx? (containerNamed plan.parameters.containerName),
        before.configuration with
    | none, _ => .error "StopIteration"
    | some _, .selector _ => .error "KeyError"
    | some index, .probe _ path port => .ok (identityTests before ++
        probeOps index plan.parameters.containerName path plan.parameters.proposedProbePath port
          plan.parameters.proposedProbePort)

/-! ### What a patch does that goes through -/

/-- A document is another one but at some paths. -/
def Json.SameBut (paths : List (List Token)) (doc doc' : Json) : Prop :=
  ∀ q, (∀ p ∈ paths, Json.Apart p q) → doc'.at? q = doc.at? q

/-- The selector of a Service was replaced. -/
structure SelectorWrite (prior desired : Labels) (doc doc' : Json) : Prop where
  prior : ∃ selector, doc.at? selectorPath = some selector ∧ selector.same (textMap prior) = true
  desired : serviceSelector doc' = desired
  kept : Json.SameBut [selectorPath] doc doc'

/-- The path and the port of the readiness probe of a container were replaced. -/
structure ProbeWrite (index : Nat) (name path path' : Option String) (port port' : Option Port)
    (doc doc' : Json) : Prop where
  name : doc.at? (containerPath index ++ [.member "name"]) = some (textOr name)
  prior : doc.at? (probePath index "path") = some (textOr path) ∧
    doc.at? (probePath index "port") = some (portOr port)
  desired : doc'.at? (probePath index "path") = some (textOr path') ∧
    doc'.at? (probePath index "port") = some (portOr port')
  kept : Json.SameBut [probePath index "path", probePath index "port"] doc doc'

/-- **A guarded write** of a plan takes an object that is as it was seen to one that is as planned,
and changes nothing else. -/
structure GuardedWrite (plan : RemediationPlan) (before : ResourceSnapshot) (doc doc' : Json) :
    Prop where
  uid : doc.at? uidPath = some (textOr before.uid)
  version : doc.at? versionPath = some (.str before.resourceVersion)
  written : (∃ prior, before.configuration = .selector prior ∧
      plan.action = .patchServiceSelector ∧
      SelectorWrite prior (Labels.ofPairs plan.parameters.proposedSelector) doc doc') ∨
    ∃ index name path port, before.configuration = .probe name path port ∧
      plan.action ≠ .patchServiceSelector ∧
      ProbeWrite index plan.parameters.containerName path plan.parameters.proposedProbePath port
        plan.parameters.proposedProbePort doc doc'

section Writes

variable {doc doc' : Json} {before : ResourceSnapshot} {ops : List PatchOp}

theorem same_textOr {w : Json} {text : Option String} (h : w.same (textOr text) = true) :
    w = textOr text := by
  cases text with
  | none => exact Json.same_null h
  | some s => exact Json.same_str h

theorem same_portOr {w : Json} {port : Option Port} (h : w.same (portOr port) = true) :
    w = portOr port := by
  rcases port with _ | s | n
  · exact Json.same_null h
  · exact Json.same_str h
  · exact Json.same_num h

/-- A test for a text has found it. -/
theorem applyPatch_testText {path : List Token} {text : Option String}
    (h : applyPatch doc (.test path (textOr text) :: ops) = some doc') :
    doc.at? path = some (textOr text) ∧ applyPatch doc ops = some doc' := by
  obtain ⟨⟨w, hw, hsame⟩, hrest⟩ := applyPatch_test h
  exact ⟨hw.trans (congrArg some (same_textOr hsame)), hrest⟩

theorem applyPatch_testPort {path : List Token} {port : Option Port}
    (h : applyPatch doc (.test path (portOr port) :: ops) = some doc') :
    doc.at? path = some (portOr port) ∧ applyPatch doc ops = some doc' := by
  obtain ⟨⟨w, hw, hsame⟩, hrest⟩ := applyPatch_test h
  exact ⟨hw.trans (congrArg some (same_portOr hsame)), hrest⟩

/-- **The tests of the identity** have found it. -/
theorem applyPatch_identity (h : applyPatch doc (identityTests before ++ ops) = some doc') :
    doc.at? uidPath = some (textOr before.uid) ∧
      doc.at? versionPath = some (.str before.resourceVersion) ∧
      applyPatch doc ops = some doc' := by
  obtain ⟨huid, h⟩ := applyPatch_testText h
  obtain ⟨hversion, h⟩ : doc.at? versionPath = some (textOr (some before.resourceVersion)) ∧ _ :=
    applyPatch_testText h
  exact ⟨huid, hversion, h⟩

/-- The labels of a document that was written from labels. -/
theorem labelsOf_textMap (labels : Labels) : labelsOf (textMap labels).members = labels := by
  refine SortedMap.ext_lookup fun k => ?_
  rw [lookup_labelsOf]
  show ((labels.entries.map fun e => (e.1, Json.str e.2)).lookup k).map shown = _
  rw [Entries.lookup_map Json.str, Option.map_map]
  cases labels.entries.lookup k <;> rfl

/-- A member two levels below. -/
theorem get_of_at? {a b : String} {w : Json}
    (h : doc.at? [.member a, .member b] = some w) : (doc.get a).get b = w := by
  obtain ⟨c, hc, h⟩ := Option.bind_eq_some_iff.1 h
  obtain ⟨d, hd, h⟩ := Option.bind_eq_some_iff.1 h
  obtain rfl := Option.some.inj h
  have hget : ∀ {v x : Json} {key : String}, v.child? (.member key) = some x → v.get key = x := by
    intro v x key hx
    cases v with
    | obj members =>
      have hlookup : (Json.obj members).get? key = some x := hx
      rw [Json.get, hlookup]
      rfl
    | _ => cases hx
  rw [hget hc, hget hd]

theorem selectorWrite_of_applyPatch {prior desired : Labels}
    (h : applyPatch doc (selectorOps prior desired) = some doc') :
    SelectorWrite prior desired doc doc' := by
  obtain ⟨hprior, h⟩ := applyPatch_test h
  obtain ⟨next, hreplace, h⟩ := applyPatch_replace h
  obtain rfl := Option.some.inj h
  refine ⟨hprior, ?_, fun q hq => ?_⟩
  · have hat := get_of_at? (Json.at?_replaceAt?_self hreplace)
    rw [serviceSelector, hat, labelsOf_textMap]
  · exact Json.at?_replaceAt?_apart (hq _ (List.mem_singleton.2 rfl)) hreplace

/-- The two values of a probe are at different places. -/
theorem apart_probe (index : Nat) :
    Json.Apart (probePath index "path") (probePath index "port") := by
  refine Json.apart_append (r := containerPath index) ?_
  refine Or.inr ⟨rfl, Or.inr ⟨rfl, Or.inl ?_⟩⟩
  exact (by decide : "path" ≠ "port")

theorem apart_symm {p q : List Token} (h : Json.Apart p q) : Json.Apart q p := by
  induction p generalizing q with
  | nil => exact h.elim
  | cons t p ih =>
    cases q with
    | nil => exact h.elim
    | cons u q =>
      rcases h with hne | ⟨rfl, h⟩
      · exact Or.inl hne.symm
      · exact Or.inr ⟨rfl, ih h⟩

theorem probeWrite_of_applyPatch {index : Nat} {name path path' : Option String}
    {port port' : Option Port}
    (h : applyPatch doc (probeOps index name path path' port port') = some doc') :
    ProbeWrite index name path path' port port' doc doc' := by
  obtain ⟨hname, h⟩ := applyPatch_testText h
  obtain ⟨hpath, h⟩ := applyPatch_testText h
  obtain ⟨mid, hmid, h⟩ := applyPatch_replace h
  obtain ⟨hport, h⟩ := applyPatch_testPort h
  obtain ⟨last, hlast, h⟩ := applyPatch_replace h
  obtain rfl := Option.some.inj h
  have hapart := apart_probe index
  refine ⟨hname, ⟨hpath, ?_⟩, ⟨?_, Json.at?_replaceAt?_self hlast⟩, fun q hq => ?_⟩
  · rw [← Json.at?_replaceAt?_apart hapart hmid]
    exact hport
  · rw [Json.at?_replaceAt?_apart (apart_symm hapart) hlast]
    exact Json.at?_replaceAt?_self hmid
  · have hfirst := hq _ List.mem_cons_self
    have hsecond := hq _ (List.mem_cons_of_mem _ List.mem_cons_self)
    rw [Json.at?_replaceAt?_apart hsecond hlast, Json.at?_replaceAt?_apart hfirst hmid]

/-- **Wherever a built patch is applied**, it is a guarded write of its plan, or refused: the
resource from which it was built may have changed since. -/
theorem guardedWrite_of_applyPatch {plan : RemediationPlan} {resource : Json}
    (hbuild : buildPatch plan resource before = .ok ops)
    (happly : applyPatch doc ops = some doc') : GuardedWrite plan before doc doc' := by
  unfold buildPatch at hbuild
  split at hbuild
  · rename_i haction
    split at hbuild
    · rename_i labels hlabels
      obtain rfl := Except.ok.inj hbuild
      obtain ⟨huid, hversion, hrest⟩ := applyPatch_identity happly
      exact ⟨huid, hversion, Or.inl ⟨labels, hlabels, haction, selectorWrite_of_applyPatch hrest⟩⟩
    · cases hbuild
  · rename_i haction
    split at hbuild
    · cases hbuild
    · cases hbuild
    · rename_i index name path port hindex hprobe
      obtain rfl := Except.ok.inj hbuild
      obtain ⟨huid, hversion, hrest⟩ := applyPatch_identity happly
      exact ⟨huid, hversion, Or.inr ⟨index, name, path, port, hprobe, haction,
        probeWrite_of_applyPatch hrest⟩⟩

end Writes

/-- The Service as it is read, in a version and with a selector. -/
def readService (version label : String) : Json :=
  .obj [("metadata", .obj [("uid", .str "svc-1"), ("resourceVersion", .str version)]),
    ("spec", .obj [("selector", .obj [("app", .str label)])])]

/-- The snapshot of it. -/
def readSnapshot : ResourceSnapshot where
  uid := some "svc-1"
  generation := none
  namespaceName := safeNamespace
  resourceKind := .service
  resourceName := "web"
  resourceVersion := "7"
  configuration := .selector (Labels.ofPairs [⟨"app", "old"⟩])

theorem guardedWrite_of_selector : GuardedWrite (demoPlan "select the pods") readSnapshot
    (readService "7" "old") (readService "7" "web") := by
  have hbuild : buildPatch (demoPlan "select the pods") (readService "7" "old") readSnapshot =
      .ok (identityTests readSnapshot ++ selectorOps (Labels.ofPairs [⟨"app", "old"⟩])
        (Labels.ofPairs [⟨"app", "web"⟩])) := rfl
  have happly : applyPatch (readService "7" "old") (identityTests readSnapshot ++
      selectorOps (Labels.ofPairs [⟨"app", "old"⟩]) (Labels.ofPairs [⟨"app", "web"⟩])) =
        some (readService "7" "web") := by
    decide +kernel
  exact guardedWrite_of_applyPatch hbuild happly

end IncidentAgent
