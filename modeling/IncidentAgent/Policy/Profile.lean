import IncidentAgent.Lib.Outcome
import IncidentAgent.Policy.Evidence

/-!
# Registered service profiles

The contract that a service is registered with: the resources that belong to it, the version
and the images of its application, the probes and the business checks that are allowed. A
profile is what a snapshot of it in a state is compared with: `matchedProfile` accepts the
snapshot only when its digest is the one of its profile and the only Deployment in evidence is
the one that it was taken of.

A profile is built by the validation of a document, which leaves no two business checks with
one identifier.
-/

namespace IncidentAgent

/-! ### Contracts -/

/-- A value that a business check expects, `str | int | bool`. -/
inductive Scalar
  | str (text : String)
  | int (value : Int)
  | bool (value : Bool)
  deriving DecidableEq, Inhabited

def Scalar.dump : Scalar → Json
  | .str text => .str text
  | .int value => .num value
  | .bool value => .bool value

def Port.dump : Port → Json
  | .name text => .str text
  | .number value => .num value

/-- `HttpProbeContract`. -/
structure HttpProbeContract where
  path : String
  port : Port
  scheme : String
  deriving DecidableEq, Inhabited

def HttpProbeContract.dump (probe : HttpProbeContract) : Json :=
  .obj [("path", .str probe.path), ("port", probe.port.dump), ("scheme", .str probe.scheme)]

/-- `BusinessCheckContract`. The method and the two switches have one value each. -/
structure BusinessCheckContract extends HttpProbeContract where
  checkId : String
  expectedStatus : Int
  expectedJsonSubset : SortedMap String Scalar
  timeoutSeconds : Int
  maxResponseBytes : Int
  deriving DecidableEq, Inhabited

/-- `check.model_dump(mode="json")`. -/
def BusinessCheckContract.dump (check : BusinessCheckContract) : Json :=
  .obj [("path", .str check.path), ("port", check.port.dump), ("scheme", .str check.scheme),
    ("check_id", .str check.checkId), ("method", .str "GET"),
    ("expected_status", .num check.expectedStatus),
    ("expected_json_subset", .obj (check.expectedJsonSubset.entries.map fun e =>
      (e.1, e.2.dump))),
    ("timeout_seconds", .num check.timeoutSeconds),
    ("max_response_bytes", .num check.maxResponseBytes),
    ("follow_redirects", .bool false), ("read_only", .bool true)]

/-- `ApplicationContract`. -/
structure ApplicationContract where
  version : String
  versionLabel : String
  images : SortedMap String String
  deriving DecidableEq

/-- `ServiceProfile`. -/
structure ServiceProfile where
  profileId : String
  revision : String
  namespaceName : String
  serviceName : String
  deploymentName : String
  containerName : String
  team : String
  contact : String
  configSource : String
  application : ApplicationContract
  expectedSelector : Labels
  expectedReplicas : Option Int
  readinessProbe : HttpProbeContract
  livenessProbe : HttpProbeContract
  businessChecks : List BusinessCheckContract
  /-- `business check IDs must be unique`. -/
  ids_nodup : (businessChecks.map (·.checkId)).Nodup
  deriving DecidableEq

/-- A dictionary of texts as a value. -/
def textMap (m : SortedMap String String) : Json := .obj (m.entries.map fun e => (e.1, .str e.2))

/-- A dictionary of texts has no truth values. -/
theorem unbool_textMap (m : SortedMap String String) : (textMap m).unbool = textMap m := by
  have hall : ∀ entries : List (String × String),
      Json.unboolMembers (entries.map fun e => (e.1, Json.str e.2)) =
        entries.map fun e => (e.1, .str e.2) := by
    intro entries
    induction entries with
    | nil => rfl
    | cons head rest ih =>
      rw [List.map_cons, Json.unboolMembers, ih]
      rfl
  exact congrArg Json.obj (hall m.entries)

/-- A dictionary of texts is in canonical form. -/
theorem canonical_textMap (m : SortedMap String String) : (textMap m).canonical = textMap m := by
  obtain ⟨entries, hsorted⟩ := m
  show Json.obj (Json.canonicalMembers (entries.map fun e => (e.1, Json.str e.2))) =
    Json.obj (entries.map fun e => (e.1, .str e.2))
  congr 1
  induction entries with
  | nil => rfl
  | cons head rest ih =>
    obtain ⟨hhead, hrest⟩ := List.pairwise_cons.1 hsorted
    rw [List.map_cons, Json.canonicalMembers, ih hrest]
    refine SortedMap.setEntry_eq_cons fun e he => ?_
    obtain ⟨entry, hentry, rfl⟩ := List.mem_map.1 he
    exact hhead entry hentry

theorem textMap_injective : Function.Injective textMap := by
  rintro ⟨entries, _⟩ ⟨entries', _⟩ h
  have hmap := Json.obj.inj h
  rw [SortedMap.mk.injEq]
  refine List.map_injective_iff.2 (fun e e' he => ?_) hmap
  simp only [Prod.mk.injEq, Json.str.injEq] at he
  exact Prod.ext he.1 he.2

/-- `profile.model_dump(mode="json")`. -/
def ServiceProfile.dump (profile : ServiceProfile) : Json :=
  .obj [("schema_version", .str "v1"), ("profile_id", .str profile.profileId),
    ("revision", .str profile.revision), ("namespace", .str profile.namespaceName),
    ("service_name", .str profile.serviceName),
    ("deployment_name", .str profile.deploymentName),
    ("container_name", .str profile.containerName),
    ("owner", .obj [("team", .str profile.team), ("contact", .str profile.contact)]),
    ("config_source", .str profile.configSource),
    ("application", .obj [("version", .str profile.application.version),
      ("version_label", .str profile.application.versionLabel),
      ("images", textMap profile.application.images)]),
    ("expected_selector", textMap profile.expectedSelector),
    ("expected_replicas", profile.expectedReplicas.elim .null .num),
    ("readiness_probe", profile.readinessProbe.dump),
    ("liveness_probe", profile.livenessProbe.dump),
    ("business_checks", .arr (profile.businessChecks.map (·.dump)))]

/-- `payload` of `profile_digest`: a replica count that is not registered leaves no trace. -/
def ServiceProfile.payload (profile : ServiceProfile) : Json :=
  if profile.dump.get "expected_replicas" = .null then profile.dump.erase "expected_replicas"
  else profile.dump

/-- The payload has the members of the profile, up to the replica count. -/
theorem ServiceProfile.get?_payload (profile : ServiceProfile) {key : String}
    (h : key ≠ "expected_replicas") : profile.payload.get? key = profile.dump.get? key := by
  unfold payload
  split
  · exact Json.get?_erase h
  · rfl

/-- **Profiles with one payload register the same**, as far as resources go. -/
structure ServiceProfile.SameResources (profile profile' : ServiceProfile) : Prop where
  namespaceName : profile'.namespaceName = profile.namespaceName
  serviceName : profile'.serviceName = profile.serviceName
  deploymentName : profile'.deploymentName = profile.deploymentName
  containerName : profile'.containerName = profile.containerName
  selector : profile'.expectedSelector = profile.expectedSelector
  probe : profile'.readinessProbe = profile.readinessProbe

/-- A text of two payloads that agree. -/
theorem ServiceProfile.text_of_payload {profile profile' : ServiceProfile}
    (h : profile.payload.canonical = profile'.payload.canonical) (key : String) {s t : String}
    (hkey : key ≠ "expected_replicas") (hs : profile.dump.get? key = some (.str s))
    (ht : profile'.dump.get? key = some (.str t)) : t = s := by
  have hmember := Json.get?_of_plain h ((profile'.get?_payload hkey).trans ht) trivial
  rw [profile.get?_payload hkey, hs] at hmember
  exact (Json.str.inj (Option.some.inj hmember)).symm

/-- Probes with one value are one. -/
theorem HttpProbeContract.eq_of_canonical {p q : HttpProbeContract}
    (h : p.dump.canonical = q.dump.canonical) : q = p := by
  obtain ⟨path, port, scheme⟩ := p
  obtain ⟨path', port', scheme'⟩ := q
  have hports : port.dump.canonical = port'.dump.canonical :=
    Option.some.inj (Json.get?_of_canonical h "port")
  have hpath : Json.str path = .str path' :=
    Option.some.inj (Json.get?_of_canonical h "path")
  have hscheme : Json.str scheme = .str scheme' :=
    Option.some.inj (Json.get?_of_canonical h "scheme")
  obtain rfl := Json.str.inj hpath
  obtain rfl := Json.str.inj hscheme
  cases port <;> cases port' <;> simp_all [Port.dump, Json.canonical]

theorem ServiceProfile.sameResources_of_payload {profile profile' : ServiceProfile}
    (h : profile.payload.canonical = profile'.payload.canonical) :
    profile.SameResources profile' := by
  refine ⟨text_of_payload h "namespace" (by decide) rfl rfl,
    text_of_payload h "service_name" (by decide) rfl rfl,
    text_of_payload h "deployment_name" (by decide) rfl rfl,
    text_of_payload h "container_name" (by decide) rfl rfl, ?_, ?_⟩
  · have hmember := Json.get?_of_canonical h "expected_selector"
    rw [profile.get?_payload (by decide), profile'.get?_payload (by decide)] at hmember
    have hselectors : (textMap profile.expectedSelector).canonical =
      (textMap profile'.expectedSelector).canonical := Option.some.inj hmember
    rw [canonical_textMap, canonical_textMap] at hselectors
    exact (textMap_injective hselectors).symm
  · have hmember := Json.get?_of_canonical h "readiness_probe"
    rw [profile.get?_payload (by decide), profile'.get?_payload (by decide)] at hmember
    exact HttpProbeContract.eq_of_canonical (Option.some.inj hmember)

/-- An exception, as far as a result reports it: the name of its type, its attribute `status`,
and the text of a `ValueError`. -/
structure Raised where
  errorType : String
  status : Option Int
  detail : Option String
  deriving DecidableEq, Inhabited

/-- `ValueError(message)`. -/
def valueError (message : String) : Raised := ⟨"ValueError", none, some message⟩

/-- `TypeError`. -/
def typeError : Raised := ⟨"TypeError", none, none⟩

/-- The address that `ipaddress.ip_address` makes of a value, with what it tells of it. -/
structure IpAddress where
  text : String
  isLoopback : Bool
  isLinkLocal : Bool
  isUnspecified : Bool
  isMulticast : Bool
  deriving DecidableEq, Inhabited

/-- What the checks of a profile take from libraries. -/
structure Library where
  /-- The SHA-256 of a value, by its canonical text. -/
  digest : Json → String
  /-- `ServiceProfile.model_validate`. -/
  modelValidate : Json → Option ServiceProfile
  /-- `ipaddress.ip_address`. -/
  ipAddress : Json → Except Raised IpAddress
  /-- `datetime.fromisoformat`, as far as it has a time zone. -/
  instant : String → Option Int

section

variable (lib : Library)

/-- `profile_digest`. -/
def profileDigest (profile : ServiceProfile) : String := lib.digest profile.payload

/-! ### The association with a Deployment -/

/-- An entry of a dictionary set: in its place, or at the end. -/
def setPair (key value : Json) : List (Json × Json) → List (Json × Json)
  | [] => [(key, value)]
  | (k, v) :: rest => if k = key then (k, value) :: rest else (k, v) :: setPair key value rest

/-- `{c.get("name"): c.get("image") for c in containers}`. -/
def containerImages (containers : List Json) : List (Json × Json) :=
  containers.foldl (fun images c => setPair (c.get "name") (c.get "image") images) []

/-- `images == profile.application.images`. -/
def sameImages (images : List (Json × Json)) (registered : SortedMap String String) : Bool :=
  images.length = registered.entries.length &&
    registered.entries.all fun e => images.lookup (.str e.1) = some (.str e.2)

/-- A reason of `assess_profile`, where it applies. -/
def reasonIf (condition : Bool) (reason : String) : List String :=
  if condition then [reason] else []

/-- `assess_profile`. -/
def assessProfile (profile : ServiceProfile) (deployment : Json) : List String :=
  let labels := deployment.get "template_labels"
  let containers := (deployment.get "containers").items
  let images := containerImages containers
  reasonIf (!(deployment.hasText "namespace" profile.namespaceName &&
      deployment.hasText "name" profile.deploymentName)) "DEPLOYMENT_ASSOCIATION_MISMATCH" ++
    reasonIf (!(deployment.get "uid").truthy || deployment.get "generation" = .null)
      "DEPLOYMENT_IDENTITY_MISSING" ++
    reasonIf (!labels.hasText profile.application.versionLabel profile.application.version)
      "APPLICATION_VERSION_MISMATCH" ++
    reasonIf (!sameImages images profile.application.images || images.length ≠ containers.length)
      "APPLICATION_IMAGES_MISMATCH" ++
    reasonIf (!profile.expectedSelector.entries.all fun e => labels.hasText e.1 e.2)
      "EXPECTED_SELECTOR_WORKLOAD_MISMATCH"

/-! ### Snapshots -/

/-- `make_snapshot`. -/
def makeSnapshot (profile : ServiceProfile) (deployment : Json) : Json :=
  let reasons := assessProfile profile deployment
  .obj [("status", .str (if reasons.isEmpty then "matched" else "mismatch")),
    ("reasons", .arr (reasons.map .str)), ("profile", profile.dump),
    ("digest", .str (profileDigest lib profile)),
    ("deployment_uid", deployment.get "uid"),
    ("deployment_generation", deployment.get "generation")]

/-- `collect_profile`, given the profile that was read, or why there is none, and the Deployment
that was read, or the type of the error. -/
def collectProfile (loaded : Except String ServiceProfile) (deployment : Except String Json) : Json :=
  match loaded with
  | .error reason => .obj [("status", .str "unavailable"), ("reasons", .arr [.str reason])]
  | .ok profile => match deployment with
    | .ok deployment => makeSnapshot lib profile deployment
    | .error errorType => .obj [("status", .str "unavailable"),
        ("reasons", .arr [.str "REGISTERED_DEPLOYMENT_UNAVAILABLE"]),
        ("error_type", .str errorType), ("profile", profile.dump),
        ("digest", .str (profileDigest lib profile))]

/-- The Deployment in evidence of a profile. There has to be one, and it has to match. -/
def deploymentInEvidence (profile : ServiceProfile) (evidence : List EvidenceRow) :
    Except String Json :=
  match rowsNamed evidence "Deployment" profile.deploymentName with
  | [row] =>
    if assessProfile profile row.data = [] then .ok row.data
    else .error "SERVICE_PROFILE_EVIDENCE_MISMATCH"
  | _ => .error "SERVICE_PROFILE_EVIDENCE_MISMATCH"

/-- `matched_profile`. -/
def matchedProfile (state : PolicyState) : Except String ServiceProfile := do
  let snapshot := state.serviceProfile
  raiseIf (¬snapshot.hasText "status" "matched") "SERVICE_PROFILE_NOT_MATCHED"
  let document ← rowOr (snapshot.get? "profile") "SERVICE_PROFILE_INVALID"
  let profile ← rowOr (lib.modelValidate document) "SERVICE_PROFILE_INVALID"
  raiseIf (¬(state.request.hasText "namespace" profile.namespaceName ∧
    state.request.hasText "service_name" profile.serviceName))
    "SERVICE_PROFILE_TARGET_MISMATCH"
  raiseIf (¬snapshot.hasText "digest" (profileDigest lib profile))
    "SERVICE_PROFILE_DIGEST_MISMATCH"
  let deployment ← deploymentInEvidence profile state.evidence
  raiseIf (¬((snapshot.get "deployment_uid").pyEq (deployment.get "uid") ∧
    (snapshot.get "deployment_generation").pyEq (deployment.get "generation")))
    "SERVICE_PROFILE_OBSERVATION_MISMATCH"
  pure profile

/-- What a profile that is matched was read from. -/
theorem matchedProfile_spec {state : PolicyState} {profile : ServiceProfile}
    (h : matchedProfile lib state = .ok profile) :
    (∃ document, state.serviceProfile.get? "profile" = some document ∧
      lib.modelValidate document = some profile) ∧
      state.request.hasText "namespace" profile.namespaceName ∧
      state.request.hasText "service_name" profile.serviceName ∧
      ∃ row, rowsNamed state.evidence "Deployment" profile.deploymentName = [row] ∧
        assessProfile profile row.data = [] := by
  simp only [matchedProfile, bind_eq_ok, raiseIf_eq_ok, rowOr_eq_ok, pure_eq_ok, not_not] at h
  obtain ⟨-, -, document, hdocument, profile', hvalid, -, hrequest, -, -, deployment, hdeployment,
    -, -, rfl⟩ := h
  refine ⟨⟨document, hdocument, hvalid⟩, hrequest.1, hrequest.2, ?_⟩
  unfold deploymentInEvidence at hdeployment
  split at hdeployment
  · rename_i row hrows
    split at hdeployment
    · rename_i hassessed
      exact ⟨row, hrows, hassessed⟩
    · cases hdeployment
  · cases hdeployment

end

end IncidentAgent
