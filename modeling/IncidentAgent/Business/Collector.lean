import IncidentAgent.Business.Protocol

/-!
# The collection of business checks

The checker in the cluster (`doGet`) performs the checks of the targets that it is configured
with. The agent builds the target of a registered check from its own profile and the Service it
has read (`buildTarget`), asks the checker for it under a fresh nonce, and accepts only a reply
that is about that target and that nonce (`callProbe`). After the checks it reads the Service
and the profile again, and what it found counts for nothing when either has changed.

The replies that the agent relies on are those of the checker (`ProbeResponse.Honest`): what
arrives is what `doGet` returned, for some configuration of it and some behaviour of the
application.
-/

namespace IncidentAgent

/-! ### The checker -/

/-- The key under which a target is registered. -/
def targetKey (target : Json) : Json × Json :=
  (target.get "profile_digest", (target.get "check").get "check_id")

/-- `load_targets`, of a configuration that could be read. -/
def loadTargets (lib : CheckLibrary) (config : Json) : Option (List Json) :=
  match config.get? "targets" with
  | some (.arr targets) =>
    if 1 ≤ targets.length ∧ targets.length ≤ 10 ∧
        (∀ t ∈ targets, (validateTarget lib t).isOk) ∧ (targets.map targetKey).Nodup then
      some targets
    else none
  | _ => none

/-- How the worker of a check ends: with an exchange, or with none in time. -/
structure Attempt where
  exchange : Option Exchange
  checkedAt : String
  elapsedMs : Int

/-- `bounded_check`. -/
def boundedCheck (lib : CheckLibrary) (target : Json) (nonce : String) (a : Attempt) :
    ProbeResult :=
  let base := { resultBase target nonce a.checkedAt with elapsedMs := a.elapsedMs }
  match a.exchange with
  | none => { base with errorCode := some "CHECK_TIMEOUT" }
  | some x => match performCheck lib target nonce x with
    | .error _ => { base with errorCode := some "CHECKER_WORKER_ERROR" }
    | .ok r => { r with elapsedMs := a.elapsedMs }

/-- What decides the answer of the checker: its configuration, whether its slots are taken, the
attempt of the check, and the pod that it runs in. -/
structure CheckerState where
  config : Option Json
  busy : Bool
  attempt : Attempt
  pod : String
  podUid : String

/-- `do_GET` for the path of a check: an HTTP status and a document. -/
def doGet (lib : CheckLibrary) (c : CheckerState) (digest checkId nonce : String) : Int × Json :=
  match c.config.bind (loadTargets lib) with
  | none => (503, .obj [("error", .str "CHECKER_CONFIG_INVALID")])
  | some targets =>
    if !(isDigest digest && isCheckId checkId && isNonce nonce) then
      (400, .obj [("error", .str "INVALID_CHECK_REQUEST")])
    else match targets.find? fun t => targetKey t = (.str digest, .str checkId) with
      | none => (409, .obj [("error", .str "CHECK_NOT_REGISTERED_OR_CONFIG_STALE")])
      | some target =>
        if c.busy then (429, .obj [("error", .str "CHECKER_BUSY")])
        else (200, ((boundedCheck lib target nonce c.attempt).dump.insert "checker_pod"
          (.str c.pod)).insert "checker_pod_uid" (.str c.podUid))

/-! ### The target of a check -/

/-- Whether a port of a Service is the one that a check is registered for. -/
def isRegisteredPort (check : BusinessCheckContract) (p : Json) : Bool :=
  ((p.get? "protocol").getD (.str "TCP")).pyEq (.str "TCP") &&
    match check.port with
    | .number n => (p.get "port").pyEq (.num n)
    | .name text => p.hasText "name" text

/-- The target of a check at a port, before it is validated. -/
def targetAt (lib : CheckLibrary) (profile : ServiceProfile) (check : BusinessCheckContract)
    (clusterIp port : Json) : Json :=
  .obj [("namespace", .str profile.namespaceName), ("service_name", .str profile.serviceName),
    ("profile_digest", .str (profileDigest lib.toLibrary profile)), ("cluster_ip", clusterIp),
    ("port", port), ("check", check.dump)]

/-- `build_target`. -/
def buildTarget (lib : CheckLibrary) (profile : ServiceProfile) (check : BusinessCheckContract)
    (service : Json) : Except Raised Json := do
  raiseIf (¬(service.hasText "namespace" profile.namespaceName ∧
    service.hasText "name" profile.serviceName)) (valueError "SERVICE_ASSOCIATION_MISMATCH")
  raiseIf (¬service.hasText "service_type" "ClusterIP" ∨ ¬(service.get "cluster_ip").truthy)
    (valueError "ONLY_NON_HEADLESS_CLUSTERIP_SUPPORTED")
  let ports := (service.get "ports").items.filter (isRegisteredPort check)
  raiseIf (ports.length ≠ 1) (valueError "REGISTERED_SERVICE_PORT_NOT_FOUND")
  validateTarget lib
    (targetAt lib profile check (service.get "cluster_ip") ((ports.headD .null).get "port"))

/-- A target that is built is the one of the check, at an address and a port. -/
theorem buildTarget_spec {lib : CheckLibrary} {profile : ServiceProfile}
    {check : BusinessCheckContract} {service target : Json}
    (h : buildTarget lib profile check service = .ok target) :
    (∃ n, target = targetAt lib profile check (service.get "cluster_ip") (.num n)) ∧
      isCheckId check.checkId := by
  simp only [buildTarget, bind_eq_ok, raiseIf_eq_ok] at h
  obtain ⟨-, -, -, -, -, -, hvalid⟩ := h
  obtain ⟨rfl, ⟨n, hn⟩, hcheck⟩ := validateTarget_spec hvalid
  refine ⟨⟨n, ?_⟩, ?_⟩
  · exact congrArg (targetAt lib profile check (service.get "cluster_ip")) hn
  obtain ⟨checkId, hid, hname⟩ := validateCheck_checkId hcheck
  have hsame : checkId = check.checkId := (Json.str.inj hid).symm
  rw [← hsame]
  exact hname

/-! ### Asking the checker -/

/-- What arrives at the agent: an HTTP status, the number of bytes, and the document in them, or
why there is none. -/
structure ProbeResponse where
  status : Int
  size : Nat
  document : Except Raised Json

/-- `MAX_RESULT_BYTES`. -/
def maxResultBytes : Nat := 16384

/-- Whether a reply is about a target and a nonce. -/
def isBoundTo (target : Json) (nonce : String) (result : Json) : Bool :=
  result.isObject && (result.get "protocol_version").pyEq (.num protocolVersion) &&
    result.hasText "checker_version" checkerVersion && result.hasText "request_id" nonce &&
    (result.get "target").canonical = target.canonical &&
    result.hasText "scope" "cluster_service_http" &&
    (result.hasText "status" "passed" || result.hasText "status" "failed" ||
      result.hasText "status" "unknown")

/-- Whether a reply that says that a check has passed reports what the check expects. -/
def isPassFor (target result : Json) : Bool :=
  let check := target.get "check"
  (result.get "http_status").pyEq (check.get "expected_status") &&
    result.get "content_matches" = .bool true && result.get "error_code" = .null &&
    (result.get "observed_fields").isObject &&
    (check.get "expected_json_subset").members.all fun e =>
      (result.get "observed_fields").get? e.1 = some e.2

/-- `call_probe`, with the nonce that it draws and what arrives. -/
def callProbe (target : Json) (nonce : String) (wire : Except Raised ProbeResponse) :
    Except Raised Json := do
  let response ← wire
  raiseIf (response.status ≠ 200) (valueError "PROBE_HTTP_ERROR")
  raiseIf (maxResultBytes < response.size) (valueError "PROBE_RESPONSE_TOO_LARGE")
  let result ← response.document
  raiseIf (¬isBoundTo target nonce result) (valueError "PROBE_RESULT_BINDING_INVALID")
  raiseIf (result.hasText "status" "passed" ∧ ¬isPassFor target result)
    (valueError "PROBE_PASS_RESULT_INVALID")
  pure (result.insert "check_id" ((target.get "check").get "check_id"))

/-! ### The collection -/

/-- `unavailable`. -/
def unavailable (checkId : Json) (code : String) (status : String) : Json :=
  .obj [("check_id", checkId), ("status", .str status), ("error_code", .str code),
    ("scope", .str "cluster_service_http"), ("http_status", .null), ("content_matches", .null),
    ("request_id", .null)]

/-- The result of a check that raised. -/
def raisedResult (checkId : String) (error : Raised) : Json :=
  let code := if error.status = some 401 ∨ error.status = some 403 then "PROBE_ACCESS_DENIED"
    else "PROBE_UNAVAILABLE_OR_INVALID"
  let result := ((unavailable (.str checkId) code "unknown").insert "error_type"
    (.str error.errorType)).insert "probe_http_status" (error.status.elim .null .num)
  match error.detail with
  | some detail => result.insert "detail" (.str (String.ofList (detail.toList.take 160)))
  | none => result

/-- What the world answers to one check: whether there is time for it, the nonce that is drawn,
the state that the checker is in, and what arrives. -/
structure CheckAnswer where
  inTime : Bool
  nonce : String
  checker : CheckerState
  wire : Except Raised ProbeResponse

/-- **An answer is honest** when a document that arrives is the one with which the checker
answered to the request. -/
def CheckAnswer.Honest (lib : CheckLibrary) (target : Json) (a : CheckAnswer) : Prop :=
  ∀ response document, a.wire = .ok response → response.document = .ok document →
    (response.status, document) = doGet lib a.checker (target.get "profile_digest").toText
      ((target.get "check").get "check_id").toText a.nonce

/-- What the world answers to a collection. Whatever happens to the Service, the Deployment and
the profile while it runs shows in what is read before and after the checks. -/
structure CollectionWorld where
  collectedAt : String
  /-- The profile that is loaded before the checks. -/
  loaded : Except String ServiceProfile
  answers : String → CheckAnswer
  /-- The Service, the profile and the Deployment that are read after the checks. -/
  freshService : Except Raised Json
  freshLoaded : Except String ServiceProfile
  freshDeployment : Except String Json

/-- The result of one registered check. -/
def checkResult (lib : CheckLibrary) (profile : ServiceProfile) (service : Json)
    (world : CollectionWorld) (check : BusinessCheckContract) : Json :=
  let answer := world.answers check.checkId
  if !answer.inTime then
    unavailable (.str check.checkId) "COLLECTION_CHECK_BUDGET_EXHAUSTED" "skipped"
  else
    match buildTarget lib profile check service >>= fun target =>
        callProbe target answer.nonce answer.wire with
    | .ok result => result
    | .error error => raisedResult check.checkId error

/-- Whether a result with a target is about a target that would be built again. -/
def stillBuilt (lib : CheckLibrary) (profile : ServiceProfile) (service result : Json) : Bool :=
  result.get "target" = .null ||
    (profile.businessChecks.find? fun c => result.hasText "check_id" c.checkId).any fun check =>
      match buildTarget lib profile check service with
      | .ok target => target.pyEq (result.get "target")
      | .error _ => false

/-- Whether nothing has changed while the checks were made. -/
def stillCurrent (lib : CheckLibrary) (profile : ServiceProfile) (bundle : Bundle)
    (world : CollectionWorld) (results : List Json) : Bool :=
  match world.freshService with
  | .error _ => false
  | .ok service =>
    service.pyEq bundle.service &&
      (collectProfile lib.toLibrary world.freshLoaded world.freshDeployment).pyEq
        bundle.serviceProfile &&
      results.all (stillBuilt lib profile service)

/-- A result that is no longer current. -/
def demoted (result : Json) : Json :=
  if result.get "target" ≠ .null ∧ ¬result.hasText "status" "skipped" then
    ((result.insert "observed_status" (result.get "status")).insert "status"
      (.str "unknown")).insert "error_code" (.str "CHECK_OBSERVATION_NO_LONGER_CURRENT")
  else result

/-- The state that a collection asks for its profile. -/
def collectionState (bundle : Bundle) (collectedAt : String) : PolicyState where
  request := .obj [("namespace", .str bundle.namespaceName),
    ("service_name", .str bundle.serviceName)]
  serviceProfile := bundle.serviceProfile
  evidence := normalizeEvidence "profile-check" collectedAt bundle

/-- The profile of a collection: matched by the state, and unchanged where it is loaded. -/
def collectionProfile (lib : CheckLibrary) (bundle : Bundle) (world : CollectionWorld) :
    Except String ServiceProfile := do
  let profile ← matchedProfile lib.toLibrary (collectionState bundle world.collectedAt)
  let current ← world.loaded
  raiseIf (profileDigest lib.toLibrary current ≠ profileDigest lib.toLibrary profile)
    "PROFILE_CHANGED_BEFORE_CHECK"
  pure profile

/-- `collect_business_checks`. -/
def collectBusinessChecks (lib : CheckLibrary) (bundle : Bundle) (world : CollectionWorld) :
    List Json :=
  match collectionProfile lib bundle world with
  | .error _ => [unavailable .null "SERVICE_PROFILE_NOT_MATCHED" "skipped"]
  | .ok profile =>
    if profile.businessChecks = [] then
      [unavailable .null "NO_REGISTERED_BUSINESS_CHECKS" "skipped"]
    else
      let results := profile.businessChecks.map (checkResult lib profile bundle.service world)
      if stillCurrent lib profile bundle world results then results else results.map demoted

/-- The checker performs the checks of a collection, and its replies arrive as they are. -/
def CollectionWorld.Honest (lib : CheckLibrary) (bundle : Bundle) (world : CollectionWorld) :
    Prop :=
  ∀ profile check target, collectionProfile lib bundle world = .ok profile →
    check ∈ profile.businessChecks → buildTarget lib profile check bundle.service = .ok target →
    (world.answers check.checkId).Honest lib target

/-! ### What a result that has passed tells -/

/-- The value of a document that a check expects. -/
def Scalar.parsed : Scalar → Parsed
  | .str text => .str text
  | .int value => .int value
  | .bool value => .bool value

/-- **The application answered what a check expects**: with the expected status, and with a body
within the bound that is a JSON object in which each expected key has the expected value, as a
value of the same type. -/
structure AnsweredAsExpected (lib : CheckLibrary) (check : BusinessCheckContract) (x : Exchange) :
    Prop where
  expected_status : x.status = .ok check.expectedStatus
  expected_body : ∃ body pairs, x.body = .ok body ∧ body.length ≤ check.maxResponseBytes ∧
    decodeJson lib body = some (.obj pairs) ∧
    ∀ e ∈ check.expectedJsonSubset.entries, pairs.lookup e.1 = some e.2.parsed

theorem Scalar.plain_dump (v : Scalar) : v.dump.Plain := by
  cases v <;> trivial

/-- A value that equals an expected one, type by type, is that one. -/
theorem Scalar.eq_parsed {v : Parsed} {e : Scalar} (h : v.equals e.dump = true) :
    v = e.parsed := by
  cases e <;> cases v <;> simp_all [Parsed.equals, Scalar.dump, Scalar.parsed]

/-- An entry of a map is found under its key. -/
theorem lookup_map_dump {entries : List (String × Scalar)}
    (hsorted : entries.Pairwise fun a b => a.1 < b.1) {e : String × Scalar} (h : e ∈ entries) :
    (entries.map fun e => (e.1, e.2.dump)).lookup e.1 = some e.2.dump := by
  induction entries with
  | nil => cases h
  | cons head rest ih =>
    obtain ⟨hhead, hrest⟩ := List.pairwise_cons.1 hsorted
    rw [List.map_cons, Json.lookup_cons_ite]
    rcases List.mem_cons.1 h with rfl | h
    · rw [if_pos rfl]
    · rw [if_neg (hhead e h).ne']
      exact ih hrest h

/-- The member of a check that a key and a value are. -/
theorem get_of_dump {v : Json} {check : BusinessCheckContract}
    (hv : v.canonical = check.dump.canonical) {key : String} {w : Json}
    (hkey : check.dump.get? key = some w) (hw : w.Plain) : v.get key = w := by
  rw [Json.get, Json.get?_of_plain hv hkey hw]
  rfl

/-- What an answer to a check tells of a check with an equal dump. -/
theorem Answered.asExpected {lib : CheckLibrary} {v : Json} {check : BusinessCheckContract}
    {x : Exchange} (h : Answered lib v x) (hv : v.canonical = check.dump.canonical) :
    AnsweredAsExpected lib check x := by
  obtain ⟨status, hstatus, hexpected⟩ := h.expected_status
  obtain ⟨body, document, hbody, hsize, hdecoded, hdict, hmembers⟩ := h.body
  have hbound : v.get "max_response_bytes" = .num check.maxResponseBytes :=
    get_of_dump hv rfl trivial
  have hcode : v.get "expected_status" = .num check.expectedStatus := get_of_dump hv rfl trivial
  refine ⟨?_, ?_⟩
  · rw [hcode] at hexpected
    rw [hstatus, ← Json.num.inj hexpected]
  · cases document with
    | obj pairs =>
      refine ⟨body, pairs, hbody, by rw [hbound] at hsize; exact hsize, hdecoded, fun e he => ?_⟩
      have hsubset := Json.get?_of_canonical hv "expected_json_subset"
      rw [show check.dump.get? "expected_json_subset" =
        some (check.dump.get "expected_json_subset") from rfl] at hsubset
      obtain ⟨w, hw, hsame⟩ := Option.map_eq_some_iff.1 hsubset
      have hmember := Json.get?_of_plain hsame
        (lookup_map_dump check.expectedJsonSubset.sorted he) e.2.plain_dump
      obtain ⟨members, rfl⟩ := Json.exists_of_get? hmember
      obtain ⟨u, hu, hequals⟩ := hmembers (e.1, e.2.dump) (by
        rw [Json.get, hw]
        exact Json.mem_of_lookup hmember)
      have hlookup : pairs.lookup e.1 = some u := hu
      rw [hlookup, Scalar.eq_parsed hequals]
    | _ => cases hdict

/-- A bounded check is about its target and its request, and it passes only when the application
answered what is expected. -/
theorem boundedCheck_spec (lib : CheckLibrary) (target : Json) (nonce : String) (a : Attempt) :
    (boundedCheck lib target nonce a).target = target ∧
      ((boundedCheck lib target nonce a).status = "passed" →
        ∃ x, a.exchange = some x ∧ Answered lib (target.get "check") x) := by
  unfold boundedCheck
  split
  · exact ⟨rfl, fun h => (by simp [resultBase] at h)⟩
  · rename_i x hx
    split
    · exact ⟨rfl, fun h => (by simp [resultBase] at h)⟩
    · rename_i r hr
      obtain ⟨htarget, -, hpassed⟩ := performCheck_spec hr
      exact ⟨htarget, fun h => ⟨x, hx, hpassed h⟩⟩

/-- The members of a reply of the checker. -/
theorem get?_reply (r : ProbeResult) (pod uid : Json) {key : String} (hpod : key ≠ "checker_pod")
    (huid : key ≠ "checker_pod_uid") :
    ((r.dump.insert "checker_pod" pod).insert "checker_pod_uid" uid).get? key =
      r.dump.get? key := by
  rw [Json.get?_insert_of_isObject (by rw [Json.isObject_insert]; rfl), if_neg huid,
    Json.get?_insert_of_isObject rfl, if_neg hpod]

/-- A reply to a request is about a registered target, and says that its check has passed only
when the application answered what that target expects. -/
theorem doGet_spec {lib : CheckLibrary} {c : CheckerState} {digest checkId nonce : String}
    {document : Json} (h : (200, document) = doGet lib c digest checkId nonce) :
    ∃ t, document.get? "target" = some t ∧ (document.hasText "status" "passed" = true →
      ∃ x, c.attempt.exchange = some x ∧ Answered lib (t.get "check") x) := by
  unfold doGet at h
  split at h
  · simp at h
  · split at h
    · simp at h
    · split at h
      · simp at h
      · rename_i t hfound
        split at h
        · simp at h
        · obtain ⟨htarget, hpassed⟩ := boundedCheck_spec lib t nonce c.attempt
          rw [(Prod.mk.inj h).2]
          refine ⟨t, ?_, fun hstatus => hpassed ?_⟩
          · rw [get?_reply _ _ _ (by decide) (by decide)]
            exact congrArg some htarget
          · rw [Json.hasText, get?_reply _ _ _ (by decide) (by decide)] at hstatus
            have htext : some (Json.str (boundedCheck lib t nonce c.attempt).status) =
                some (Json.str "passed") := beq_iff_eq.1 hstatus
            exact Json.str.inj (Option.some.inj htext)

/-- **A verified result**: it is about the target that is built of a registered check and a
Service, it carries the nonce of its request, and the application answered to the checker what
the check expects. -/
structure Verified (lib : CheckLibrary) (profile : ServiceProfile) (service : Json)
    (world : CollectionWorld) (check : BusinessCheckContract) (result : Json) : Prop where
  registered : check ∈ profile.businessChecks
  check_id : result.get? "check_id" = some (.str check.checkId)
  target : ∃ target, buildTarget lib profile check service = .ok target ∧
    (result.get "target").canonical = target.canonical
  nonce : result.get? "request_id" = some (.str (world.answers check.checkId).nonce)
  answered : ∃ x, (world.answers check.checkId).checker.attempt.exchange = some x ∧
    AnsweredAsExpected lib check x

theorem callProbe_spec {target result : Json} {nonce : String}
    {wire : Except Raised ProbeResponse} (h : callProbe target nonce wire = .ok result) :
    ∃ response document, wire = .ok response ∧ response.status = 200 ∧
      response.document = .ok document ∧ isBoundTo target nonce document = true ∧
      (document.hasText "status" "passed" → isPassFor target document = true) ∧
      result = document.insert "check_id" ((target.get "check").get "check_id") := by
  simp only [callProbe, bind_eq_ok, raiseIf_eq_ok, pure_eq_ok, not_not, not_and] at h
  obtain ⟨response, hwire, -, hstatus, -, -, document, hdocument, -, hbound, -, hpass, hresult⟩ :=
    h
  exact ⟨response, document, hwire, hstatus, hdocument, hbound, hpass, hresult.symm⟩

theorem hasText_iff {v : Json} {key text : String} :
    v.hasText key text = true ↔ v.get? key = some (.str text) := by
  rw [Json.hasText, beq_iff_eq]

/-- A reply that was accepted has the members that it was accepted for. -/
theorem isBoundTo_spec {target document : Json} {nonce : String}
    (h : isBoundTo target nonce document = true) :
    (∃ members, document = .obj members) ∧
      document.get? "request_id" = some (.str nonce) ∧
      (document.get "target").canonical = target.canonical := by
  simp only [isBoundTo, Bool.and_eq_true, decide_eq_true_eq, hasText_iff] at h
  obtain ⟨⟨⟨⟨⟨⟨-, -⟩, -⟩, hnonce⟩, htarget⟩, -⟩, -⟩ := h
  exact ⟨Json.exists_of_get? hnonce, hnonce, htarget⟩

theorem raisedResult_status (checkId : String) (error : Raised) :
    (raisedResult checkId error).get? "status" = some (.str "unknown") := by
  unfold raisedResult
  simp only
  split <;> split <;> rfl

/-- A check that was not made has not passed. -/
theorem unavailable_status {checkId : Json} {code status : String} (h : status ≠ "passed") :
    (unavailable checkId code status).get? "status" ≠ some (.str "passed") := by
  intro hpassed
  have htext : some (Json.str status) = some (Json.str "passed") := hpassed
  exact h (Json.str.inj (Option.some.inj htext))

/-- **A check whose result has passed is verified**, when the checker is honest. -/
theorem checkResult_verified {lib : CheckLibrary} {profile : ServiceProfile} {service : Json}
    {world : CollectionWorld} {check : BusinessCheckContract}
    (hcheck : check ∈ profile.businessChecks)
    (hhonest : ∀ target, buildTarget lib profile check service = .ok target →
      (world.answers check.checkId).Honest lib target)
    (h : (checkResult lib profile service world check).get? "status" = some (.str "passed")) :
    Verified lib profile service world check (checkResult lib profile service world check) := by
  obtain ⟨result, hresult⟩ : ∃ result,
    checkResult lib profile service world check = result := ⟨_, rfl⟩
  rw [hresult] at h ⊢
  unfold checkResult at hresult
  simp only at hresult
  split at hresult
  · rw [← hresult] at h
    exact absurd h (unavailable_status (by decide))
  · split at hresult
    · rename_i accepted hprobe
      obtain ⟨target, htarget, hcall⟩ := bind_eq_ok.1 hprobe
      obtain ⟨response, document, hwire, hstatus, hdocument, hbound, -, hinsert⟩ :=
        callProbe_spec hcall
      obtain ⟨⟨members, rfl⟩, hnonce, hsame⟩ := isBoundTo_spec hbound
      have hreply := hhonest target htarget response _ hwire hdocument
      rw [hstatus] at hreply
      obtain ⟨t, ht, hpassed⟩ := doGet_spec hreply
      obtain ⟨port, hat⟩ := (buildTarget_spec htarget).1
      have hmember : ∀ key, key ≠ "check_id" → result.get? key = (Json.obj members).get? key := by
        intro key hkey
        rw [← hresult, hinsert, Json.get?_insert, if_neg hkey]
      have htargets : t.canonical = target.canonical := by
        rw [Json.get, ht] at hsame
        exact hsame
      obtain ⟨x, hx, hanswered⟩ := hpassed (hasText_iff.2 (by rw [← hmember _ (by decide), h]))
      have hchecks : (t.get "check").canonical = check.dump.canonical := by
        have hboth := Json.get?_of_canonical htargets "check"
        rw [hat, show (targetAt lib profile check (service.get "cluster_ip") (.num port)).get? "check" =
          some check.dump from rfl] at hboth
        obtain ⟨w, hw, hequal⟩ := Option.map_eq_some_iff.1 hboth
        rw [Json.get, hw]
        exact hequal
      refine ⟨hcheck, ?_, ⟨target, htarget, ?_⟩, ?_, x, hx, hanswered.asExpected hchecks⟩
      · rw [← hresult, hinsert, Json.get?_insert, if_pos rfl, hat]
        rfl
      · rw [Json.get, hmember _ (by decide)]
        exact hsame
      · rw [hmember _ (by decide), hnonce]
    · rw [← hresult, raisedResult_status] at h
      simp at h

/-- A result that was demoted has not passed. -/
theorem demoted_status {result : Json}
    (h : (demoted result).get? "status" = some (.str "passed")) :
    demoted result = result := by
  by_cases hcondition : result.get "target" ≠ .null ∧ ¬result.hasText "status" "skipped"
  · rw [demoted, if_pos hcondition] at h
    have hobject : result.isObject = true := by
      cases result with
      | obj members => rfl
      | _ => exact absurd rfl hcondition.1
    rw [Json.get?_insert_of_isObject (by simp [hobject]), if_neg (by decide),
      Json.get?_insert_of_isObject (by simp [hobject]), if_pos rfl] at h
    simp at h
  · rw [demoted, if_neg hcondition]

/-- **Each collected result that has passed is verified**, against the profile that the
collection found matched and the Service that it was given. -/
theorem collectBusinessChecks_verified {lib : CheckLibrary} {bundle : Bundle}
    {world : CollectionWorld} (hhonest : world.Honest lib bundle) {result : Json}
    (hmem : result ∈ collectBusinessChecks lib bundle world)
    (h : result.get? "status" = some (.str "passed")) :
    ∃ profile check, collectionProfile lib bundle world = .ok profile ∧
      Verified lib profile bundle.service world check result := by
  unfold collectBusinessChecks at hmem
  split at hmem
  · rw [List.mem_singleton.1 hmem] at h
    exact absurd h (unavailable_status (by decide))
  · rename_i profile hprofile
    split at hmem
    · rw [List.mem_singleton.1 hmem] at h
      exact absurd h (unavailable_status (by decide))
    · have horiginal : result ∈
          profile.businessChecks.map (checkResult lib profile bundle.service world) := by
        simp only at hmem
        split at hmem
        · exact hmem
        · obtain ⟨original, horiginal, rfl⟩ := List.mem_map.1 hmem
          rw [demoted_status h]
          exact horiginal
      obtain ⟨check, hcheck, rfl⟩ := List.mem_map.1 horiginal
      exact ⟨profile, check, hprofile,
        checkResult_verified hcheck (fun target => hhonest profile check target hprofile hcheck) h⟩

end IncidentAgent
