import IncidentAgent.Policy.Facts
import IncidentAgent.Tools.Redaction
import Mathlib.Data.List.Nodup

/-!
# What a passed business check is worth

The evidence of a state comes from collections: the baseline is what a collection returned, and
an observation is what a read-only tool returned, whose business checks are collected in the
same way and redacted (`ToolCall`). Whatever was changed between the reading of the Service, the
checks and the judgement, the verdict `passed` means that each registered check was made
(`BusinessPassed`): there is one row for it, it is about the target of the Service in evidence,
and the application answered to the checker what the check expects.

The three validators are met one after the other: the policy leaves the row of a check only
when it is bound to the target and reports a pass; the collector lets a result pass only when
the reply was about its target and its nonce; and the checker says that a check has passed only
when the answer of the application is the expected one.
-/

namespace IncidentAgent

/-- A collection of business checks, by an honest checker. -/
structure Collection (lib : CheckLibrary) where
  bundle : Bundle
  world : CollectionWorld
  honest : world.Honest lib bundle

section

variable {lib : CheckLibrary}

/-- The results of a collection. -/
def Collection.results (c : Collection lib) : List Json :=
  collectBusinessChecks lib c.bundle c.world

/-- The evidence of a baseline, in which a collection of business checks is the last part. -/
def Collection.evidence (c : Collection lib) (incidentId collectedAt : String) :
    List EvidenceRow :=
  normalizeEvidence incidentId collectedAt { c.bundle with businessChecks := c.results }

/-- A call of a read-only tool under a snapshot of a profile. The payload of a business check is
a collection under that snapshot, redacted. -/
structure ToolCall (lib : CheckLibrary) (isAlnum : Char → Bool) (snapshot : Json) where
  result : ToolResult
  request : ToolRequest
  ref : ToolRef
  collected : request.tool = .registeredBusiness → result.coverage ≠ .unknown →
    ∃ c : Collection lib, c.bundle.serviceProfile = snapshot ∧
      result.payload = some (redact isAlnum (.arr c.results))

/-- **What `passed` says of a check**: one row is about it, the row is bound to the target of
the profile and the Service in evidence and reports a pass, and it is the result, or the
redacted result, of a collection in which that check was verified. The target that was asked is
the one that the row is bound to, as far as no redaction has hidden its address. -/
structure CheckPassed (lib : CheckLibrary) (isAlnum : Char → Bool) (state : PolicyState)
    (profile : ServiceProfile) (check : BusinessCheckContract) : Prop where
  bound : ∃ service target row,
    serviceInEvidence (state.evidence.filter fun e => e.error.isNone) state.request =
      some service ∧
    buildTarget lib profile check service.data = .ok target ∧
    checkRows state.evidence check = [row] ∧ row.data.hasText "status" "passed" = true ∧
    (row.data.get "target").canonical = target.canonical ∧
    ∃ (c : Collection lib) (result : Json), c.bundle.serviceProfile = state.serviceProfile ∧
      result ∈ c.results ∧ (row.data = result ∨ row.data = redact isAlnum result) ∧
      Verified lib profile c.bundle.service c.world check result ∧
      ∃ asked, buildTarget lib profile check c.bundle.service = .ok asked ∧
        asked.get "port" = target.get "port" ∧
        ∀ address, target.get "cluster_ip" = .str address →
          asked.get "cluster_ip" = .str address ∨ redactionMark.toList <:+: address.toList

/-! ### Where the rows come from -/

/-- What a row about a registered check is: without an error, and the result, or the redacted
result, of a collection under a snapshot. -/
def Collected (lib : CheckLibrary) (isAlnum : Char → Bool) (snapshot : Json)
    (row : EvidenceRow) : Prop :=
  row.error = none ∧ ∃ (c : Collection lib) (result : Json),
    c.bundle.serviceProfile = snapshot ∧ result ∈ c.results ∧
    (row.data = result ∨ row.data = redact isAlnum result)

/-- A row about a check in the evidence of a collection is one of its results. -/
theorem Collection.collected (c : Collection lib) (isAlnum : Char → Bool)
    {incidentId collectedAt : String} {row : EvidenceRow}
    (h : row ∈ c.evidence incidentId collectedAt) (hkind : row.resourceType = "BusinessCheck")
    {checkId : String} (hid : row.data.hasText "check_id" checkId = true) :
    Collected lib isAlnum c.bundle.serviceProfile row := by
  obtain ⟨i, hi, rfl⟩ := List.mem_mapIdx.1 h
  have hmem := List.getElem_mem hi
  obtain ⟨item, hitem⟩ : ∃ item,
    (collectedItems { c.bundle with businessChecks := c.results })[i] = item := ⟨_, rfl⟩
  rw [hitem] at hmem
  simp only [hitem] at hkind hid ⊢
  obtain ⟨check, hcheck, hdata⟩ := mem_collectedItems hmem hkind
  refine ⟨rfl, c, check, rfl, hcheck, .inl ?_⟩
  show item.data = check
  rw [hdata] at hid ⊢
  split
  · rfl
  · rename_i hobject
    rw [if_neg hobject, hasText_iff] at hid
    have hnone : (none : Option Json) = some (.str checkId) := hid
    simp at hnone

/-- A row about a check that a tool returned is a redacted result. -/
theorem ToolCall.collected_row {isAlnum : Char → Bool} {snapshot : Json}
    (call : ToolCall lib isAlnum snapshot) {evidenceDigest : String → Nat → String}
    {row : EvidenceRow} (h : row ∈ adapt evidenceDigest call.result call.request call.ref)
    (hkind : row.resourceType = "BusinessCheck") : Collected lib isAlnum snapshot row := by
  obtain ⟨herror, htool, hcoverage, checks, hpayload, hmem⟩ := mem_adapt h hkind
  obtain ⟨c, hsnapshot, hresults⟩ := call.collected htool hcoverage
  rw [hpayload, redact, redactItems_eq_map] at hresults
  rw [Json.arr.inj (Option.some.inj hresults)] at hmem
  obtain ⟨result, hresult, hredacted⟩ := List.mem_map.1 hmem
  exact ⟨herror, c, result, hsnapshot, hresult, .inr hredacted.symm⟩

/-! ### From the verdict to the check -/

/-- What a check that counts as passed has: one row, bound to its target, that reports a
pass. -/
theorem businessVerdict_passed {profile : ServiceProfile} {service : Json}
    {evidence : List EvidenceRow} {check : BusinessCheckContract}
    (h : businessVerdict lib profile service evidence check = .passed) :
    ∃ row target, checkRows evidence check = [row] ∧
      buildTarget lib profile check service = .ok target ∧
      (row.data.get "target").canonical = target.canonical ∧
      row.data.hasText "status" "passed" = true := by
  unfold businessVerdict at h
  split at h
  · rename_i row hrows
    split at h
    · cases h
    · rename_i hvalid
      rw [Bool.not_eq_true, Bool.not_eq_false', rowValid] at hvalid
      split at h
      · rename_i hstatus
        split at hvalid
        · cases hvalid
        · rename_i target htarget
          simp only [Bool.and_eq_true, decide_eq_true_eq] at hvalid
          exact ⟨row, target, hrows, htarget, hvalid.2, hstatus⟩
      · split at h <;> cases h
  · cases h

/-- Facts in which business is passed are those of a matched profile, each of whose checks, of
which there are some, is passed. -/
theorem diagnosticFacts_passed {state : PolicyState}
    (h : (diagnosticFacts lib state).businessStatus = .passed) :
    ∃ profile, matchedProfile lib.toLibrary state = .ok profile ∧ profile.businessChecks ≠ [] ∧
      ∀ check ∈ profile.businessChecks, businessVerdict lib profile
        ((serviceInEvidence (state.evidence.filter fun e => e.error.isNone) state.request).elim
          (.obj []) (·.data)) (state.evidence.filter fun e => e.error.isNone) check = .passed := by
  unfold diagnosticFacts at h
  split at h
  · cases h
  · rename_i profile hprofile
    split at h
    · cases h
    · rename_i deployment rest hrows
      have hstatus : businessStatus (profile.businessChecks.map (businessVerdict lib profile
        ((serviceInEvidence (state.evidence.filter fun e => e.error.isNone) state.request).elim
          (.obj []) (·.data)) (state.evidence.filter fun e => e.error.isNone))) = .passed := h
      unfold businessStatus at hstatus
      split at hstatus
      · cases hstatus
      · split at hstatus
        · rename_i hall
          refine ⟨profile, hprofile, fun hnone => hall.1 (by rw [hnone]; rfl), fun check hcheck => ?_⟩
          exact hall.2 _ (List.mem_map_of_mem hcheck)
        · cases hstatus

/-- The rows about a check without an error are those about it, when none of them has one. -/
theorem checkRows_filter {evidence : List EvidenceRow} {check : BusinessCheckContract}
    (h : ∀ row ∈ checkRows evidence check, row.error = none) :
    checkRows (evidence.filter fun e => e.error.isNone) check = checkRows evidence check := by
  have hcomm : checkRows (evidence.filter fun e => e.error.isNone) check =
      (checkRows evidence check).filter fun e => e.error.isNone := by
    simp only [checkRows, rowsOf, List.filter_filter]
    congr 1
    funext e
    ac_rfl
  rw [hcomm, List.filter_eq_self]
  intro row hrow
  rw [h row hrow]
  rfl

/-- The characters of an identifier of a check do not make the mark of a redaction. -/
theorem not_mem_of_isCheckId {checkId : String} (h : isCheckId checkId = true) :
    '[' ∉ checkId.toList := by
  intro hmem
  simp only [isCheckId, isNameOf, Bool.and_eq_true, List.all_eq_true] at h
  have hchar := h.1.1.2 '[' hmem
  revert hchar
  decide

/-- A text of a row was the text of the result that the row is made of. -/
theorem text_of_row {isAlnum : Char → Bool} {row : EvidenceRow} {result : Json} {key text : String}
    (hrow : row.data = result ∨ row.data = redact isAlnum result)
    (hkey : isSensitiveKey key = false) (hmark : '[' ∉ text.toList)
    (h : row.data.hasText key text = true) : result.get? key = some (.str text) := by
  rw [hasText_iff] at h
  rcases hrow with hsame | hsame
  · rw [← hsame]
    exact h
  · rw [hsame] at h
    exact get?_of_redact hkey hmark h

/-- A member of the target of a row, as a value without parts: it was redacted from the member of
the target that was asked. -/
theorem member_of_row {isAlnum : Char → Bool} {row : EvidenceRow} {result asked target : Json}
    (key : String) (w : Json) (hrow : row.data = result ∨ row.data = redact isAlnum result)
    (hasked : (result.get "target").canonical = asked.canonical)
    (hbound : (row.data.get "target").canonical = target.canonical)
    (hkey : isSensitiveKey key = false) (htarget : target.get? key = some w) (hw : w.Plain) :
    ∃ u, (result.get "target").get? key = some u ∧ (u = w ∨ redact isAlnum u = w) ∧
      (u.Plain → asked.get? key = some u) := by
  have hmember := Json.get?_of_plain hbound htarget hw
  have hfound : ∃ u, (result.get "target").get? key = some u ∧
      (u = w ∨ redact isAlnum u = w) := by
    rcases hrow with hsame | hsame
    · rw [hsame] at hmember
      exact ⟨w, hmember, .inl rfl⟩
    · rw [hsame, Json.get, get?_redact _ (by decide)] at hmember
      cases hresult : result.get? "target" with
      | none =>
        rw [hresult] at hmember
        simp [Json.get?] at hmember
      | some v =>
        rw [hresult] at hmember
        have hredacted : (redact isAlnum v).get? key = some w := hmember
        rw [get?_redact v hkey] at hredacted
        obtain ⟨u, hu, hsame⟩ := Option.map_eq_some_iff.1 hredacted
        refine ⟨u, ?_, .inr hsame⟩
        rw [Json.get, hresult]
        exact hu
  obtain ⟨u, hu, hsame⟩ := hfound
  exact ⟨u, hu, hsame, fun hplain => Json.get?_of_plain hasked.symm hu hplain⟩

/-- A number that a redaction leaves was that number. -/
theorem eq_num_of_redact {isAlnum : Char → Bool} {u : Json} {n : Int}
    (h : u = .num n ∨ redact isAlnum u = .num n) : u = .num n := by
  rcases h with rfl | h
  · rfl
  · cases u <;> simp_all [redact]

/-- A text that a redaction leaves was that text, or has the mark. -/
theorem eq_str_of_redact {isAlnum : Char → Bool} {u : Json} {text : String}
    (h : u = .str text ∨ redact isAlnum u = .str text) :
    u = .str text ∨ (∃ s, u = .str s) ∧ redactionMark.toList <:+: text.toList := by
  rcases h with rfl | h
  · exact .inl rfl
  · cases u with
    | str s =>
      rw [redact] at h
      rcases redactText_eq_or_marked isAlnum s with hsame | hmarked
      · exact .inl (by rw [← h, hsame])
      · exact .inr ⟨⟨s, rfl⟩, by rw [← Json.str.inj h]; exact hmarked⟩
    | _ => simp [redact] at h

/-- Two collections under one snapshot have one profile. -/
theorem matchedProfile_eq {state state' : PolicyState} {profile profile' : ServiceProfile}
    (hsame : state.serviceProfile = state'.serviceProfile)
    (h : matchedProfile lib.toLibrary state = .ok profile)
    (h' : matchedProfile lib.toLibrary state' = .ok profile') : profile = profile' := by
  obtain ⟨⟨document, hdocument, hvalid⟩, -⟩ := matchedProfile_spec _ h
  obtain ⟨⟨document', hdocument', hvalid'⟩, -⟩ := matchedProfile_spec _ h'
  rw [hsame, hdocument'] at hdocument
  rw [Option.some.inj hdocument, hvalid] at hvalid'
  exact Option.some.inj hvalid'

/-- A check that counts as passed in evidence that was collected has been verified. -/
theorem checkPassed_of_collected {isAlnum : Char → Bool} {state : PolicyState}
    {profile : ServiceProfile} {check : BusinessCheckContract}
    (hrows : ∀ row ∈ state.evidence, row.resourceType = "BusinessCheck" →
      row.data.hasText "check_id" check.checkId = true →
      Collected lib isAlnum state.serviceProfile row)
    (hprofile : matchedProfile lib.toLibrary state = .ok profile)
    (hcheck : check ∈ profile.businessChecks)
    (h : businessVerdict lib profile
      ((serviceInEvidence (state.evidence.filter fun e => e.error.isNone) state.request).elim
        (.obj []) (·.data)) (state.evidence.filter fun e => e.error.isNone) check = .passed) :
    CheckPassed lib isAlnum state profile check := by
  have hcollected : ∀ row ∈ checkRows state.evidence check,
      Collected lib isAlnum state.serviceProfile row ∧
        row.data.hasText "check_id" check.checkId = true := by
    intro row hrow
    obtain ⟨hrow, hid⟩ := List.mem_filter.1 hrow
    obtain ⟨hmem, hkind⟩ := List.mem_filter.1 hrow
    exact ⟨hrows row hmem (of_decide_eq_true hkind) hid, hid⟩
  obtain ⟨row, target, hone, htarget, hbound, hstatus⟩ := businessVerdict_passed h
  rw [checkRows_filter fun row hrow => (hcollected row hrow).1.1] at hone
  obtain ⟨⟨-, c, result, hsnapshot, hresult, hdata⟩, hid⟩ :=
    hcollected row (by rw [hone]; exact List.mem_cons_self)
  have hpassed := text_of_row hdata (by decide) (by decide) hstatus
  have hcheckId := text_of_row hdata (by decide)
    (not_mem_of_isCheckId (buildTarget_spec htarget).2) hid
  obtain ⟨profile', check', hprofile', hverified⟩ :=
    collectBusinessChecks_verified c.honest hresult hpassed
  simp only [collectionProfile, bind_eq_ok, raiseIf_eq_ok, pure_eq_ok] at hprofile'
  obtain ⟨profile'', hmatched, -, -, -, -, rfl⟩ := hprofile'
  obtain rfl : profile = profile'' := matchedProfile_eq hsnapshot.symm hprofile hmatched
  obtain rfl : check = check' := by
    have hsame : check.checkId = check'.checkId := by
      have hboth := hverified.check_id
      rw [hcheckId] at hboth
      exact Json.str.inj (Option.some.inj hboth)
    exact List.inj_on_of_nodup_map profile.ids_nodup hcheck hverified.registered hsame
  cases hservice : serviceInEvidence (state.evidence.filter fun e => e.error.isNone)
      state.request with
  | none =>
    rw [hservice] at htarget
    simp [buildTarget, Json.hasText, Json.get?, raiseIf, bind, Except.bind] at htarget
  | some service =>
    rw [hservice] at htarget
    obtain ⟨asked, hasked, hsame⟩ := hverified.target
    obtain ⟨⟨n, hn⟩, -⟩ := buildTarget_spec htarget
    refine ⟨service, target, row, hservice, htarget, hone, hstatus, hbound, c, result, hsnapshot,
      hresult, hdata, hverified, asked, hasked, ?_, fun address haddress => ?_⟩
    · obtain ⟨u, -, hu, hplain⟩ := member_of_row "port" (.num n) hdata hsame hbound
        (by decide) (by rw [hn]; rfl) trivial
      obtain rfl := eq_num_of_redact hu
      rw [Json.get, hplain trivial, hn]
      rfl
    · obtain ⟨u, -, hu, hplain⟩ := member_of_row "cluster_ip" (.str address) hdata hsame
        hbound (by decide) (by rw [← haddress, hn]; rfl) trivial
      rcases eq_str_of_redact hu with rfl | ⟨-, hmarked⟩
      · left
        rw [Json.get, hplain trivial]
        rfl
      · exact .inr hmarked

/-- **Business-check verdicts are sound**: when the facts of a state that was collected say
that business has passed, the profile of the state is matched, it has registered checks, and
each of them was made and passed. -/
theorem business_passed_verified {isAlnum : Char → Bool} (c : Collection lib)
    (incidentId collectedAt : String) (request : Json)
    (evidenceDigest : String → Nat → String) (observations : List EvidenceRow)
    (hobservations : ∀ row ∈ observations,
      ∃ call : ToolCall lib isAlnum c.bundle.serviceProfile,
        row ∈ adapt evidenceDigest call.result call.request call.ref)
    (hpassed : (diagnosticFacts lib (currentState lib.instant
      ⟨request, c.bundle.serviceProfile, c.evidence incidentId collectedAt⟩
      observations)).businessStatus = .passed) :
    ∃ profile, matchedProfile lib.toLibrary (currentState lib.instant
        ⟨request, c.bundle.serviceProfile, c.evidence incidentId collectedAt⟩ observations) =
          .ok profile ∧ profile.businessChecks ≠ [] ∧
      ∀ check ∈ profile.businessChecks, CheckPassed lib isAlnum (currentState lib.instant
        ⟨request, c.bundle.serviceProfile, c.evidence incidentId collectedAt⟩ observations)
        profile check := by
  obtain ⟨profile, hprofile, hsome, hall⟩ := diagnosticFacts_passed hpassed
  refine ⟨profile, hprofile, hsome, fun check hcheck =>
    checkPassed_of_collected ?_ hprofile hcheck (hall check hcheck)⟩
  intro row hrow hkind hid
  rcases mem_activeEvidence hrow with hbaseline | hobserved
  · exact c.collected isAlnum hbaseline hkind hid
  · obtain ⟨call, hcall⟩ := hobservations row hobserved
    exact call.collected_row hcall hkind

end

/-! ### A collection that passes -/

/-- A profile with one check: the document at the root has `"ok": true`. -/
def rootProfile : ServiceProfile where
  profileId := "root"
  revision := "1"
  namespaceName := "demo"
  serviceName := "web"
  deploymentName := "web"
  containerName := "web"
  team := "team"
  contact := "contact"
  configSource := "source"
  application := ⟨"1", "app.kubernetes.io/version", SortedMap.ofList [("web", "web:1")]⟩
  expectedSelector := SortedMap.ofList [("app", "web")]
  expectedReplicas := none
  readinessProbe := ⟨"/", .number 80, "HTTP"⟩
  livenessProbe := ⟨"/", .number 80, "HTTP"⟩
  businessChecks := [
    { path := "/"
      port := .number 80
      scheme := "HTTP"
      checkId := "root"
      expectedStatus := 200
      expectedJsonSubset := SortedMap.ofList [("ok", .bool true)]
      timeoutSeconds := 3
      maxResponseBytes := 16 }]
  ids_nodup := by decide

/-- A library in which the profile is the only one, each digest is the same, and each document
of an application is `{"ok": true}`. -/
def rootLibrary : CheckLibrary where
  digest _ := "0123456789abcdef0123456789abcdef0123456789abcdef0123456789abcdef"
  modelValidate _ := some rootProfile
  ipAddress _ := .ok ⟨"10.0.0.1", false, false, false, false⟩
  instant _ := none
  loads _ := some (.obj [("ok", .bool true)])
  pyStr _ := ""
  sha256 _ := ""

/-- A Deployment that matches the profile. -/
def rootDeployment : Json :=
  .obj [("namespace", .str "demo"), ("name", .str "web"), ("uid", .str "uid"),
    ("generation", .num 1),
    ("template_labels", .obj [("app.kubernetes.io/version", .str "1"), ("app", .str "web")]),
    ("containers", .arr [.obj [("name", .str "web"), ("image", .str "web:1")]])]

/-- A bundle with the Service of the profile. -/
def rootBundle : Bundle :=
  { (default : Bundle) with
    namespaceName := "demo"
    serviceName := "web"
    service := .obj [("namespace", .str "demo"), ("name", .str "web"),
      ("service_type", .str "ClusterIP"), ("cluster_ip", .str "10.0.0.1"),
      ("ports", .arr [.obj [("port", .num 80)]])]
    deployments := [("web", rootDeployment)]
    serviceProfile := makeSnapshot rootLibrary.toLibrary rootProfile rootDeployment }

/-- A checker with the target of the check, and an application that answers. -/
def rootChecker : CheckerState where
  config := match buildTarget rootLibrary rootProfile (rootProfile.businessChecks.headD default)
      rootBundle.service with
    | .ok target => some (.obj [("targets", .arr [target])])
    | .error _ => none
  busy := false
  attempt := ⟨some ⟨.ok [.str "10.0.0.1"], .ok 200, .ok [0], "", 0⟩, "", 0⟩
  pod := "pod"
  podUid := "uid"

/-- A world in which what the checker answers arrives. -/
def rootWorld : CollectionWorld where
  collectedAt := ""
  loaded := .ok rootProfile
  answers checkId :=
    let nonce := "0123456789abcdef0123456789abcdef"
    let reply := doGet rootLibrary rootChecker (profileDigest rootLibrary.toLibrary rootProfile)
      checkId nonce
    ⟨true, nonce, rootChecker, .ok ⟨reply.1, 0, .ok reply.2⟩⟩
  freshService := .ok rootBundle.service
  freshLoaded := .ok rootProfile
  freshDeployment := .ok rootDeployment

/-- The collection in that world. -/
def rootCollection : Collection rootLibrary where
  bundle := rootBundle
  world := rootWorld
  honest := by
    rintro profile check target - - htarget response document hwire hdocument
    obtain ⟨⟨port, rfl⟩, -⟩ := buildTarget_spec htarget
    obtain rfl := Except.ok.inj hwire
    obtain rfl := Except.ok.inj hdocument
    rfl

/-- The business of the collection has passed. -/
theorem business_passed_verified_root : ∃ profile,
    matchedProfile rootLibrary.toLibrary (currentState rootLibrary.instant
      ⟨.obj [("namespace", .str "demo"), ("service_name", .str "web")],
        rootBundle.serviceProfile, rootCollection.evidence "incident" ""⟩ []) = .ok profile ∧
      profile.businessChecks ≠ [] ∧ ∀ check ∈ profile.businessChecks,
        CheckPassed rootLibrary Char.isAlphanum (currentState rootLibrary.instant
          ⟨.obj [("namespace", .str "demo"), ("service_name", .str "web")],
            rootBundle.serviceProfile, rootCollection.evidence "incident" ""⟩ []) profile check :=
  business_passed_verified rootCollection "incident" ""
    (.obj [("namespace", .str "demo"), ("service_name", .str "web")]) (fun _ _ => "") []
    (fun _ h => nomatch h) (by decide +kernel)

end IncidentAgent
