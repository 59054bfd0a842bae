import IncidentAgent.Policy.WriteGate
import IncidentAgent.Recovery.Polling
import IncidentAgent.Recovery.View

/-!
# The verdict after a repair

A repair is reported as a recovery only after two verifications, one after the other: the
resources have been polled until they are as the plan wants them (`verifyResources`), and one
fresh collection shows that the object that was written is the one of the diagnosis, that nobody
else has edited it, that the resources are ready without drift or fault, and that the registered
business checks pass (`judgeRecovery`). An exception in the second verification is a failure, and
the evidence that was collected until then is kept.

What the verdict `succeeded` is worth is `Recovered`; that it takes nothing from the evidence of
the diagnosis is a part of the same theorem.
-/

namespace IncidentAgent

/-- What a collector returns, with the errors it has met. -/
structure FreshBundle extends Bundle where
  errors : List Json

/-- The world of a verification: the polling of the resources, what the collection returns, and
the identifier and the times that are written down. -/
structure RecoveryWorld extends PollWorld where
  collection : Except Raised FreshBundle
  incidentId : String
  collectedAt : String
  verifiedAt : String

/-- `RecoveryVerificationResult`. -/
structure RecoveryVerification extends ResourceVerification where
  verificationScope : String
  resourceVerificationStatus : VerificationStatus
  resourceStatus : ResourceStatus
  businessStatus : BusinessStatus
  unverifiedScope : List String
  postRepairEvidence : List EvidenceRow
  postRepairProfile : Option Json
  postRepairCollectionErrors : List Json

/-! ### The object that was written -/

/-- The generation that the Deployment has to have. A result with an identity says it; of one
without, it is inferred. -/
def expectedGeneration (original : Json) (result : ActionExecutionResult) : Json :=
  let generation := original.get "deployment_generation"
  let inferred := if result.action = .patchReadinessProbe ∧ result.appliedPatch ≠ [] then
      match generation with
      | .num n => .num (n + 1)
      | _ => .null
    else generation
  match result.afterSnapshot with
  | some response =>
    if present response.uid ∧ result.action = .patchReadinessProbe then
      response.generation.elim .null .num
    else inferred
  | none => inferred

/-- Whether a value is an integer, and no truth value. -/
def isInteger : Json → Bool
  | .num _ => true
  | _ => false

/-- `ValueError("RECOVERY_TARGET_CHANGED_OR_UNBOUND")`. -/
def recoveryTargetChanged : Raised := valueError "RECOVERY_TARGET_CHANGED_OR_UNBOUND"

/-- The object that the write answered for is the one that was collected. -/
def checkResponse (snapshot service : Json) (result : ActionExecutionResult) :
    Except Raised PUnit :=
  match result.afterSnapshot with
  | some response =>
    raiseIf (present response.uid ∧
      textOr response.uid ≠
        if result.action = .patchReadinessProbe then snapshot.get "deployment_uid"
        else service.get "uid") recoveryTargetChanged
  | none => .ok ⟨⟩

/-- The Deployment that was collected is the one of the diagnosis, with the same registration,
and in the generation that is expected. -/
def checkOriginal (original snapshot : Json) (result : ActionExecutionResult) :
    Except Raised PUnit :=
  raiseIf (¬(snapshot.hasText "status" "matched" ∧ (original.get "digest").truthy ∧
      (original.get "deployment_uid").truthy ∧
      (snapshot.get "digest").pyEq (original.get "digest") ∧
      (snapshot.get "deployment_uid").pyEq (original.get "deployment_uid") ∧
      isInteger (expectedGeneration original result) ∧
      (snapshot.get "deployment_generation").pyEq (expectedGeneration original result)))
    recoveryTargetChanged

/-! ### The judgement -/

/-- The evidence of a fresh collection. -/
def RecoveryWorld.evidence (world : RecoveryWorld) (bundle : FreshBundle) : List EvidenceRow :=
  normalizeEvidence world.incidentId world.collectedAt bundle.toBundle

/-- The state that a fresh collection is judged in. -/
def freshState (world : RecoveryWorld) (state : RepairState) (bundle : FreshBundle) :
    PolicyState :=
  ⟨state.request, bundle.serviceProfile, world.evidence bundle⟩

/-- The facts of a fresh collection, and the pods that were left out. -/
def judgeRecovery (lib : PolicyLibrary) (world : RecoveryWorld) (state : RepairState)
    (result : ActionExecutionResult) (bundle : FreshBundle) :
    Except Raised (DiagnosticFacts × List String) := do
  checkResponse bundle.serviceProfile bundle.service result
  checkOriginal state.serviceProfile bundle.serviceProfile result
  raiseIf (state.request.get? "namespace" = none ∨ state.request.get? "service_name" = none)
    ⟨"KeyError", none, none⟩
  let view := recoveryResourceView lib.toLibrary (freshState world state bundle)
  let facts ← diagnosticFactsOf lib.toCheckLibrary view.1
  pure (facts, view.2)

/-- `resource_ok`. -/
def DiagnosticFacts.recovered (facts : DiagnosticFacts) : Bool :=
  facts.resourceStatus = .ready && facts.readinessConfigurationStatus = .matched &&
    !facts.selectorDrift && !facts.readinessDrift && facts.currentRuntimeFaults.isEmpty

/-- The text of a status of a configuration. -/
def ConfigurationStatus.value : ConfigurationStatus → String
  | .unknown => "unknown"
  | .drift => "drift"
  | .matched => "matched"

/-- The checks that a judgement adds. -/
def recoveryChecks (facts : DiagnosticFacts) (terminating : List String) :
    List VerificationCheck :=
  (if terminating = [] then []
    else [⟨"terminating_pods_classified", true, .arr (terminating.map .str),
      .str "matching endpoints: terminating=true, ready=false, serving=false",
      "已识别退出中且不服务的 Pod；原始证据保留，最终清理未验证。"⟩]) ++
  (match facts.expectedReplicas with
    | none => []
    | some expected => [⟨"registered_replica_count", facts.replicaCountMatches = some true,
      facts.observedDesiredReplicas, .num expected,
      "现场期望副本数须符合登记契约；本工具不自动扩缩容。"⟩]) ++
  [⟨"registered_readiness_configuration", facts.readinessConfigurationStatus = .matched,
      .str facts.readinessConfigurationStatus.value, .str "matched",
      "核对登记 HTTP 探针的 path、port、scheme；证据不足不视为一致。"⟩,
    ⟨"post_repair_resources", facts.recovered, .str facts.resourceStatus.value,
      .str "ready without current drift/fault", "处置后重新采集的登记资源状态。"⟩,
    ⟨"registered_business_checks", facts.businessStatus = .passed,
      .str facts.businessStatus.value, .str "passed",
      "仅评价本次登记 Service 接口检查，不覆盖全部业务。"⟩]

/-! ### The verification -/

/-- `UNVERIFIED_SCOPE`. -/
def unverifiedScope : List String :=
  ["集群外入口流量", "未登记业务接口", "所有副本逐一业务验证", "本次采样之后的持续可用性"]

/-- A result before the collection. -/
def ResourceVerification.unjudged (r : ResourceVerification) : RecoveryVerification :=
  { r with
    verificationScope := "resources_and_registered_business"
    resourceVerificationStatus := r.status
    resourceStatus := .unknown
    businessStatus := .skipped
    unverifiedScope := unverifiedScope
    postRepairEvidence := []
    postRepairProfile := none
    postRepairCollectionErrors := [] }

/-- A result with the observation of a collection. -/
def RecoveryVerification.observing (r : RecoveryVerification) (world : RecoveryWorld)
    (bundle : FreshBundle) : RecoveryVerification :=
  { r with
    postRepairEvidence := world.evidence bundle
    postRepairProfile :=
      some (if bundle.serviceProfile.truthy then bundle.serviceProfile else .obj [])
    postRepairCollectionErrors := bundle.errors }

/-- A result whose verification has raised. -/
def RecoveryVerification.raised (r : RecoveryVerification) (error : Raised) :
    RecoveryVerification :=
  { r with
    status := .failed
    resourceStatus := .unknown
    businessStatus := .unknown
    errorCode := some "POST_REPAIR_OBSERVATION_INVALID"
    errorMessage := some (error.errorType ++ ": " ++
      String.ofList ((error.detail.getD "").toList.take 300))
    message := "无法取得与本次处置目标一致的有效恢复观察；未确认业务恢复。" }

/-- `error_code` of a judgement. -/
def recoveryError (facts : DiagnosticFacts) : Option String :=
  if facts.recovered = true ∧ facts.businessStatus = .passed then none
  else if facts.recovered = false then some "POST_REPAIR_RESOURCES_NOT_READY"
  else if facts.businessStatus = .failed then some "POST_REPAIR_BUSINESS_FAILED"
  else some "POST_REPAIR_BUSINESS_UNKNOWN"

/-- A result with a judgement. -/
def RecoveryVerification.judged (r : RecoveryVerification)
    (judgement : DiagnosticFacts × List String) : RecoveryVerification :=
  let success : Bool := judgement.1.recovered && judgement.1.businessStatus = .passed
  let message := if success then "资源复查及登记业务检查通过；仅限本次采样范围。"
    else "未确认恢复：请分别查看资源复查和登记业务检查结果。"
  { r with
    unverifiedScope := r.unverifiedScope ++ if judgement.2 = [] then []
      else ["退出中 Pod 的最终删除与清理：" ++ ", ".intercalate judgement.2]
    checks := r.checks ++ recoveryChecks judgement.1 judgement.2
    resourceStatus := judgement.1.resourceStatus
    businessStatus := judgement.1.businessStatus
    status := if success then .succeeded else .failed
    errorCode := recoveryError judgement.1
    message := message
    errorMessage := if success then none else some message }

/-- The second verification. -/
def recoverFrom (lib : PolicyLibrary) (world : RecoveryWorld) (state : RepairState)
    (resource : ResourceVerification) : RecoveryVerification :=
  match world.collection, state.actionResult with
  | .error error, _ => resource.unjudged.raised error
  | .ok bundle, none =>
    (resource.unjudged.observing world bundle).raised ⟨"KeyError", none, some "'action_result'"⟩
  | .ok bundle, some result =>
    match judgeRecovery lib world state result bundle with
    | .error error => (resource.unjudged.observing world bundle).raised error
    | .ok judgement => (resource.unjudged.observing world bundle).judged judgement

/-- `BusinessRecoveryVerifier.verify`, after the polling of the resources in a number of
attempts. -/
def verifyRecovery (lib : PolicyLibrary) (world : RecoveryWorld) (attempts : Nat)
    (state : RepairState) : Option RecoveryVerification :=
  (verifyResources world.toPollWorld attempts state).map fun resource =>
    if resource.status = .succeeded then
      { recoverFrom lib world state resource with finishedAt := world.verifiedAt }
    else { resource.unjudged with
      unverifiedScope := unverifiedScope ++ ["处置后的登记业务检查（资源验证未通过）"] }

/-! ### What a verdict rests on -/

/-- A verdict `succeeded` rests on a successful verification of the resources, and on a judgement
that finds them recovered and the business checks passed. -/
theorem verifyRecovery_succeeded {lib : PolicyLibrary} {world : RecoveryWorld} {attempts : Nat}
    {state : RepairState} {r : RecoveryVerification}
    (h : verifyRecovery lib world attempts state = some r) (hstatus : r.status = .succeeded) :
    ∃ resource result bundle judgement,
      verifyResources world.toPollWorld attempts state = some resource ∧
      resource.status = .succeeded ∧ state.actionResult = some result ∧
      world.collection = .ok bundle ∧
      judgeRecovery lib world state result bundle = .ok judgement ∧
      judgement.1.recovered = true ∧ judgement.1.businessStatus = .passed ∧
      r.checks = resource.checks ++ recoveryChecks judgement.1 judgement.2 := by
  obtain ⟨resource, hresource, rfl⟩ := Option.map_eq_some_iff.1 h
  split at hstatus
  · rename_i hsucceeded
    rw [if_pos hsucceeded]
    unfold recoverFrom at hstatus ⊢
    cases hcollection : world.collection with
    | error error =>
      simp only [hcollection] at hstatus
      cases hstatus
    | ok bundle =>
      cases hresult : state.actionResult with
      | none =>
        simp only [hcollection, hresult] at hstatus
        cases hstatus
      | some result =>
        cases hjudged : judgeRecovery lib world state result bundle with
        | error error =>
          simp only [hcollection, hresult, hjudged] at hstatus
          cases hstatus
        | ok judgement =>
          simp only [hcollection, hresult, hjudged, RecoveryVerification.judged] at hstatus ⊢
          split at hstatus
          · rename_i hsuccess
            rw [Bool.and_eq_true, decide_eq_true_eq] at hsuccess
            exact ⟨resource, result, bundle, judgement, hresource, hsucceeded, rfl, rfl, hjudged,
              hsuccess.1, hsuccess.2, rfl⟩
          · cases hstatus
  · rename_i hother
    exact absurd hstatus hother

/-- Resources that are ready have the registered number of replicas. -/
theorem factsOf_replicas {lib : CheckLibrary} {state : PolicyState} {profile : ServiceProfile}
    {row : EvidenceRow} (h : (factsOf lib state profile row).resourceStatus = .ready)
    {expected : Int} (hexpected : profile.expectedReplicas = some expected) :
    (factsOf lib state profile row).replicaCountMatches = some true := by
  obtain ⟨n, hdesired, hnot, -⟩ := ResourceView.status_eq_ready h
  have hn : row.data.get "desired_replicas" = .num n := hdesired
  simp only [ResourceView.isNotReady, Bool.or_eq_false_iff, hexpected, hn] at hnot
  obtain ⟨⟨⟨⟨⟨⟨-, hcount⟩, -⟩, -⟩, -⟩, -⟩, -⟩ := hnot
  simp only [factsOf, hexpected, hn]
  by_cases hsame : n = expected
  · rw [decide_eq_true hsame]
  · simp [hsame] at hcount

/-- Resources that are ready have a Service that is valid. -/
theorem factsOf_service {lib : CheckLibrary} {state : PolicyState} {profile : ServiceProfile}
    {row : EvidenceRow} (h : (factsOf lib state profile row).resourceStatus = .ready) :
    ∃ service, serviceInEvidence (state.evidence.filter fun e => e.error.isNone) state.request =
      some service ∧ serviceValid state.request service.data = true := by
  obtain ⟨n, -, -, hready⟩ := ResourceView.status_eq_ready h
  simp only [ResourceView.isReady, Bool.and_eq_true] at hready
  exact exists_of_serviceValid hready.1.1.1.1

/-- The checks of a judgement that finds a recovery have passed. -/
theorem recoveryChecks_passed {lib : CheckLibrary} {state : PolicyState} {profile : ServiceProfile}
    {row : EvidenceRow} (h : (factsOf lib state profile row).recovered = true)
    (hbusiness : (factsOf lib state profile row).businessStatus = .passed)
    {terminating : List String} {check : VerificationCheck}
    (hcheck : check ∈ recoveryChecks (factsOf lib state profile row) terminating) :
    check.passed = true := by
  have hparts := h
  simp only [DiagnosticFacts.recovered, Bool.and_eq_true, decide_eq_true_eq] at hparts
  obtain ⟨⟨⟨⟨hready, hmatched⟩, -⟩, -⟩, -⟩ := hparts
  simp only [recoveryChecks, List.mem_append] at hcheck
  rcases hcheck with (hcheck | hcheck) | hcheck
  · split at hcheck
    · cases hcheck
    · rw [List.mem_singleton.1 hcheck]
  · split at hcheck
    · cases hcheck
    · rename_i expected hexpected
      rw [List.mem_singleton.1 hcheck]
      exact decide_eq_true (factsOf_replicas hready hexpected)
  · simp only [List.mem_cons, List.not_mem_nil, or_false] at hcheck
    rcases hcheck with rfl | rfl | rfl
    · exact decide_eq_true hmatched
    · exact h
    · exact decide_eq_true hbusiness

/-! ### The rows of a fresh collection -/

/-- The rows of a collection have no error. -/
theorem normalizeEvidence_error {incidentId collectedAt : String} {bundle : Bundle}
    {row : EvidenceRow} (h : row ∈ normalizeEvidence incidentId collectedAt bundle) :
    row.error = none := by
  obtain ⟨i, hi, rfl⟩ := List.mem_mapIdx.1 h
  rfl

/-- The row of a Service in a collection is the Service of the bundle. -/
theorem normalizeEvidence_service {incidentId collectedAt : String} {bundle : Bundle}
    {row : EvidenceRow} (h : row ∈ normalizeEvidence incidentId collectedAt bundle)
    (hkind : row.resourceType = "Service") :
    row.data = if bundle.service.isObject then bundle.service
      else .obj [("value", bundle.service)] := by
  obtain ⟨i, hi, rfl⟩ := List.mem_mapIdx.1 h
  have hmem := List.getElem_mem hi
  obtain ⟨item, hitem⟩ : ∃ item, (collectedItems bundle)[i] = item := ⟨_, rfl⟩
  rw [hitem] at hmem
  simp only [hitem] at hkind ⊢
  simp only [collectedItems, List.mem_append, List.mem_map, List.mem_mapIdx] at hmem
  rcases hmem with ((((((((hmem | hmem) | hmem) | hmem) | hmem) | hmem) | hmem) | hmem) | hmem) |
    hmem
  · split at hmem
    · rw [List.mem_singleton.1 hmem]
      rfl
    · cases hmem
  · split at hmem
    · rw [List.mem_singleton.1 hmem] at hkind
      simp [kubernetesItem] at hkind
    · cases hmem
  all_goals
    obtain ⟨_, _, rfl⟩ := hmem
    simp [kubernetesItem] at hkind

/-- The row of the requested Service is the only one of its name. -/
theorem rowsNamed_of_serviceInEvidence {evidence : List EvidenceRow} {request : Json}
    {name : String} {row : EvidenceRow} (hname : request.hasText "service_name" name = true)
    (h : serviceInEvidence evidence request = some row) :
    rowsNamed evidence "Service" name = [row] := by
  have hrows : (evidence.filter fun e => e.resourceType = "Service" &&
      request.hasText "service_name" e.resourceName) = rowsNamed evidence "Service" name := by
    refine List.filter_congr fun e _ => ?_
    congr 1
    rw [Bool.eq_iff_iff, decide_eq_true_eq, hasText_iff, hasText_iff.1 hname, Option.some.injEq,
      Json.str.injEq]
    exact eq_comm
  unfold serviceInEvidence at h
  rw [hrows] at h
  split at h
  · rename_i row' honly
    rw [honly, Option.some.inj h]
  · cases h

/-- A row that only an evidence without errors has under its name in a view is the only one of
the evidence. -/
theorem rowsNamed_of_view {lib : Library} {state : PolicyState} {kind name : String}
    {rows : List EvidenceRow} (hkind : kind ≠ "PodStatus")
    (herror : ∀ row ∈ state.evidence, row.error = none)
    (h : rowsNamed ((recoveryResourceView lib state).1.evidence.filter fun e => e.error.isNone)
      kind name = rows) : rowsNamed state.evidence kind name = rows := by
  rw [← h, rowsNamed, rowsNamed, List.filter_filter, recoveryResourceView_rows]
  · refine List.filter_congr fun row hrow => ?_
    rw [herror row hrow]
    simp
  · intro row hrow hpod
    simp only [Bool.and_eq_true, decide_eq_true_eq] at hrow
    exact hkind (hrow.1.1.symm.trans hpod)

/-! ### The theorem -/

/-- **What a recovery shows**, for the result of the write, the profile, the row of the object
that was written, and the facts of a fresh collection. -/
structure Recovered (lib : PolicyLibrary) (world : RecoveryWorld) (state : RepairState)
    (plan : RemediationPlan) (after : ResourceSnapshot) (r : RecoveryVerification)
    (bundle : FreshBundle) (profile : ServiceProfile) (row deployment : EvidenceRow)
    (facts : DiagnosticFacts) : Prop where
  collected : world.collection = .ok bundle
  /-- The fresh profile is matched, with the digest and the Deployment of the diagnosis. -/
  matched : ProfileMatches lib.toLibrary
    (recoveryResourceView lib.toLibrary (freshState world state bundle)).1 profile deployment
  digest : (bundle.serviceProfile.get "digest").pyEq (state.serviceProfile.get "digest") = true
  deployment_uid : (bundle.serviceProfile.get "deployment_uid").pyEq
    (state.serviceProfile.get "deployment_uid") = true
  /-- The object that was written has the identity that the write answered with. -/
  only : rowsNamed (world.evidence bundle) plan.parameters.resourceKind.value
    plan.parameters.resourceName = [row]
  uid : row.data.get "uid" = textOr after.uid
  /-- The Deployment has the generation of that answer, or the diagnosed one. -/
  generation : ∃ n : Int, (if plan.action = .patchReadinessProbe then
      after.generation.elim Json.null .num
    else state.serviceProfile.get "deployment_generation") = .num n ∧
    (bundle.serviceProfile.get "deployment_generation").pyEq (.num n) = true ∧
    (deployment.data.get "generation").pyEq (.num n) = true
  /-- The object is in the configuration that the plan wants. -/
  configuration : row.Shows (desiredConfiguration plan)
  facts_eq : diagnosticFacts lib.toCheckLibrary
    (recoveryResourceView lib.toLibrary (freshState world state bundle)).1 = facts
  ready : facts.resourceStatus = .ready
  selector : facts.selectorDrift = false
  readiness : facts.readinessDrift = false
  runtime : facts.currentRuntimeFaults = []
  business : facts.businessStatus = .passed
  /-- Every check has passed. -/
  checks : ∀ check ∈ r.checks, check.passed = true

theorem get_of_hasText {v : Json} {key text : String} (h : v.hasText key text = true) :
    v.get key = .str text := by
  rw [Json.get, hasText_iff.1 h]
  rfl

/-- Only a text is equal to a text. -/
theorem eq_str_of_pyEq {v : Json} {text : String} (h : v.pyEq (.str text) = true) :
    v = .str text := by
  have hsame : v.unbool.canonical = .str text := of_decide_eq_true h
  cases v with
  | str s => exact hsame
  | _ => cases hsame

/-- Profiles of one digest register the same resources. -/
theorem sameResources_of_digest {lib : Library} {snapshot snapshot' : Json}
    {profile profile' : ServiceProfile}
    (hdigest : ∀ v w, lib.digest v = lib.digest w → v.canonical = w.canonical)
    (h : snapshot.hasText "digest" (profileDigest lib profile) = true)
    (h' : snapshot'.hasText "digest" (profileDigest lib profile') = true)
    (hsame : (snapshot'.get "digest").pyEq (snapshot.get "digest") = true) :
    profile.SameResources profile' := by
  rw [get_of_hasText h, get_of_hasText h'] at hsame
  exact ServiceProfile.sameResources_of_payload
    (hdigest _ _ (Json.str.inj (eq_str_of_pyEq hsame)).symm)

/-- A probe that is as registered is shown by the row of its Deployment. -/
theorem shows_of_matched {profile : ServiceProfile} {row : EvidenceRow}
    (h : (readinessConfigurationFacts (registeredContainer profile row.data)
      profile.readinessProbe).1 = .matched) :
    row.Shows (registeredConfiguration profile .patchReadinessProbe) := by
  have hfind : ((row.data.get "containers").items.find? fun c =>
      c.hasText "name" profile.containerName) =
        (row.data.get "containers").items.find? fun c =>
          c.get "name" = textOr (some profile.containerName) := by
    congr 1
    funext c
    rw [Bool.eq_iff_iff, decide_eq_true_eq]
    refine ⟨get_of_hasText, fun hname => hasText_iff.2 ?_⟩
    cases hget : c.get? "name" with
    | none =>
      rw [Json.get, hget] at hname
      cases hname
    | some v =>
      rw [Json.get, hget] at hname
      exact congrArg some hname
  unfold registeredContainer at h
  rw [hfind] at h
  cases hcontainer : (row.data.get "containers").items.find? fun c =>
      c.get "name" = textOr (some profile.containerName) with
  | none =>
    rw [hcontainer] at h
    simp [readinessConfigurationFacts, Json.get?] at h
  | some container =>
    rw [hcontainer, Option.getD_some] at h
    refine ⟨container, hcontainer, ?_⟩
    unfold readinessConfigurationFacts at h
    split at h
    · cases h
    · cases h
    · rename_i probe hnull hprobe
      have hget : container.get "readiness_probe" = probe := by
        rw [Json.get, hprobe]
        rfl
      rw [hget]
      split at h
      · cases h
      · simp only [ite_eq_left_iff, reduceCtorEq, imp_false, not_not, Bool.and_eq_true,
          decide_eq_true_eq] at h
        exact ⟨h.2.1, h.2.2⟩

theorem Json.pyEq_comm {v w : Json} (h : v.pyEq w = true) : w.pyEq v = true :=
  decide_eq_true (of_decide_eq_true h).symm

theorem Json.pyEq_trans {u v w : Json} (h : u.pyEq v = true) (h' : v.pyEq w = true) :
    u.pyEq w = true :=
  decide_eq_true ((of_decide_eq_true h).trans (of_decide_eq_true h'))

/-- The generation that is expected after a write with an identity. -/
theorem expectedGeneration_eq {original : Json} {result : ActionExecutionResult}
    {after : ResourceSnapshot} (hafter : result.afterSnapshot = some after)
    (huid : present after.uid = true) :
    expectedGeneration original result = if result.action = .patchReadinessProbe then
      after.generation.elim Json.null .num else original.get "deployment_generation" := by
  simp only [expectedGeneration, hafter, huid, true_and]
  split
  · rfl
  · rename_i hother
    rw [if_neg fun hboth => hother hboth.1]

/-- What a judgement has checked of the object that was written. -/
theorem judgeRecovery_eq_ok {lib : PolicyLibrary} {world : RecoveryWorld} {state : RepairState}
    {result : ActionExecutionResult} {bundle : FreshBundle} {after : ResourceSnapshot}
    {judgement : DiagnosticFacts × List String} (hafter : result.afterSnapshot = some after)
    (huid : present after.uid = true)
    (h : judgeRecovery lib world state result bundle = .ok judgement) :
    textOr after.uid = (if result.action = .patchReadinessProbe then
        bundle.serviceProfile.get "deployment_uid" else bundle.service.get "uid") ∧
      (bundle.serviceProfile.get "digest").pyEq (state.serviceProfile.get "digest") = true ∧
      (bundle.serviceProfile.get "deployment_uid").pyEq
        (state.serviceProfile.get "deployment_uid") = true ∧
      (∃ n : Int, (if result.action = .patchReadinessProbe then
          after.generation.elim Json.null .num
        else state.serviceProfile.get "deployment_generation") = .num n ∧
        (bundle.serviceProfile.get "deployment_generation").pyEq (.num n) = true) ∧
      diagnosticFactsOf lib.toCheckLibrary
        (recoveryResourceView lib.toLibrary (freshState world state bundle)).1 =
          .ok judgement.1 := by
  simp only [judgeRecovery, checkResponse, hafter, checkOriginal, bind_eq_ok, raiseIf_eq_ok,
    not_not, pure_eq_ok, huid, true_and, expectedGeneration_eq hafter huid] at h
  obtain ⟨-, hresponse, -, ⟨-, -, -, hdigest, hdeployment, hinteger, hgeneration⟩, -, -, facts,
    hfacts, rfl⟩ := h
  refine ⟨hresponse, hdigest, hdeployment, ?_, hfacts⟩
  cases hexpected : (if result.action = .patchReadinessProbe then
      after.generation.elim Json.null .num
    else state.serviceProfile.get "deployment_generation") with
  | num n =>
    rw [hexpected] at hgeneration
    exact ⟨n, rfl, hgeneration⟩
  | _ =>
    rw [hexpected] at hinteger
    cases hinteger

/-- Facts that show a recovery are those of a matched profile. -/
theorem matched_of_recovered {lib : CheckLibrary} {state : PolicyState} {facts : DiagnosticFacts}
    (h : diagnosticFactsOf lib state = .ok facts) (hrecovered : facts.recovered = true) :
    ∃ profile row, matchedProfile lib.toLibrary state = .ok profile ∧
      ProfileMatches lib.toLibrary state profile row ∧ facts = factsOf lib state profile row := by
  cases hmatched : matchedProfile lib.toLibrary state with
  | error reason =>
    simp only [diagnosticFactsOf, hmatched] at h
    rw [← Except.ok.inj h] at hrecovered
    cases hrecovered
  | ok profile =>
    obtain ⟨row, hmatches⟩ := matchedProfile_matches hmatched
    exact ⟨profile, row, rfl, hmatches, (factsOf_of_matched hmatched h hmatches.only).2⟩

/-- The Deployment of a probe that was written. -/
theorem recovered_probe {lib : PolicyLibrary} {world : RecoveryWorld} {state : RepairState}
    {plan : RemediationPlan} {after : ResourceSnapshot} {bundle : FreshBundle}
    {original profile : ServiceProfile} {written deployment : EvidenceRow}
    (haction : plan.action = .patchReadinessProbe)
    (hwrites : WritesRegistered lib state.toRemediationState plan original written)
    (hsame : original.SameResources profile)
    (hmatches : ProfileMatches lib.toLibrary
      (recoveryResourceView lib.toLibrary (freshState world state bundle)).1 profile deployment)
    (huid : present after.uid = true)
    (hresponse : textOr after.uid = bundle.serviceProfile.get "deployment_uid")
    (hstatus : (readinessConfigurationFacts (registeredContainer profile deployment.data)
      profile.readinessProbe).1 = .matched) :
    rowsNamed (world.evidence bundle) plan.parameters.resourceKind.value
        plan.parameters.resourceName = [deployment] ∧
      deployment.data.get "uid" = textOr after.uid ∧
      deployment.Shows (registeredConfiguration profile plan.action) := by
  have honly := hmatches.only
  rw [rowsNamed, recoveryResourceView_rows] at honly
  · refine ⟨?_, ?_, by rw [haction]; exact shows_of_matched hstatus⟩
    · rw [hwrites.resourceKind, hwrites.resourceName, haction, if_neg (by decide),
        if_neg (by decide), ← hsame.deploymentName]
      exact honly
    · have hidentity := hmatches.uid
      rw [(recoveryResourceView_frame _ _).2] at hidentity
      have hanswer : (textOr after.uid).pyEq (deployment.data.get "uid") = true := by
        rw [hresponse]
        exact hidentity
      cases hafter : after.uid with
      | none =>
        rw [hafter] at huid
        cases huid
      | some uid =>
        rw [hafter] at hanswer
        exact eq_str_of_pyEq (Json.pyEq_comm hanswer)
  · intro row hrow hpod
    simp only [Bool.and_eq_true, decide_eq_true_eq] at hrow
    exact absurd (hrow.1.symm.trans hpod) (by decide)

/-- The Service of a selector that was written. -/
theorem recovered_selector {lib : PolicyLibrary} {world : RecoveryWorld} {state : RepairState}
    {plan : RemediationPlan} {after : ResourceSnapshot} {bundle : FreshBundle}
    {original profile : ServiceProfile} {written deployment : EvidenceRow}
    (haction : plan.action = .patchServiceSelector)
    (hwrites : WritesRegistered lib state.toRemediationState plan original written)
    (hsame : original.SameResources profile)
    (hmatches : ProfileMatches lib.toLibrary
      (recoveryResourceView lib.toLibrary (freshState world state bundle)).1 profile deployment)
    (huid : present after.uid = true)
    (hresponse : textOr after.uid = bundle.service.get "uid")
    (hready : (factsOf lib.toCheckLibrary
      (recoveryResourceView lib.toLibrary (freshState world state bundle)).1 profile
        deployment).resourceStatus = .ready)
    (hselector : (factsOf lib.toCheckLibrary
      (recoveryResourceView lib.toLibrary (freshState world state bundle)).1 profile
        deployment).selectorDrift = false) :
    ∃ row, rowsNamed (world.evidence bundle) plan.parameters.resourceKind.value
        plan.parameters.resourceName = [row] ∧ row.data.get "uid" = textOr after.uid ∧
      row.Shows (registeredConfiguration profile plan.action) := by
  obtain ⟨row, hservice, hvalid⟩ := factsOf_service hready
  simp only [factsOf, hservice, Option.elim_some, hvalid, Bool.true_and, Bool.not_eq_false']
    at hselector
  have honly := rowsNamed_of_view (by decide) (fun row hrow => normalizeEvidence_error hrow)
    (rowsNamed_of_serviceInEvidence hmatches.requested.2 hservice)
  have hmem : row ∈ world.evidence bundle ∧ row.resourceType = "Service" := by
    have hrow : row ∈ rowsNamed (freshState world state bundle).evidence "Service"
        profile.serviceName := by
      rw [honly]
      exact List.mem_cons_self
    obtain ⟨hrow, hkind⟩ := List.mem_filter.1 hrow
    rw [Bool.and_eq_true, decide_eq_true_eq] at hkind
    exact ⟨hrow, hkind.1⟩
  have hdata := normalizeEvidence_service hmem.1 hmem.2
  refine ⟨row, ?_, ?_, by rw [haction]; exact hselector⟩
  · rw [hwrites.resourceKind, hwrites.resourceName, haction, if_pos rfl, if_pos rfl,
      ← hsame.serviceName]
    exact honly
  · rw [hdata, hresponse]
    split
    · rfl
    · rename_i hobject
      -- A Service that is no object has no identity.
      cases hafter : after.uid with
      | none =>
        rw [hafter] at huid
        cases huid
      | some uid =>
        rw [hafter] at hresponse
        cases hvalue : bundle.service with
        | obj members =>
          rw [hvalue] at hobject
          exact absurd rfl hobject
        | _ =>
          rw [hvalue] at hresponse
          cases hresponse

/-- **The verdict after a repair is sound**: of a state whose plan was accepted and whose write
has answered with an identity, a recovery is reported only when a fresh collection shows it. The
evidence of the diagnosis has no part in the verdict. -/
theorem recovery_sound {lib : PolicyLibrary} {world : RecoveryWorld} {attempts : Nat}
    {state : RepairState} {plan accepted : RemediationPlan} {result : ActionExecutionResult}
    {after : ResourceSnapshot}
    (hdigest : ∀ v w, lib.digest v = lib.digest w → v.canonical = w.canonical)
    (hplan : state.remediationPlan = some plan)
    (haccepted : validateRemediationPlan lib plan state.toRemediationState = .ok accepted)
    (hresult : state.actionResult = some result)
    (hafter : result.afterSnapshot = some after) (huid : present after.uid = true) :
    (∀ r, verifyRecovery lib world attempts state = some r → r.status = .succeeded →
      ∃ bundle profile row deployment facts,
        Recovered lib world state plan after r bundle profile row deployment facts) ∧
    ∀ evidence, verifyRecovery lib world attempts { state with evidence := evidence } =
      verifyRecovery lib world attempts state := by
  refine ⟨fun r h hstatus => ?_, fun evidence => rfl⟩
  obtain ⟨resource, result', bundle, ⟨facts, terminating⟩, hresource, hsucceeded, hresult',
    hcollected, hjudged, hrecovered, hbusiness, hchecks⟩ := verifyRecovery_succeeded h hstatus
  obtain rfl := Option.some.inj (hresult.symm.trans hresult')
  obtain ⟨result', plan', hresult'', hplan', haction, hexec, hpolled⟩ :=
    verifyResources_succeeded hresource hsucceeded
  obtain rfl := Option.some.inj (hresult.symm.trans hresult'')
  obtain rfl := Option.some.inj (hplan.symm.trans hplan')
  obtain ⟨hresponse, hsnapshot, hdeployment, ⟨n, hn, hgeneration⟩, hfacts⟩ :=
    judgeRecovery_eq_ok hafter huid hjudged
  rw [haction] at hresponse hn
  obtain ⟨profile, deployment, hmatched, hmatches, rfl⟩ := matched_of_recovered hfacts hrecovered
  -- The registered resources are those that the plan was accepted for.
  obtain ⟨original, written, hwrites⟩ := accepted_writes haccepted hexec
  obtain ⟨observed, hobserved⟩ := matchedProfile_matches hwrites.matched
  have hsame : original.SameResources profile := by
    refine sameResources_of_digest hdigest hobserved.digest hmatches.digest ?_
    rw [(recoveryResourceView_frame _ _).2]
    exact hsnapshot
  have hparts := hrecovered
  simp only [DiagnosticFacts.recovered, Bool.and_eq_true, decide_eq_true_eq, Bool.not_eq_true',
    List.isEmpty_iff] at hparts
  obtain ⟨⟨⟨⟨hready, hreadinessStatus⟩, hselector⟩, hreadiness⟩, hruntime⟩ := hparts
  have hdesired : desiredConfiguration plan = registeredConfiguration profile plan.action := by
    rw [hwrites.desired]
    cases plan.action <;>
      simp only [registeredConfiguration, hsame.selector, hsame.containerName, hsame.probe]
  have hobject : ∃ row, rowsNamed (world.evidence bundle) plan.parameters.resourceKind.value
      plan.parameters.resourceName = [row] ∧ row.data.get "uid" = textOr after.uid ∧
      row.Shows (desiredConfiguration plan) := by
    rw [hdesired]
    cases hname : plan.action with
    | manualInvestigation =>
      rw [hname] at hexec
      cases hexec
    | patchReadinessProbe =>
      rw [hname, if_pos rfl] at hresponse
      rw [← hname]
      exact ⟨deployment, recovered_probe hname hwrites hsame hmatches huid hresponse
        hreadinessStatus⟩
    | patchServiceSelector =>
      rw [hname, if_neg (by decide)] at hresponse
      rw [← hname]
      exact recovered_selector hname hwrites hsame hmatches huid hresponse hready hselector
  obtain ⟨row, honly, hrow, hshows⟩ := hobject
  exact ⟨bundle, profile, row, deployment, _,
    { collected := hcollected
      matched := hmatches
      digest := hsnapshot
      deployment_uid := hdeployment
      only := honly
      uid := hrow
      generation := ⟨n, hn, hgeneration, Json.pyEq_trans (Json.pyEq_comm (by
        have := hmatches.generation
        rwa [(recoveryResourceView_frame _ _).2] at this)) hgeneration⟩
      configuration := hshows
      facts_eq := diagnosticFactsOf_eq_ok hfacts
      ready := hready
      selector := hselector
      readiness := hreadiness
      runtime := hruntime
      business := hbusiness
      checks := fun check hcheck => by
        rw [hchecks] at hcheck
        rcases List.mem_append.1 hcheck with hcheck | hcheck
        · exact hpolled check hcheck
        · exact recoveryChecks_passed hrecovered hbusiness hcheck }⟩

/-! ### A recovery -/

/-- The library of the demonstration, with a digest of its own for each value. -/
def recoveryLibrary : PolicyLibrary :=
  { demoLibrary with
    digest := fun v => if v.canonical = demoProfile.payload.canonical then
      demoLibrary.digest v else "text " ++ v.canonical.text }

theorem recoveryLibrary_digest (v w : Json) (h : recoveryLibrary.digest v = recoveryLibrary.digest w) :
    v.canonical = w.canonical := by
  have hfirst : ∀ t : String, demoLibrary.digest v ≠ "text " ++ t := by
    intro t hsame
    have hchars := congrArg String.toList hsame
    rw [String.toList_append] at hchars
    exact absurd (congrArg List.head? hchars) (by simp [demoLibrary, rootLibrary])
  simp only [recoveryLibrary] at h
  split at h
  · rename_i hv
    split at h
    · rename_i hw
      rw [hv, hw]
    · exact absurd h (hfirst _)
  · split at h
    · exact absurd h.symm (hfirst _)
    · have htext := congrArg String.toList h
      rw [String.toList_append, String.toList_append] at htext
      exact Json.text_injective (String.toList_inj.1 (List.append_cancel_left htext))

/-- The write of the selector, answered with the identity of the Service. -/
def recoveryResult : ActionExecutionResult :=
  { (default : ActionExecutionResult) with
    action := .patchServiceSelector
    status := .succeeded
    afterSnapshot := some { (default : ResourceSnapshot) with uid := some "service" } }

/-- The state after the write. -/
def recoveryState : RepairState :=
  { demoState with
    remediationPlan := some (demoPlan "select the pods")
    actionResult := some recoveryResult }

/-- The Deployment, with its replicas. -/
def recoveredDeployment : Json :=
  (demoDeployment.insert "ready_replicas" (.num 1)).insert "available_replicas" (.num 1)

/-- The Service, as the plan wants it. -/
def recoveredService : Json :=
  .obj [("namespace", .str safeNamespace), ("name", .str "web"), ("uid", .str "service"),
    ("selector", .obj [("app", .str "web")]), ("service_type", .str "ClusterIP"),
    ("cluster_ip", .str "10.0.0.1"), ("ports", .arr [.obj [("port", .num 80)]])]

/-- A business check that has passed. -/
def recoveredCheck : Json :=
  match buildTarget recoveryLibrary.toCheckLibrary demoProfile
      (demoProfile.businessChecks.headD default) recoveredService with
  | .ok target => .obj [("check_id", .str "root"), ("scope", .str "cluster_service_http"),
      ("request_id", .str "request"), ("target", target), ("status", .str "passed"),
      ("http_status", .num 200), ("content_matches", .bool true), ("error_code", .null)]
  | .error _ => .null

/-- A collection after the write, with a pod that is ready and is served. -/
def recoveredBundle : FreshBundle :=
  { (default : Bundle) with
    namespaceName := safeNamespace
    serviceName := "web"
    service := recoveredService
    endpointSlices := [.obj [("name", .str "web-slice"), ("namespace", .str safeNamespace),
      ("service_name", .str "web"),
      ("endpoints", .arr [.obj [("ready", .bool true), ("target_name", .str "web-1")]])]]
    podStatuses := [("web-1", .obj [("namespace", .str safeNamespace), ("ready", .bool true)])]
    ownerChains := [("web-1", .obj [("namespace", .str safeNamespace),
      ("deployment_name", .str "web")])]
    deployments := [("web", recoveredDeployment)]
    serviceProfile := makeSnapshot recoveryLibrary.toLibrary demoProfile recoveredDeployment
    businessChecks := [recoveredCheck]
    errors := [] }

/-- A world in which the Service has the selector and an endpoint, and the collection returns. -/
def recoveryWorld : RecoveryWorld where
  reads _ :=
    { service := .ok (SortedMap.ofList [("app", "web")])
      deployment := .error ⟨true, ""⟩
      pods := .error ⟨true, ""⟩
      slices := .ok [[some true]] }
  overdue _ := true
  startedAt := ""
  finishedAt := ""
  collection := .ok recoveredBundle
  incidentId := "incident"
  collectedAt := ""
  verifiedAt := ""

/-- A recovery is reported in that world, and shown. -/
theorem recovery_sound_selector :
    ∃ r, verifyRecovery recoveryLibrary recoveryWorld 1 recoveryState = some r ∧
      r.status = .succeeded ∧ ∃ bundle profile row deployment facts,
        Recovered recoveryLibrary recoveryWorld recoveryState (demoPlan "select the pods")
          { (default : ResourceSnapshot) with uid := some "service" } r bundle profile row
          deployment facts := by
  have haccepted : validateRemediationPlan recoveryLibrary (demoPlan "select the pods")
    recoveryState.toRemediationState = .ok (demoPlan "select the pods") := by decide +kernel
  have hstatus : (verifyRecovery recoveryLibrary recoveryWorld 1 recoveryState).map
    (·.status) = some .succeeded := by decide +kernel
  obtain ⟨r, hr, hsucceeded⟩ := Option.map_eq_some_iff.1 hstatus
  exact ⟨r, hr, hsucceeded,
    (recovery_sound recoveryLibrary_digest rfl haccepted rfl rfl rfl).1 r hr hsucceeded⟩

end IncidentAgent
