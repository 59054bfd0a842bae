import IncidentAgent.Business.Verdict
import IncidentAgent.Policy.Remediation

/-!
# What an accepted write is worth

Two properties of the plans that `validateRemediationPlan` accepts with an executable action.
The first is what the evidence has to show for it (`WriteGate`): the checks are spread over the
actions that are allowed, the facts that are computed of a matched profile, and the validators
of the parameters, and each of them looks at another part. The second is that a model has no
choice about what is written (`Forced`): two plans that are accepted in one state with one
action write the same to the same object, and both take its configuration to be the one in
evidence.
-/

namespace IncidentAgent

/-! ### The profile -/

/-- **A profile that is matched**: its snapshot, the request and the only Deployment in evidence
under its name agree with it. -/
structure ProfileMatches (lib : Library) (state : PolicyState) (profile : ServiceProfile)
    (row : EvidenceRow) : Prop where
  status : state.serviceProfile.hasText "status" "matched" = true
  registered : ∃ document, state.serviceProfile.get? "profile" = some document ∧
    lib.modelValidate document = some profile
  requested : state.request.hasText "namespace" profile.namespaceName = true ∧
    state.request.hasText "service_name" profile.serviceName = true
  digest : state.serviceProfile.hasText "digest" (profileDigest lib profile) = true
  only : rowsNamed state.evidence "Deployment" profile.deploymentName = [row]
  associated : row.data.hasText "namespace" profile.namespaceName = true ∧
    row.data.hasText "name" profile.deploymentName = true
  identified : (row.data.get "uid").truthy = true ∧ row.data.get "generation" ≠ .null
  uid : (state.serviceProfile.get "deployment_uid").pyEq (row.data.get "uid") = true
  generation : (state.serviceProfile.get "deployment_generation").pyEq
    (row.data.get "generation") = true
  version : (row.data.get "template_labels").hasText profile.application.versionLabel
    profile.application.version = true
  images : sameImages (containerImages (row.data.get "containers").items)
      profile.application.images = true ∧
    (containerImages (row.data.get "containers").items).length =
      (row.data.get "containers").items.length
  selector : ∀ e ∈ profile.expectedSelector.entries,
    (row.data.get "template_labels").hasText e.1 e.2 = true

theorem reasonIf_eq_nil {condition : Bool} {reason : String} :
    reasonIf condition reason = [] ↔ condition = false := by
  cases condition <;> simp [reasonIf]

theorem matchedProfile_matches {lib : Library} {state : PolicyState} {profile : ServiceProfile}
    (h : matchedProfile lib state = .ok profile) :
    ∃ row, ProfileMatches lib state profile row := by
  simp only [matchedProfile, bind_eq_ok, raiseIf_eq_ok, rowOr_eq_ok, pure_eq_ok, not_not] at h
  obtain ⟨-, hstatus, document, hdocument, profile', hvalid, -, hrequest, -, hdigest, deployment,
    hdeployment, -, hobserved, rfl⟩ := h
  unfold deploymentInEvidence at hdeployment
  split at hdeployment
  · rename_i row hrows
    split at hdeployment
    · rename_i hassessed
      obtain rfl := Except.ok.inj hdeployment
      simp only [assessProfile, List.append_eq_nil_iff, reasonIf_eq_nil, Bool.not_eq_false',
        Bool.and_eq_true, Bool.or_eq_false_iff, decide_eq_false_iff_not, not_not, ne_eq,
        List.all_eq_true] at hassessed
      obtain ⟨⟨⟨⟨hassociated, hidentified⟩, hversion⟩, himages⟩, hselector⟩ := hassessed
      exact ⟨row, hstatus, ⟨document, hdocument, hvalid⟩, hrequest, hdigest, hrows, hassociated,
        hidentified, hobserved.1, hobserved.2, hversion, himages, hselector⟩
    · cases hdeployment
  · cases hdeployment

/-- The facts of a matched profile are computed of the only Deployment in evidence, whose row
has no error. -/
theorem factsOf_of_matched {lib : CheckLibrary} {state : PolicyState} {profile : ServiceProfile}
    {facts : DiagnosticFacts} {row : EvidenceRow}
    (hmatched : matchedProfile lib.toLibrary state = .ok profile)
    (hfacts : diagnosticFactsOf lib state = .ok facts)
    (honly : rowsNamed state.evidence "Deployment" profile.deploymentName = [row]) :
    row.error = none ∧ facts = factsOf lib state profile row := by
  unfold diagnosticFactsOf at hfacts
  rw [hmatched] at hfacts
  have hrows : rowsNamed (state.evidence.filter fun e => e.error.isNone) "Deployment"
      profile.deploymentName = [row].filter fun e => e.error.isNone := by
    rw [← honly, rowsNamed, rowsNamed, List.filter_filter, List.filter_filter]
    congr 1
    funext e
    ac_rfl
  simp only [hrows] at hfacts
  cases herror : row.error with
  | none =>
    simp only [List.filter_cons, herror, Option.isNone_none, if_true, List.filter_nil] at hfacts
    exact ⟨rfl, (Except.ok.inj hfacts).symm⟩
  | some error =>
    simp [herror] at hfacts

/-! ### The allowed actions -/

/-- The category that an action repairs. -/
def RemediationActionName.category? : RemediationActionName → Option FaultCategory
  | .manualInvestigation => none
  | .patchReadinessProbe => some .readinessProbeError
  | .patchServiceSelector => some .serviceSelectorMismatch

/-- The evidence grounds an action. -/
def Grounded (lib : PolicyLibrary) (state : RemediationState) (facts : DiagnosticFacts) :
    RemediationActionName → Prop
  | .manualInvestigation => True
  | .patchReadinessProbe => facts.readinessPatchSupported = true
  | .patchServiceSelector => hasGroundedSelectorCandidate lib state = true

theorem FaultCategory.value_injective : Function.Injective FaultCategory.value := by
  intro a b h
  cases a <;> cases b <;> first | rfl | exact absurd h (by decide)

/-- An executable action of a category is the one that repairs it. -/
theorem category_of_allowed {action : RemediationActionName} {category : Json}
    (h : action ∈ allowedActionsByFaultCategory category) (hexec : action.executable = true) :
    ∃ c, action.category? = some c ∧ category = .str c.value := by
  unfold allowedActionsByFaultCategory at h
  split at h
  · rename_i hcategory
    rcases List.mem_pair.1 h with rfl | rfl
    · cases hexec
    · exact ⟨.readinessProbeError, rfl, hcategory⟩
  · split at h
    · rename_i hcategory
      rcases List.mem_pair.1 h with rfl | rfl
      · cases hexec
      · exact ⟨.serviceSelectorMismatch, rfl, hcategory⟩
    · split at h
      · obtain rfl := List.mem_singleton.1 h
        cases hexec
      · cases h

/-- An action that is grounded is one of the category of the diagnosis, and the evidence
grounds it. -/
theorem mem_groundedActions {lib : PolicyLibrary} {state : RemediationState}
    {facts : DiagnosticFacts} {actions : List RemediationActionName}
    {action : RemediationActionName}
    (hfacts : diagnosticFactsOf lib.toCheckLibrary state.toPolicyState = .ok facts)
    (h : groundedActions lib state = .ok actions) (hmem : action ∈ actions)
    (hexec : action.executable = true) :
    Grounded lib state facts action ∧
      ∃ c, action.category? = some c ∧ state.diagnosis.get "fault_category" = .str c.value := by
  have hallowed : action ∈ allowedActionsByFaultCategory (state.diagnosis.get "fault_category") ∧
      Grounded lib state facts action := by
    unfold groundedActions at h
    simp only at h
    split at h
    · rename_i hcategory
      simp only [bind_eq_ok, pure_eq_ok, hasGroundedReadinessCandidate, hfacts] at h
      obtain ⟨grounded, ⟨facts', hsame, rfl⟩, rfl⟩ := h
      obtain rfl := Except.ok.inj hsame
      simp only [hcategory, allowedActionsByFaultCategory] at hmem ⊢
      cases hpatch : facts.readinessPatchSupported <;> cases action <;>
        simp_all [Grounded, RemediationActionName.executable]
    · split at h
      · rename_i hcategory
        simp only [pure_eq_ok] at h
        subst h
        simp only [hcategory, allowedActionsByFaultCategory] at hmem ⊢
        cases hselector : hasGroundedSelectorCandidate lib state <;> cases action <;>
          simp_all [Grounded, RemediationActionName.executable]
      · rename_i hready hselector
        simp only [pure_eq_ok] at h
        subst h
        obtain ⟨c, hc, hcategory⟩ := category_of_allowed hmem hexec
        cases action with
        | manualInvestigation => cases hexec
        | patchReadinessProbe => exact absurd (by rw [hcategory, ← Option.some.inj hc]; rfl) hready
        | patchServiceSelector =>
          exact absurd (by rw [hcategory, ← Option.some.inj hc]; rfl) hselector
  exact ⟨hallowed.2, category_of_allowed hallowed.1 hexec⟩

/-- **An executable action that is allowed** is grounded, and the diagnosis of its category is
accepted and supports a write. -/
theorem mem_getAllowedRemediationActions {lib : PolicyLibrary} {state : RemediationState}
    {actions : List RemediationActionName} {action : RemediationActionName}
    (h : getAllowedRemediationActions lib state = .ok actions) (hmem : action ∈ actions)
    (hexec : action.executable = true) :
    ∃ facts parsed, diagnosticFactsOf lib.toCheckLibrary state.toPolicyState = .ok facts ∧
      Grounded lib state facts action ∧ acceptedDiagnosis lib state = .ok parsed ∧
      action.category? = some parsed.faultCategory ∧ writeSupported facts parsed := by
  simp only [getAllowedRemediationActions, bind_eq_ok] at h
  obtain ⟨grounded, hgrounded, h⟩ := h
  have hnone : ∀ {left}, action ∉ withoutExecutable left := fun hin => by
    have := List.of_mem_filter hin
    rw [hexec] at this
    cases this
  split at h
  · unfold supportedActions at h
    split at h
    · split at h
      · exact absurd ((Except.ok.inj h).symm ▸ hmem) hnone
      · cases h
    · rename_i parsed hparsed
      simp only [bind_eq_ok, pure_eq_ok] at h
      obtain ⟨facts, hfacts, rfl⟩ := h
      split at hmem
      · rename_i hsupported
        obtain ⟨hground, c, hc, hcategory⟩ := mem_groundedActions hfacts hgrounded hmem hexec
        refine ⟨facts, parsed, hfacts, hground, hparsed, ?_, hsupported⟩
        simp only [acceptedDiagnosis, bind_eq_ok, rowOr_eq_ok, pure_eq_ok] at hparsed
        obtain ⟨d, hd, -, -, rfl⟩ := hparsed
        have hvalue := lib.diagnosis_category hd
        rw [hcategory] at hvalue
        rw [hc, FaultCategory.value_injective (Json.str.inj hvalue)]
      · exact absurd hmem hnone
  · rename_i hno
    rw [← pure_eq_ok.1 h] at hmem
    exact absurd ⟨action, hmem, hexec⟩ hno

/-! ### The drift -/

/-- The drift that an action repairs, as the evidence shows it: the only Service of the profile
has another selector than the registered one, or the readiness probe of the registered container
has another path or port, with the same scheme. -/
def Drifted (profile : ServiceProfile) (evidence : List EvidenceRow) (row : EvidenceRow) :
    RemediationActionName → Prop
  | .manualInvestigation => False
  | .patchServiceSelector => ∃ service,
    rowsNamed evidence "Service" profile.serviceName = [service] ∧
      (service.data.get "selector").isObject = true ∧
      sameLabels (service.data.get "selector") profile.expectedSelector = false
  | .patchReadinessProbe =>
    let probe := (registeredContainer profile row.data).get "readiness_probe"
    probe.isObject = true ∧
      (if (probe.get "scheme").truthy then probe.get "scheme" else .str "HTTP") =
        .str profile.readinessProbe.scheme ∧
      ¬(probe.get "path" = .str profile.readinessProbe.path ∧
        (probe.get "port").pyEq profile.readinessProbe.port.dump = true)

/-- A probe that can be patched has the scheme of the contract, and another path or port. -/
theorem readinessPatchSupported_spec {container : Json} {expected : HttpProbeContract}
    (h : (readinessConfigurationFacts container expected).2 = true) :
    let probe := container.get "readiness_probe"
    probe.isObject = true ∧
      (if (probe.get "scheme").truthy then probe.get "scheme" else .str "HTTP") =
        .str expected.scheme ∧
      ¬(probe.get "path" = .str expected.path ∧
        (probe.get "port").pyEq expected.port.dump = true) := by
  unfold readinessConfigurationFacts at h
  split at h
  · cases h
  · cases h
  · rename_i probe hnull hprobe
    have hget : container.get "readiness_probe" = probe := by
      rw [Json.get, hprobe]
      rfl
    rw [hget]
    split at h
    · cases h
    · rename_i hobject
      simp only [Bool.or_eq_true, Bool.not_eq_true', not_or, Bool.not_eq_false] at hobject
      simp only [Bool.and_eq_true, decide_eq_true_eq, Bool.not_eq_true',
        Bool.and_eq_false_imp] at h ⊢
      exact ⟨hobject.1.1, h.1, fun hboth => by simp [h.2 hboth.1] at hboth⟩

/-- A selector that a candidate stands for differs in the only row of the Service. -/
theorem selectorDiffers_spec {profile : ServiceProfile} {rows : List EvidenceRow}
    (h : selectorDiffers profile rows = true) :
    ∃ service, rows = [service] ∧ (service.data.get "selector").isObject = true ∧
      sameLabels (service.data.get "selector") profile.expectedSelector = false := by
  unfold selectorDiffers at h
  split at h
  · rename_i row
    simp only [Bool.and_eq_true, Bool.not_eq_true'] at h
    exact ⟨row, rfl, h⟩
  · cases h

theorem drifted_of_grounded {lib : PolicyLibrary} {state : RemediationState}
    {profile : ServiceProfile} {row : EvidenceRow} {action : RemediationActionName}
    (hmatched : matchedProfile lib.toLibrary state.toPolicyState = .ok profile)
    (hexec : action.executable = true)
    (h : Grounded lib state (factsOf lib.toCheckLibrary state.toPolicyState profile row) action) :
    Drifted profile state.evidence row action := by
  cases action with
  | manualInvestigation => cases hexec
  | patchReadinessProbe => exact readinessPatchSupported_spec h
  | patchServiceSelector =>
    have hgrounded : hasGroundedSelectorCandidate lib state = true := h
    rw [hasGroundedSelectorCandidate, hmatched] at hgrounded
    exact selectorDiffers_spec hgrounded

/-! ### The gate -/

/-- **What the evidence shows for an accepted write**, for a profile, the row of its Deployment,
the facts of the state and the assessed diagnosis. -/
structure WriteGate (lib : PolicyLibrary) (state : RemediationState) (plan : RemediationPlan)
    (profile : ServiceProfile) (row : EvidenceRow) (facts : DiagnosticFacts) (d : Diagnosis)
    (a : DiagnosticAssessment) : Prop where
  /-- The profile matches the request and the single Deployment that was collected. -/
  profile_matched : matchedProfile lib.toLibrary state.toPolicyState = .ok profile
  profile_matches : ProfileMatches lib.toLibrary state.toPolicyState profile row
  observed : row.error = none
  facts_eq : diagnosticFactsOf lib.toCheckLibrary state.toPolicyState = .ok facts
  /-- The configuration of the Service and of the registered container is known. -/
  complete : facts.configurationEvidenceComplete = true
  service : ∃ service, serviceInEvidence (state.evidence.filter fun e => e.error.isNone)
    state.request = some service ∧ serviceValid state.request service.data = true
  probe : (((registeredContainer profile row.data).get "readiness_probe").get "path").truthy =
      true ∧
    ((registeredContainer profile row.data).get "readiness_probe").get "port" ≠ .null
  /-- The drift that the action repairs is there. -/
  drifted : Drifted profile state.evidence row plan.action
  /-- Nothing that the evidence shows contradicts a fault of the configuration. -/
  business : facts.businessStatus ≠ .failed
  runtime : ∀ pod ∈ state.evidence, pod.resourceType = "PodStatus" → pod.error = none →
    pod.resourceName ∈ ownedPods profile state.request
      (state.evidence.filter fun e => e.error.isNone) →
    pod.data.get "namespace" = state.request.get "namespace" →
    ∀ container ∈ (pod.data.get "containers").items, runtimeFault container = none
  /-- The diagnosis has the category of the action, and is accepted. -/
  diagnosis : lib.diagnosis state.diagnosis = some d
  category : plan.action.category? = some d.faultCategory
  accepted : validateDiagnosisAssessment lib d state.toPolicyState = .ok ⟨⟩
  assessment : d.assessment = some a
  /-- A supported hypothesis cites all of the configuration, and so does the plan. -/
  hypothesis : ∃ h ∈ a.rootCauseHypotheses, h.status = .supported ∧
    ∀ id ∈ facts.configurationEvidenceIds, id ∈ h.evidenceIds
  cited : ∀ id ∈ facts.configurationEvidenceIds, id ∈ plan.evidenceIds
  /-- A human has to approve the write, whose risk is medium. -/
  approval : plan.requiresApproval = true
  risk : plan.riskLevel = .medium

/-- What the checks of an accepted plan with an executable action have found. -/
theorem validateRemediationPlan_eq_ok {lib : PolicyLibrary} {state : RemediationState}
    {plan accepted : RemediationPlan}
    (h : validateRemediationPlan lib plan state = .ok accepted) :
    (∃ actions, getAllowedRemediationActions lib state = .ok actions ∧ plan.action ∈ actions) ∧
      validateTargetOf plan state = .ok ⟨⟩ ∧ validateActionMetadata plan = .ok ⟨⟩ ∧
      validateWrite lib plan state = .ok ⟨⟩ ∧ validateAction plan state = .ok ⟨⟩ := by
  simp only [validateRemediationPlan, bind_eq_ok, raiseIf_eq_ok, not_not] at h
  obtain ⟨actions, hactions, ⟨⟩, hmem, ⟨⟩, -, ⟨⟩, htarget, ⟨⟩, -, ⟨⟩, -, ⟨⟩, hmetadata, ⟨⟩, hwrite,
    ⟨⟩, haction, -⟩ := h
  exact ⟨⟨actions, hactions, hmem⟩, htarget, hmetadata, hwrite, haction⟩

/-- The parts of complete evidence of the configuration. -/
theorem complete_spec {lib : CheckLibrary} {state : PolicyState} {profile : ServiceProfile}
    {row : EvidenceRow} (h : (factsOf lib state profile row).configurationEvidenceComplete = true) :
    (∃ service, serviceInEvidence (state.evidence.filter fun e => e.error.isNone) state.request =
        some service ∧ serviceValid state.request service.data = true) ∧
      (((registeredContainer profile row.data).get "readiness_probe").get "path").truthy = true ∧
      ((registeredContainer profile row.data).get "readiness_probe").get "port" ≠ .null := by
  simp only [factsOf, Bool.and_eq_true, ne_eq, decide_not, Bool.not_eq_true',
    decide_eq_false_iff_not] at h
  obtain ⟨⟨⟨hvalid, -⟩, hpath⟩, hport⟩ := h
  exact ⟨exists_of_serviceValid hvalid, hpath, hport⟩

/-- Facts without a runtime fault leave none to a container of an owned pod. -/
theorem runtime_spec {lib : CheckLibrary} {state : PolicyState} {profile : ServiceProfile}
    {row pod : EvidenceRow} (h : (factsOf lib state profile row).currentRuntimeFaults = [])
    (hpod : pod ∈ state.evidence) (hkind : pod.resourceType = "PodStatus")
    (herror : pod.error = none)
    (howned : pod.resourceName ∈ ownedPods profile state.request
      (state.evidence.filter fun e => e.error.isNone))
    (hnamespace : pod.data.get "namespace" = state.request.get "namespace") {container : Json}
    (hcontainer : container ∈ (pod.data.get "containers").items) :
    runtimeFault container = none := by
  simp only [factsOf, List.flatMap_eq_nil_iff, List.filterMap_eq_nil_iff] at h
  refine h pod (List.mem_filter.2 ⟨List.mem_filter.2 ⟨List.mem_filter.2 ⟨hpod, ?_⟩, ?_⟩, ?_⟩)
    container hcontainer
  · rw [herror]
    rfl
  · exact decide_eq_true hkind
  · simp only [howned, hnamespace, decide_true, Bool.and_self]

/-- **The gate before a write is sound**: a plan with an executable action is accepted only on
evidence that shows the drift it repairs, and nothing against it. -/
theorem accepted_gated {lib : PolicyLibrary} {state : RemediationState}
    {plan accepted : RemediationPlan} (h : validateRemediationPlan lib plan state = .ok accepted)
    (hexec : plan.action.executable = true) :
    ∃ profile row facts d a, WriteGate lib state plan profile row facts d a := by
  obtain ⟨⟨actions, hactions, hmem⟩, -, hmetadata, hwrite, -⟩ := validateRemediationPlan_eq_ok h
  obtain ⟨facts, d, hfacts, hground, hparsed, hcategory, hcomplete, hbusiness, hruntime, a,
    hassessment, hcites⟩ := mem_getAllowedRemediationActions hactions hmem hexec
  simp only [validateWrite, hexec, if_true, bind_eq_ok, raiseIf_eq_ok, unavailableAsInvalid_eq_ok,
    hfacts] at hwrite
  obtain ⟨facts', hsame, -, hcited, -, -, profile, hmatched, -⟩ := hwrite
  obtain rfl := Except.ok.inj hsame
  simp only [acceptedDiagnosis, bind_eq_ok, rowOr_eq_ok, pure_eq_ok] at hparsed
  obtain ⟨d', hd, ⟨⟩, hvalid, rfl⟩ := hparsed
  simp only [validateActionMetadata, hexec, if_true, bind_eq_ok, raiseIf_eq_ok, not_not]
    at hmetadata
  obtain ⟨-, happroval, hrisk⟩ := hmetadata
  obtain ⟨row, hmatches⟩ := matchedProfile_matches hmatched
  obtain ⟨hrow, rfl⟩ := factsOf_of_matched hmatched hfacts hmatches.only
  obtain ⟨hservice, hpath, hport⟩ := complete_spec hcomplete
  push Not at hcited
  exact ⟨profile, row, _, d', a,
    { profile_matched := hmatched
      profile_matches := hmatches
      observed := hrow
      facts_eq := hfacts
      complete := hcomplete
      service := hservice
      probe := ⟨hpath, hport⟩
      drifted := drifted_of_grounded hmatched hexec hground
      business := hbusiness
      runtime := fun pod hpod hkind herror howned hnamespace container hcontainer =>
        runtime_spec hruntime hpod hkind herror howned hnamespace hcontainer
      diagnosis := hd
      category := hcategory
      accepted := hvalid
      assessment := hassessment
      hypothesis := hcites
      cited := hcited
      approval := happroval
      risk := hrisk }⟩

/-! ### What is written -/

/-- The configuration that a profile registers for the object of an action. -/
def registeredConfiguration (profile : ServiceProfile) : RemediationActionName → Configuration
  | .patchServiceSelector => .selector profile.expectedSelector
  | _ => .probe (some profile.containerName) (some profile.readinessProbe.path)
      (some profile.readinessProbe.port)

/-- A row shows a configuration. -/
def EvidenceRow.Shows (row : EvidenceRow) : Configuration → Prop
  | .selector labels => sameLabels (row.data.get "selector") labels = true
  | .probe containerName path port => ∃ container,
    ((row.data.get "containers").items.find? fun c => c.get "name" = textOr containerName) =
        some container ∧
      (container.get "readiness_probe").get "path" = textOr path ∧
      ((container.get "readiness_probe").get "port").pyEq (portOr port) = true

/-- **What an accepted plan writes**: the registered configuration, over the configuration that
the single row of its target shows, which is another one. -/
structure WritesRegistered (lib : PolicyLibrary) (state : RemediationState)
    (plan : RemediationPlan) (profile : ServiceProfile) (row : EvidenceRow) : Prop where
  matched : matchedProfile lib.toLibrary state.toPolicyState = .ok profile
  namespaceName : plan.parameters.namespaceName = profile.namespaceName
  resourceKind : plan.parameters.resourceKind =
    if plan.action = .patchServiceSelector then .service else .deployment
  resourceName : plan.parameters.resourceName =
    if plan.action = .patchServiceSelector then profile.serviceName else profile.deploymentName
  containerName : plan.action = .patchReadinessProbe →
    plan.parameters.containerName = some profile.containerName
  desired : desiredConfiguration plan = registeredConfiguration profile plan.action
  only : rowsNamed state.evidence plan.parameters.resourceKind.value
    plan.parameters.resourceName = [row]
  prior : row.Shows (priorConfiguration plan)
  changes : desiredConfiguration plan ≠ priorConfiguration plan

/-- A port is a value that is only equal to itself, as far as ports go. -/
theorem port_eq_of_same {v : Json} {p q : Option Port} (hp : v.pyEq (portOr p) = true)
    (hq : v.pyEq (portOr q) = true) : p = q := by
  have hplain : ∀ r : Option Port, (portOr r).unbool.canonical = portOr r := by
    intro r
    cases r with
    | none => rfl
    | some r => cases r <;> rfl
  refine portOr_injective ?_
  rw [← hplain p, ← hplain q]
  exact (of_decide_eq_true hp).symm.trans (of_decide_eq_true hq)

/-- A row shows one selector. -/
theorem EvidenceRow.shows_selector {row : EvidenceRow} {m n : Labels}
    (hm : row.Shows (.selector m)) (hn : row.Shows (.selector n)) : m = n :=
  labels_eq_of_same hm hn

/-- A row shows one probe of a container. -/
theorem EvidenceRow.shows_probe {row : EvidenceRow} {containerName p p' : Option String}
    {q q' : Option Port} (h : row.Shows (.probe containerName p q))
    (h' : row.Shows (.probe containerName p' q')) : p = p' ∧ q = q' := by
  obtain ⟨container, hfound, hpath, hport⟩ := h
  obtain ⟨container', hfound', hpath', hport'⟩ := h'
  obtain rfl := Option.some.inj (hfound.symm.trans hfound')
  exact ⟨textOr_injective (hpath.symm.trans hpath'), port_eq_of_same hport hport'⟩

/-- A patch of a selector writes the registered one. -/
theorem writes_selector {lib : PolicyLibrary} {state : RemediationState} {plan : RemediationPlan}
    {profile : ServiceProfile} {row : EvidenceRow}
    (hmatched : matchedProfile lib.toLibrary state.toPolicyState = .ok profile)
    (haction : plan.action = .patchServiceSelector)
    (hdrifted : Drifted profile state.evidence row .patchServiceSelector)
    (hregistered : validateProfileAction profile plan = .ok ⟨⟩)
    (hvalid : validateSelectorPatch plan state = .ok ⟨⟩) :
    ∃ service, WritesRegistered lib state plan profile service := by
  simp only [validateProfileAction, bind_eq_ok, raiseIf_eq_ok, haction, not_not, true_and]
    at hregistered
  obtain ⟨-, hnamespace, -, ⟨hkind, hname, -, hproposed⟩, -⟩ := hregistered
  obtain ⟨service, honly, hobject, hdiffers⟩ := hdrifted
  simp only [validateSelectorPatch, labelPairsToDict, findEvidence, firstRow, bind_eq_ok,
    raiseIf_eq_ok, rowOr_eq_ok, pure_eq_ok, not_not, hname, honly, List.head?_cons] at hvalid
  obtain ⟨-, -, -, -, current, ⟨-, -, rfl⟩, proposed, -, -, -, shown, hshown, hcurrent⟩ := hvalid
  obtain rfl := Option.some.inj hshown
  have hselector : (service.data.get? "selector").getD (.obj []) = service.data.get "selector" := by
    cases hget : service.data.get? "selector" with
    | none =>
      rw [Json.get, hget] at hobject
      cases hobject
    | some selector =>
      rw [Json.get, hget]
      rfl
  rw [hselector] at hcurrent
  refine ⟨service, ⟨hmatched, hnamespace, by rw [haction, hkind, if_pos rfl],
    by rw [haction, hname, if_pos rfl], fun hother => ?_, ?_, ?_, ?_, fun hsame => ?_⟩⟩
  · rw [haction] at hother
    cases hother
  · rw [desiredConfiguration, haction, registeredConfiguration, hproposed]
  · rw [hkind, hname]
    exact honly
  · rw [priorConfiguration, haction]
    exact hcurrent
  · rw [desiredConfiguration, priorConfiguration, haction] at hsame
    have hlabels : Labels.ofPairs plan.parameters.proposedSelector =
      Labels.ofPairs plan.parameters.currentSelector := Configuration.selector.inj hsame
    rw [← hlabels, hproposed, hdiffers] at hcurrent
    cases hcurrent

/-- A patch of a readiness probe writes the registered one. -/
theorem writes_probe {lib : PolicyLibrary} {state : RemediationState} {plan : RemediationPlan}
    {profile : ServiceProfile} {row : EvidenceRow}
    (hmatched : matchedProfile lib.toLibrary state.toPolicyState = .ok profile)
    (haction : plan.action = .patchReadinessProbe)
    (honly : rowsNamed state.evidence "Deployment" profile.deploymentName = [row])
    (hregistered : validateProfileAction profile plan = .ok ⟨⟩)
    (hvalid : validateReadinessPatch plan state = .ok ⟨⟩) :
    WritesRegistered lib state plan profile row := by
  simp only [validateProfileAction, bind_eq_ok, raiseIf_eq_ok, haction, not_not, true_and]
    at hregistered
  obtain ⟨-, hnamespace, -, -, hkind, hname, hcontainer, hpath, hport⟩ := hregistered
  simp only [validateReadinessPatch, findEvidence, firstRow, bind_eq_ok, raiseIf_eq_ok,
    rowOr_eq_ok, not_not, hname, honly, List.head?_cons] at hvalid
  obtain ⟨-, -, -, -, -, -, -, -, -, -, -, -, shown, hshown, container, hfound, -, hcurrentPath,
    -, hcurrentPort, hchanges⟩ := hvalid
  obtain rfl := Option.some.inj hshown
  refine ⟨hmatched, hnamespace, by rw [haction, hkind, if_neg (by decide)],
    by rw [haction, hname, if_neg (by decide)], fun _ => hcontainer, ?_, ?_, ?_, fun hsame => ?_⟩
  · simp only [desiredConfiguration, haction, registeredConfiguration, hcontainer, hpath, hport]
  · rw [hkind, hname]
    exact honly
  · rw [priorConfiguration, haction]
    exact ⟨container, hfound, hcurrentPath, hcurrentPort⟩
  · rw [desiredConfiguration, priorConfiguration, haction] at hsame
    obtain ⟨-, hpaths, hports⟩ := Configuration.probe.inj hsame
    exact hchanges ⟨hpaths.symm, hports.symm⟩

/-- An accepted plan with an executable action writes the registered configuration. -/
theorem accepted_writes {lib : PolicyLibrary} {state : RemediationState}
    {plan accepted : RemediationPlan} (h : validateRemediationPlan lib plan state = .ok accepted)
    (hexec : plan.action.executable = true) :
    ∃ profile row, WritesRegistered lib state plan profile row := by
  obtain ⟨⟨actions, hactions, hmem⟩, -, -, hwrite, haction⟩ := validateRemediationPlan_eq_ok h
  obtain ⟨facts, -, hfacts, hground, -⟩ := mem_getAllowedRemediationActions hactions hmem hexec
  simp only [validateWrite, hexec, if_true, bind_eq_ok, raiseIf_eq_ok, unavailableAsInvalid_eq_ok,
    hfacts] at hwrite
  obtain ⟨-, -, -, -, -, -, profile, hmatched, hregistered⟩ := hwrite
  obtain ⟨row, hmatches⟩ := matchedProfile_matches hmatched
  obtain ⟨-, rfl⟩ := factsOf_of_matched hmatched hfacts hmatches.only
  have hdrifted := drifted_of_grounded hmatched hexec hground
  unfold validateAction at haction
  cases hname : plan.action with
  | manualInvestigation =>
    rw [hname] at hexec
    cases hexec
  | patchReadinessProbe =>
    rw [hname] at haction
    exact ⟨profile, row, writes_probe hmatched hname hmatches.only hregistered haction⟩
  | patchServiceSelector =>
    rw [hname] at haction hdrifted
    exact ⟨profile, writes_selector hmatched hname hdrifted hregistered haction⟩

/-- **Two plans that write the same to the same object**, and take it to be in the same
configuration. -/
structure SameWrite (plan plan' : RemediationPlan) : Prop where
  namespaceName : plan'.parameters.namespaceName = plan.parameters.namespaceName
  resourceKind : plan'.parameters.resourceKind = plan.parameters.resourceKind
  resourceName : plan'.parameters.resourceName = plan.parameters.resourceName
  containerName : plan.action = .patchReadinessProbe →
    plan'.parameters.containerName = plan.parameters.containerName
  desired : desiredConfiguration plan' = desiredConfiguration plan
  prior : priorConfiguration plan' = priorConfiguration plan

/-- **The model does not choose what is written**: of one state and one executable action, all
plans that are accepted write the same. It is the registered configuration, over the one that
the single row of the target shows. -/
theorem accepted_forced {lib : PolicyLibrary} {state : RemediationState}
    {plan plan' accepted accepted' : RemediationPlan}
    (h : validateRemediationPlan lib plan state = .ok accepted)
    (h' : validateRemediationPlan lib plan' state = .ok accepted')
    (hexec : plan.action.executable = true) (hsame : plan'.action = plan.action) :
    SameWrite plan plan' ∧ ∃ profile row, WritesRegistered lib state plan profile row := by
  obtain ⟨profile, row, hw⟩ := accepted_writes h hexec
  obtain ⟨profile', row', hw'⟩ := accepted_writes h' (by rw [hsame]; exact hexec)
  obtain rfl := Except.ok.inj (hw.matched.symm.trans hw'.matched)
  have hkind : plan'.parameters.resourceKind = plan.parameters.resourceKind := by
    rw [hw.resourceKind, hw'.resourceKind, hsame]
  have hname : plan'.parameters.resourceName = plan.parameters.resourceName := by
    rw [hw.resourceName, hw'.resourceName, hsame]
  have honly := hw'.only
  rw [hkind, hname, hw.only] at honly
  obtain rfl := List.head_eq_of_cons_eq honly
  refine ⟨⟨by rw [hw.namespaceName, hw'.namespaceName], hkind, hname, fun haction => ?_,
    by rw [hw.desired, hw'.desired, hsame], ?_⟩, profile, row, hw⟩
  · rw [hw.containerName haction, hw'.containerName (hsame.trans haction)]
  · have hprior := hw.prior
    have hprior' := hw'.prior
    unfold priorConfiguration at hprior hprior' ⊢
    rw [hsame] at hprior' ⊢
    cases haction : plan.action with
    | manualInvestigation =>
      rw [haction] at hexec
      cases hexec
    | patchServiceSelector =>
      rw [haction] at hprior hprior'
      simp only at hprior hprior' ⊢
      rw [EvidenceRow.shows_selector hprior' hprior]
    | patchReadinessProbe =>
      rw [haction] at hprior hprior'
      simp only at hprior hprior' ⊢
      rw [hw.containerName haction] at hprior ⊢
      rw [hw'.containerName (hsame.trans haction)] at hprior' ⊢
      obtain ⟨hpath, hport⟩ := EvidenceRow.shows_probe hprior' hprior
      rw [hpath, hport]

/-! ### A write that is accepted -/

/-- The profile of a service in the namespace where writes are allowed. -/
def demoProfile : ServiceProfile := { rootProfile with namespaceName := safeNamespace }

/-- The diagnosis of a Service whose selector is not the registered one. -/
def demoDiagnosis : Diagnosis where
  assessment := some
    { problemDomain := .deploymentConfiguration
      symptoms := []
      rootCauseHypotheses := [⟨⟨"the selector has drifted", ["ev-1", "ev-2"]⟩, .supported⟩]
      missingEvidence := []
      nextInvestigation := []
      resourceStatus := .notReady
      businessStatus := .unknown
      unverifiedScope := [] }
  faultCategory := .serviceSelectorMismatch
  rootCause := "the selector has drifted"
  evidenceIds := ["ev-1", "ev-2"]
  runbookIds := ["rb-1"]
  confidence := 9 / 10
  reasoningSummary := ""

/-- A library in which the profile and the diagnosis are the only ones. -/
def demoLibrary : PolicyLibrary :=
  { rootLibrary with
    modelValidate := fun _ => some demoProfile
    pyRepr := fun _ => ""
    diagnosis := fun document =>
      if document.get "fault_category" = .str demoDiagnosis.faultCategory.value then
        some demoDiagnosis else none
    diagnosis_category := fun {document d} h => by
      split at h
      · rename_i hcategory
        rw [hcategory, ← Option.some.inj h]
      · cases h }

/-- The registered Deployment, with the registered probe. -/
def demoDeployment : Json :=
  .obj [("namespace", .str safeNamespace), ("name", .str "web"), ("uid", .str "uid"),
    ("generation", .num 1), ("desired_replicas", .num 1),
    ("template_labels", .obj [("app.kubernetes.io/version", .str "1"), ("app", .str "web")]),
    ("containers", .arr [.obj [("name", .str "web"), ("image", .str "web:1"),
      ("readiness_probe", .obj [("path", .str "/"), ("port", .num 80)])]])]

/-- The Service, which selects other pods. -/
def demoService : Json :=
  .obj [("namespace", .str safeNamespace), ("name", .str "web"),
    ("selector", .obj [("app", .str "old")])]

/-- A state in which the selector has drifted. -/
def demoState : RemediationState where
  request := .obj [("namespace", .str safeNamespace), ("service_name", .str "web")]
  serviceProfile := makeSnapshot demoLibrary.toLibrary demoProfile demoDeployment
  evidence := [
    { (default : EvidenceRow) with
      evidenceId := "ev-1", resourceType := "Service", resourceName := "web", data := demoService },
    { (default : EvidenceRow) with
      evidenceId := "ev-2", resourceType := "Deployment", resourceName := "web",
      data := demoDeployment }]
  diagnosis := .obj [("fault_category", .str demoDiagnosis.faultCategory.value),
    ("evidence_ids", .arr (demoDiagnosis.evidenceIds.map .str)),
    ("runbook_ids", .arr (demoDiagnosis.runbookIds.map .str))]
  retrievedRunbooks := [.obj [("runbook_id", .str "rb-1")]]

/-- A plan that puts the selector right, in words of its own. -/
def demoPlan (summary : String) : RemediationPlan where
  targetUid := none
  action := .patchServiceSelector
  parameters := { (default : RemediationParameters) with
    namespaceName := safeNamespace
    resourceKind := .service
    resourceName := "web"
    currentSelector := [⟨"app", "old"⟩]
    proposedSelector := [⟨"app", "web"⟩] }
  riskLevel := .medium
  summary := summary
  expectedResult := "the Service has endpoints"
  rollbackPlan := "the old selector"
  evidenceIds := ["ev-1", "ev-2"]
  runbookIds := ["rb-1"]
  requiresApproval := true

/-- The plan passes the gate. -/
theorem demoPlan_gated : ∃ profile row facts d a,
    WriteGate demoLibrary demoState (demoPlan "select the pods") profile row facts d a := by
  have haccepted : validateRemediationPlan demoLibrary (demoPlan "select the pods") demoState =
    .ok (demoPlan "select the pods") := by decide +kernel
  exact accepted_gated haccepted rfl

/-- Two such plans write the same. -/
theorem demoPlan_forced : SameWrite (demoPlan "select the pods") (demoPlan "repair the routing") ∧
    ∃ profile row, WritesRegistered demoLibrary demoState (demoPlan "select the pods") profile
      row := by
  have haccepted : validateRemediationPlan demoLibrary (demoPlan "select the pods") demoState =
    .ok (demoPlan "select the pods") := by decide +kernel
  have hother : validateRemediationPlan demoLibrary (demoPlan "repair the routing") demoState =
    .ok (demoPlan "repair the routing") := by decide +kernel
  exact accepted_forced haccepted hother rfl rfl

end IncidentAgent
