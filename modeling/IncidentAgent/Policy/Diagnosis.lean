import IncidentAgent.Policy.Facts

/-!
# Diagnoses and their assessment

A diagnosis is what the model concludes. It says nothing that the policy does not check: the
status of the resources and of the business checks has to be the one that `diagnosticFacts`
computes, every citation has to be declared, and a category that names a drift of the
configuration needs that drift in evidence and a supported hypothesis that cites it
(`validateDiagnosisAssessment`).
-/

namespace IncidentAgent

/-! ### Diagnoses -/

/-- The text of a category. -/
def FaultCategory.value : FaultCategory → String
  | .crashLoopBackoff => "crash_loop_backoff"
  | .imagePullBackoff => "image_pull_backoff"
  | .oomKilled => "oom_killed"
  | .readinessProbeError => "readiness_probe_error"
  | .serviceSelectorMismatch => "service_selector_mismatch"
  | .applicationError => "application_error"
  | .dependencyError => "dependency_error"
  | .noFaultDetected => "no_fault_detected"
  | .unknown => "unknown"

/-- `problem_domain`. -/
inductive ProblemDomain
  | deploymentConfiguration
  | applicationRuntime
  | dependency
  | insufficientEvidence
  | none
  deriving DecidableEq, Inhabited

/-- The text of a domain. -/
def ProblemDomain.value : ProblemDomain → String
  | .deploymentConfiguration => "deployment_configuration"
  | .applicationRuntime => "application_runtime"
  | .dependency => "dependency"
  | .insufficientEvidence => "insufficient_evidence"
  | .none => "none"

/-- `DiagnosticFinding`. -/
structure DiagnosticFinding where
  summary : String
  evidenceIds : List String
  deriving DecidableEq, Inhabited

/-- The status of a hypothesis. -/
inductive HypothesisStatus
  | suspected
  | supported
  deriving DecidableEq, Inhabited

/-- `RootCauseHypothesis`. -/
structure RootCauseHypothesis extends DiagnosticFinding where
  status : HypothesisStatus
  deriving DecidableEq, Inhabited

/-- `DiagnosticAssessment`. -/
structure DiagnosticAssessment where
  problemDomain : ProblemDomain
  symptoms : List DiagnosticFinding
  rootCauseHypotheses : List RootCauseHypothesis
  missingEvidence : List String
  nextInvestigation : List String
  resourceStatus : ResourceStatus
  businessStatus : BusinessStatus
  unverifiedScope : List String
  deriving DecidableEq, Inhabited

/-- `Diagnosis`. The confidence is the value of a double. -/
structure Diagnosis where
  assessment : Option DiagnosticAssessment
  faultCategory : FaultCategory
  rootCause : String
  evidenceIds : List String
  runbookIds : List String
  confidence : Rat
  reasoningSummary : String
  deriving DecidableEq, Inhabited

/-- What the policy takes from libraries, besides what the checks do. -/
structure PolicyLibrary extends CheckLibrary where
  /-- `repr(value)`. -/
  pyRepr : Json → String
  /-- `Diagnosis.model_validate`. -/
  diagnosis : Json → Option Diagnosis
  /-- A validated diagnosis has the category of its document. -/
  diagnosis_category : ∀ {document : Json} {d : Diagnosis}, diagnosis document = some d →
    document.get "fault_category" = .str d.faultCategory.value

/-! ### Facts that cannot be computed -/

/-- `diagnostic_facts`, which takes the first Deployment row without an error: where the row
of a matched profile has one, there is none to take. -/
def diagnosticFactsOf (lib : CheckLibrary) (state : PolicyState) : Except Raised DiagnosticFacts :=
  match matchedProfile lib.toLibrary state with
  | .error _ => .ok .none
  | .ok profile =>
    match rowsNamed (state.evidence.filter fun e => e.error.isNone) "Deployment"
        profile.deploymentName with
    | [] => .error ⟨"IndexError", none, none⟩
    | row :: _ => .ok (factsOf lib state profile row)

/-- The facts that can be computed are those of the state. -/
theorem diagnosticFactsOf_eq_ok {lib : CheckLibrary} {state : PolicyState}
    {facts : DiagnosticFacts} (h : diagnosticFactsOf lib state = .ok facts) :
    diagnosticFacts lib state = facts := by
  cases hmatched : matchedProfile lib.toLibrary state with
  | error reason =>
    simp only [diagnosticFactsOf, hmatched] at h
    simp only [diagnosticFacts, hmatched]
    exact Except.ok.inj h
  | ok profile =>
    simp only [diagnosticFactsOf, hmatched] at h
    simp only [diagnosticFacts, hmatched]
    cases hrows : rowsNamed (state.evidence.filter fun e => e.error.isNone) "Deployment"
        profile.deploymentName with
    | nil =>
      rw [hrows] at h
      cases h
    | cons row rest =>
      rw [hrows] at h
      exact Except.ok.inj h

/-! ### The assessment -/

/-- `DIAGNOSIS_DOMAINS`. -/
def FaultCategory.domains : FaultCategory → List ProblemDomain
  | .serviceSelectorMismatch | .readinessProbeError => [.deploymentConfiguration]
  | .applicationError | .crashLoopBackoff | .oomKilled => [.applicationRuntime]
  | .dependencyError => [.dependency]
  | .unknown => [.insufficientEvidence]
  | .noFaultDetected => [.none]
  | .imagePullBackoff => [.deploymentConfiguration, .dependency, .insufficientEvidence]

/-- `CONFIGURATION_DRIFT`: the fact that a category of configuration stands for. -/
def FaultCategory.drift? (facts : DiagnosticFacts) : FaultCategory → Option (String × Bool)
  | .serviceSelectorMismatch => some ("selector_drift", facts.selectorDrift)
  | .readinessProbeError => some ("readiness_drift", facts.readinessDrift)
  | _ => none

/-- `str(flag)`. -/
def shownBool (b : Bool) : String := if b then "True" else "False"

/-- `str(texts)` of a tuple of plain identifiers. -/
def shownTuple (texts : List String) : String :=
  "(" ++ ", ".intercalate (texts.map fun t => "'" ++ t ++ "'") ++
    (if texts.length = 1 then ",)" else ")")

/-- `sorted(set(texts) - set(known))`. -/
def sortedMissing (texts known : List String) : List String :=
  (texts.eraseDups.filter fun t => t ∉ known).mergeSort fun a b => a ≤ b

/-- `InvalidDiagnosisAssessment(message)`. -/
def invalidAssessment (message : String) : Raised := ⟨"InvalidDiagnosisAssessment", none, some message⟩

/-- `require(condition, message)`. -/
def require (condition : Prop) [Decidable condition] (message : String) : Except Raised PUnit :=
  raiseIf (¬condition) (invalidAssessment message)

theorem require_eq_ok {condition : Prop} [Decidable condition] {message : String} {u : PUnit} :
    require condition message = .ok u ↔ condition := by
  rw [require, raiseIf_eq_ok, not_not]

/-- The supported hypotheses that do not cite all of the configuration. -/
def missingByHypothesis (required : List String) (hypotheses : List RootCauseHypothesis) :
    List Json :=
  (hypotheses.mapIdx fun index h => (index, h)).filterMap fun entry =>
    if entry.2.status = .supported ∧ ∃ id ∈ required, id ∉ entry.2.evidenceIds then
      some (.obj [("hypothesis_index", .num entry.1),
        ("field", .str ("assessment.root_cause_hypotheses[" ++ toString entry.1 ++
          "].evidence_ids")),
        ("missing_evidence_ids",
          .arr ((sortedMissing required entry.2.evidenceIds).map .str))])
    else none

/-- Whether some supported hypothesis cites all of the configuration. -/
def citesConfiguration (facts : DiagnosticFacts) (a : DiagnosticAssessment) : Prop :=
  ∃ h ∈ a.rootCauseHypotheses, h.status = .supported ∧
    ∀ id ∈ facts.configurationEvidenceIds, id ∈ h.evidenceIds

instance (facts : DiagnosticFacts) (a : DiagnosticAssessment) :
    Decidable (citesConfiguration facts a) := by
  unfold citesConfiguration
  infer_instance

/-- The checks of a diagnosis of the configuration. -/
def validateConfiguration (lib : PolicyLibrary) (d : Diagnosis) (a : DiagnosticAssessment)
    (facts : DiagnosticFacts) : Except Raised PUnit :=
  match d.faultCategory.drift? facts with
  | none => .ok ⟨⟩
  | some (key, drift) => do
    require (drift = true) ("configuration diagnosis requires version-matched registered configuration drift: " ++
      d.faultCategory.value ++ " requires " ++ key ++ "=true, actual=" ++ shownBool drift ++ ". " ++
      "Probe HTTP 503 alone is a symptom, not configuration drift. Reassess using diagnosis_contract; " ++
      "if the cause is uncertain, conclude unknown/insufficient_evidence with symptoms and missing evidence.")
    require (∀ id ∈ facts.configurationEvidenceIds, id ∈ d.evidenceIds)
      "configuration diagnosis must cite Service and registered Deployment"
    let missing := missingByHypothesis facts.configurationEvidenceIds a.rootCauseHypotheses
    require (missing = []) ("SUPPORTED_CONFIGURATION_REFERENCES_INCOMPLETE: each supported configuration " ++
      "hypothesis must itself cite Service and registered Deployment evidence; " ++
      "missing=" ++ lib.pyRepr (.arr missing) ++ ". Reassess the evidence: cite it only if it " ++
      "supports this claim; otherwise keep the hypothesis suspected and state " ++
      "the genuine missing evidence. Top-level evidence_ids alone are insufficient.")

/-- Whether a fault of the configuration is supported well enough to need no further
investigation. -/
def groundedConfiguration (d : Diagnosis) (a : DiagnosticAssessment) (facts : DiagnosticFacts) :
    Prop :=
  (∃ entry ∈ d.faultCategory.drift? facts, entry.2 = true) ∧
    facts.configurationEvidenceComplete = true ∧ facts.businessStatus ≠ .failed ∧
    facts.currentRuntimeFaults = [] ∧ citesConfiguration facts a

instance (d : Diagnosis) (a : DiagnosticAssessment) (facts : DiagnosticFacts) :
    Decidable (groundedConfiguration d a facts) := by
  unfold groundedConfiguration
  infer_instance

/-- The checks of a diagnosis that finds no fault, and of one that finds one or cannot tell. -/
def validateConclusion (d : Diagnosis) (a : DiagnosticAssessment) (facts : DiagnosticFacts) :
    Except Raised PUnit :=
  if d.faultCategory = .noFaultDetected then do
    require (facts.resourceStatus = .ready ∧ facts.businessStatus = .passed ∧
        facts.readinessDrift = false ∧ facts.currentRuntimeFaults = [])
      "no_fault_detected requires ready resources and all registered business checks passed, without current drift/failure"
    require (∀ id ∈ facts.resourceEvidenceIds, id ∈ d.evidenceIds)
      "no_fault_detected must cite current resource evidence"
    require (a.rootCauseHypotheses = []) "no_fault_detected must not assert an active root cause"
  else
    require (groundedConfiguration d a facts ∨ a.missingEvidence ≠ [] ∧ a.nextInvestigation ≠ [])
      "fault/unknown diagnosis must state missing evidence and next investigation"

/-- `0.6`, as a double. -/
def maxUnknownConfidence : Rat := 5404319552844595 / 9007199254740992

/-- The checks of the categories that are not about the configuration. -/
def validateCategory (d : Diagnosis) (a : DiagnosticAssessment) (facts : DiagnosticFacts) :
    Except Raised PUnit := do
  require (d.faultCategory = .unknown → d.confidence ≤ maxUnknownConfidence)
    "unknown confidence must be <= 0.6"
  require (d.faultCategory = .applicationError →
      facts.businessStatus = .failed ∨ facts.currentRuntimeFaults ≠ [])
    "application_error needs a current observed failure, not connection error alone"
  require (d.faultCategory ∈ [.crashLoopBackoff, .imagePullBackoff, .oomKilled] →
      d.faultCategory ∈ facts.currentRuntimeFaults)
    "historical logs/events/restarts cannot establish a current runtime failure"
  require (d.faultCategory = .dependencyError →
      facts.resourceStatus = .notReady ∨ facts.businessStatus = .failed)
    "dependency hypothesis needs current failure symptoms"
  require (d.faultCategory = .dependencyError →
      ∃ id ∈ facts.currentLogEvidenceIds, id ∈ d.evidenceIds)
    "dependency hypothesis needs current workload log evidence; connection error alone is insufficient"
  require (d.faultCategory = .dependencyError → a.rootCauseHypotheses ≠ [])
    "dependency_error is a suspected cause and requires explicit hypotheses"
  require (d.faultCategory ∉ [.serviceSelectorMismatch, .readinessProbeError] →
      ∀ h ∈ a.rootCauseHypotheses, h.status = .suspected)
    "underlying runtime/dependency causes remain suspected in this evidence scope"

/-- `validate_diagnosis_assessment`. -/
def validateDiagnosisAssessment (lib : PolicyLibrary) (d : Diagnosis) (state : PolicyState) :
    Except Raised PUnit := do
  let a ← rowOr d.assessment
    (invalidAssessment "new diagnosis requires assessment schema_version=v2")
  let facts ← diagnosticFactsOf lib.toCheckLibrary state
  require (a.resourceStatus = facts.resourceStatus)
    "resource_status must equal policy_facts.resource_status"
  require (a.businessStatus = facts.businessStatus)
    "business_status must equal policy_facts.business_status"
  require (∀ finding ∈ a.symptoms ++ a.rootCauseHypotheses.map (·.toDiagnosticFinding),
      ∀ id ∈ finding.evidenceIds, id ∈ d.evidenceIds)
    "finding references must be declared in diagnosis.evidence_ids"
  require (∀ id ∈ facts.businessEvidenceIds, id ∈ d.evidenceIds)
    "diagnosis must cite collected registered BusinessCheck results"
  require (a.problemDomain ∈ d.faultCategory.domains)
    ("problem_domain contradicts fault_category: " ++
      "fault_category=" ++ d.faultCategory.value ++ ", actual_domain=" ++ a.problemDomain.value ++
      ", allowed_domains=" ++ shownTuple (d.faultCategory.domains.map ProblemDomain.value) ++ "; " ++
      "readiness_drift=" ++ shownBool facts.readinessDrift ++ ", selector_drift=" ++
      shownBool facts.selectorDrift ++ ". " ++
      "Reassess the category, not just the domain: readiness_probe_error means verified probe configuration drift, " ++
      "not HTTP 503 alone. Without supporting evidence choose unknown/insufficient_evidence, " ++
      "confidence<=0.6, with symptoms, missing evidence and next investigation; do not invent drift.")
  validateConfiguration lib d a facts
  validateConclusion d a facts
  validateCategory d a facts

/-- **What a diagnosis that is accepted says** agrees with the facts. -/
structure Diagnosis.Assessed (d : Diagnosis) (a : DiagnosticAssessment) (facts : DiagnosticFacts) :
    Prop where
  assessment : d.assessment = some a
  resources : a.resourceStatus = facts.resourceStatus
  business : a.businessStatus = facts.businessStatus
  declared : ∀ h ∈ a.rootCauseHypotheses, ∀ id ∈ h.evidenceIds, id ∈ d.evidenceIds
  domain : a.problemDomain ∈ d.faultCategory.domains
  drift : ∀ entry ∈ d.faultCategory.drift? facts, entry.2 = true ∧
    ∀ id ∈ facts.configurationEvidenceIds, id ∈ d.evidenceIds
  faultless : d.faultCategory = .noFaultDetected → facts.resourceStatus = .ready ∧
    facts.businessStatus = .passed ∧ facts.readinessDrift = false ∧ facts.currentRuntimeFaults = []
  runtime : d.faultCategory ∈ [.crashLoopBackoff, .imagePullBackoff, .oomKilled] →
    d.faultCategory ∈ facts.currentRuntimeFaults
  suspected : d.faultCategory ∉ [.serviceSelectorMismatch, .readinessProbeError] →
    ∀ h ∈ a.rootCauseHypotheses, h.status = .suspected

/-- **An accepted diagnosis is assessed**, by the facts of the state. -/
theorem validateDiagnosisAssessment_eq_ok {lib : PolicyLibrary} {d : Diagnosis}
    {state : PolicyState} {u : PUnit} (h : validateDiagnosisAssessment lib d state = .ok u) :
    ∃ a facts, diagnosticFactsOf lib.toCheckLibrary state = .ok facts ∧ d.Assessed a facts := by
  simp only [validateDiagnosisAssessment, bind_eq_ok, rowOr_eq_ok, require_eq_ok] at h
  obtain ⟨a, ha, facts, hfacts, -, hresources, -, hbusiness, -, hfindings, -, -, -, hdomain, _,
    hconfiguration, _, hconclusion, hcategory⟩ := h
  refine ⟨a, facts, hfacts, ⟨ha, hresources, hbusiness, fun h hh id hid => ?_, hdomain,
    fun entry hentry => ?_, fun hnone => ?_, ?_, ?_⟩⟩
  · exact hfindings _ (List.mem_append_right _ (List.mem_map_of_mem hh)) id hid
  · unfold validateConfiguration at hconfiguration
    rw [Option.mem_def] at hentry
    simp only [hentry, bind_eq_ok, require_eq_ok] at hconfiguration
    exact ⟨hconfiguration.choose_spec.1, hconfiguration.choose_spec.2.choose_spec.1⟩
  · simp only [validateConclusion, if_pos hnone, bind_eq_ok, require_eq_ok] at hconclusion
    exact hconclusion.choose_spec.1
  · simp only [validateCategory, bind_eq_ok, require_eq_ok] at hcategory
    obtain ⟨-, -, -, -, -, hruntime, -⟩ := hcategory
    exact hruntime
  · simp only [validateCategory, bind_eq_ok, require_eq_ok] at hcategory
    obtain ⟨-, -, -, -, -, -, -, -, -, -, -, -, hsuspected⟩ := hcategory
    exact hsuspected

end IncidentAgent
