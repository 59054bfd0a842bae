import IncidentAgent.Investigation.Current
import IncidentAgent.Workflow.Runs

/-!
# The decisions of an investigation

What a model decides is data, and it is checked before anything is made of it (`validateDecision`).
It may name only references of its prompt, with the tools for them, and cite only evidence of the
prompt; a diagnosis has to pass the checks of the program on the evidence as it is, and a plan has to
be one of the actions that the program allows for this diagnosis. Who is shown a terminal prompt may
only conclude or stop.

`Admitted` says what holds of a decision that passes, `validateDecision_admits` that it does.
-/

namespace IncidentAgent

/-- What an investigation takes from libraries, besides what all workflows do. -/
structure InvestigationLibrary extends WorkflowLibrary where
  /-- `Decision.model_validate`. -/
  decision : Json → Option Decision
  /-- The digest of a run and a resource. -/
  refDigest : String → Json → String
  /-- The digests of the samples. -/
  sampling : SamplingEnv
  /-- `str.isalnum`, of a character. -/
  isAlnum : Char → Bool
  /-- `json.dumps(value, ensure_ascii=False, default=str)`. -/
  outputText : Json → String

/-- The run that an investigation is for, as its lease tells. -/
structure RunScope where
  runId : String
  incidentId : String
  inputPayload : Json
  deriving DecidableEq, Inhabited

/-! ### Prompts -/

/-- The current version of the context, and the one of runs that were begun before it. -/
def contextVersions : List String :=
  ["investigation-context-v3.2-probe-view", "investigation-context-v3.1-log-window"]

/-- `unique_evidence`, of the rows that are left, after the rows that were seen. -/
def uniqueEvidence (digest : Json → String) (seen : List (String × String)) :
    List SavedRow → Except Raised (List SavedRow)
  | [] => pure []
  | row :: rest =>
    match seen.lookup row.evidenceId with
    | some fingerprint => do
      raiseIf (fingerprint ≠ digest row.dump) (valueError "CONFLICTING_EVIDENCE_ID")
      uniqueEvidence digest seen rest
    | none => do
      let rows ← uniqueEvidence digest ((row.evidenceId, digest row.dump) :: seen) rest
      pure (row :: rows)

/-- Two rows show different objects of one name. -/
def identityConflict (row row' : EvidenceRow) : Bool :=
  (row.data.get "uid").truthy && (row'.data.get "uid").truthy &&
    row.resourceType = row'.resourceType && row.resourceName = row'.resourceName &&
    row.data.get "namespace" = row'.data.get "namespace" && row.data.get "uid" ≠ row'.data.get "uid"

/-- `r["runbook_id"]`, of all runbooks. -/
def runbookIds : List Json → Except Raised (List Json)
  | [] => pure []
  | runbook :: rest => do
    let id ← rowOr (runbook.get? "runbook_id") ⟨"KeyError", none, none⟩
    let ids ← runbookIds rest
    pure (id :: ids)

/-- `ToolBoundaryError`, `DiagnosisAssessmentRejected` and all others that are a `ValueError`. -/
def Raised.isRejection (e : Raised) : Bool :=
  e.isValueError || e.errorType ∈
    ["InvalidDiagnosisReference", "ToolBoundaryError", "DiagnosisAssessmentRejected"]

/-- `except (BudgetExceeded, IncompleteRequest, ValueError)`. -/
def Raised.isInterruption (e : Raised) : Bool :=
  e.isRejection || e.errorType ∈ ["BudgetExceeded", "IncompleteRequest"]

section

variable (lib : InvestigationLibrary)

/-- `build_context`. A terminal call is shown no resources. -/
def buildContext (current : Current) (refs : Catalog) (basis : PromptBasis) :
    Except Raised Prompt := do
  raiseIf (basis.contextVersion ∉ contextVersions) (valueError "UNSUPPORTED_CONTEXT_VERSION")
  let facts ← diagnosticFactsOf lib.toCheckLibrary current.state.toPolicyState
  let shown ← uniqueEvidence lib.digest [] current.evidence
  let runbooks ← runbookIds current.baseline.retrievedRunbooks
  pure { toPromptBasis := basis
         facts := facts
         identityConflicts := current.evidence.any fun row => current.evidence.any fun row' =>
           identityConflict row.toEvidenceRow row'.toEvidenceRow
         resources := if basis.terminalOnly then [] else refs.map Prod.fst
         evidenceIds := shown.map fun row => row.evidenceId
         runbookIds := runbooks }

/-! ### Checks -/

/-- A request of a batch, before its parameters are looked at. -/
def validateRaw (refs : Catalog) (prompt : Prompt) (request : Json) : Except Raised PUnit := do
  validateBoundary refs request
  match request.get "resource_ref" with
  | .str resource =>
    raiseIf (resource ∉ prompt.resources) (boundaryError "RESOURCE_NOT_IN_CONTEXT")
  | _ => pure ⟨⟩

/-- The boundary of a whole batch, as the model has written it. -/
def validateBatch (refs : Catalog) (prompt : Prompt) (value : Json) : Except Raised PUnit :=
  let raw := value.get "decision"
  if raw.hasText "action" "collect" then
    (raw.get "requests").items.forM (validateRaw refs prompt)
  else .ok ⟨⟩

/-- The keys of the queries of a batch. -/
def batchKeys (env : SamplingEnv) (prompt : Prompt) :
    List SampledRequest → Except Raised (List String)
  | [] => pure []
  | request :: rest => do
    raiseIf (request.resourceRef ∉ prompt.resources) (boundaryError "RESOURCE_NOT_IN_CONTEXT")
    let key ← queryKey env request
    let keys ← batchKeys env prompt rest
    pure (key :: keys)

/-- `DiagnosisAssessmentRejected(message)`. -/
def assessmentRejected (message : String) : Raised :=
  ⟨"DiagnosisAssessmentRejected", none, some message⟩

/-- `except (InvalidDiagnosisReference, InvalidDiagnosisAssessment) as error`, which is kept. -/
def keptError : Except Raised PUnit → Except Raised (List Raised)
  | .ok _ => .ok []
  | .error e => if e.isInvalidDiagnosis then .ok [e] else .error e

/-- Both checks of a diagnosis, with the errors of both of them. -/
def validateBoth (d : Diagnosis) (state : RemediationState) : Except Raised PUnit := do
  let references ← keptError (validateDiagnosisReferences lib.toReportLibrary d state)
  let assessments ← keptError
    (validateDiagnosisAssessment lib.toPolicyLibrary d state.toPolicyState)
  let errors := references ++ assessments
  let message := "; ".intercalate (errors.map lib.errorText)
  raiseIf (errors ≠ []) (if errors.any fun e => e.errorType = "InvalidDiagnosisReference" then
    valueError message else assessmentRejected message)

/-- The references of a diagnosis are those of the prompt. -/
def validateShown (prompt : Prompt) (d : Diagnosis) : Except Raised PUnit := do
  raiseIf (¬ ((∀ id ∈ d.evidenceIds, id ∈ prompt.evidenceIds) ∧
      ∀ id ∈ d.runbookIds, Json.str id ∈ prompt.runbookIds))
    (valueError "DIAGNOSIS_REFERENCES_NOT_IN_CONTEXT")
  let claims := d.assessment.elim [] fun a =>
    a.symptoms ++ a.rootCauseHypotheses.map RootCauseHypothesis.toDiagnosticFinding
  raiseIf (∃ claim ∈ claims, ∃ id ∈ claim.evidenceIds, id ∉ prompt.evidenceIds)
    (valueError "CLAIM_REFERENCES_NOT_IN_CONTEXT")

/-- What may not be taken for health. -/
def validateHealth (prompt : Prompt) (current : Current) (d : Diagnosis) : Except Raised PUnit := do
  raiseIf (d.faultCategory = .noFaultDetected ∧ ∃ row ∈ current.evidence, row.error.getD "" ≠ "")
    (valueError "FAILED_OBSERVATION_CANNOT_PROVE_HEALTH")
  raiseIf (d.faultCategory = .noFaultDetected ∧ prompt.identityConflicts = true)
    (valueError "CONFLICTING_IDENTITY_CANNOT_PROVE_HEALTH")

/-- The checks of a diagnosis. What it mentions without citing is added to its citations. -/
def validateDiagnosis (prompt : Prompt) (current : Current) (d : Diagnosis) :
    Except Raised (Diagnosis × List String) := do
  validateShown prompt d
  let shown := current.evidence.filter fun row => row.evidenceId ∈ prompt.evidenceIds
  let reconciled ← reconcileDeclaredEvidence lib.toReportLibrary d
    (Current.mk current.baseline shown).state
  validateBoth lib reconciled.1 current.state
  validateHealth prompt current reconciled.1
  pure reconciled

/-- `validate_decision`, of a decision that was parsed: what is left of it, and the citations that
were added. -/
def validateParsed (env : SamplingEnv) (prompt : Prompt) (current : Current) :
    Decision → Except Raised (Decision × List String)
  | .collect fact reason ids requests resample => do
    let keys ← batchKeys env prompt requests
    raiseIf (¬ keys.Nodup) (valueError "DUPLICATE_REQUEST_IN_BATCH")
    pure (.collect fact reason ids (requests.map SampledRequest.executed) resample, [])
  | .conclude d => do
    let checked ← validateDiagnosis lib prompt current d
    pure (.conclude checked.1, checked.2)
  | .proposePlan d candidate => do
    let checked ← validateDiagnosis lib prompt current d
    let allowed ← getAllowedRemediationActions lib.toPolicyLibrary
      (current.diagnosed (checked.1.dump lib.toWorkflowLibrary))
    raiseIf (candidate ∉ allowed) (valueError "REPAIR_CANDIDATE_NOT_ALLOWED")
    pure (.proposePlan checked.1 candidate, checked.2)
  | .askUser question reason ids slot => pure (.askUser question reason ids slot, [])
  | .stop reason ids unknowns => pure (.stop reason ids unknowns, [])

/-- `validate_decision`. -/
def validateDecision (runId : String) (refs : Catalog) (prompt : Prompt) (current : Current)
    (terminal : Bool) (value : Json) : Except Raised (Decision × List String) := do
  validateBatch refs prompt value
  let decision ← rowOr (lib.decision value) ⟨"ValidationError", none, none⟩
  raiseIf (terminal = true ∧ decision.action ∉ ["conclude", "stop"]) (valueError "TERMINAL_ONLY")
  raiseIf (∃ id ∈ decision.evidenceIds, id ∉ prompt.evidenceIds)
    (valueError "EVIDENCE_NOT_IN_CONTEXT")
  validateParsed lib (lib.sampling.within refs runId) prompt current decision

end

/-! ### What is admitted -/

/-- A request names a reference of a catalog, with a tool for it. -/
structure SampledRequest.Refers (refs : Catalog) (request : SampledRequest) (ref : BoundRef) :
    Prop where
  known : refs.lookup request.resourceRef = some ref
  kind : ref.kind = request.tool.kind

/-- The checks that a diagnosis has passed. -/
structure Diagnosis.Sound (lib : InvestigationLibrary) (d : Diagnosis) (current : Current) :
    Prop where
  references : validateDiagnosisReferences lib.toReportLibrary d current.state = .ok ⟨⟩
  assessment : validateDiagnosisAssessment lib.toPolicyLibrary d current.state.toPolicyState =
    .ok ⟨⟩
  /-- No health is concluded from an observation that has failed. -/
  health : d.faultCategory = .noFaultDetected → ∀ row ∈ current.evidence, row.error.getD "" = ""

/-- **What holds of a decision that is admitted.** -/
structure Admitted (lib : InvestigationLibrary) (refs : Catalog) (prompt : Prompt)
    (current : Current) (terminal : Bool) (decision : Decision) : Prop where
  terminal : terminal = true → decision.action = "conclude" ∨ decision.action = "stop"
  /-- What is requested is a resource of the prompt and of the catalog, with a tool for it. -/
  requests : ∀ fact reason ids requests resample,
    decision = .collect fact reason ids requests resample → ∀ request ∈ requests,
      request.resourceRef ∈ prompt.resources ∧ ∃ ref, request.Refers refs ref
  diagnosis : ∀ d, decision.diagnosis = some d → d.Sound lib current
  /-- The action of a plan is one that the program allows for its diagnosis. -/
  candidate : ∀ d candidate, decision = .proposePlan d candidate →
    ∃ allowed, getAllowedRemediationActions lib.toPolicyLibrary
      (current.diagnosed (d.dump lib.toWorkflowLibrary)) = .ok allowed ∧ candidate ∈ allowed

section Admitted

variable {lib : InvestigationLibrary} {refs : Catalog} {runId : String} {prompt : Prompt}
  {current : Current} {request : SampledRequest}

theorem lookup_within (key : String) : (lib.sampling.within refs runId).refs.lookup key =
    (refs.lookup key).map BoundRef.toCatalogRef := by
  simp only [SamplingEnv.within]
  induction refs with
  | nil => rfl
  | cons r rest ih =>
    obtain ⟨k, ref⟩ := r
    rw [List.map_cons, List.lookup_cons, List.lookup_cons, ih]
    cases key == k <;> rfl

theorem executed_resourceRef : request.executed.resourceRef = request.resourceRef := by
  unfold SampledRequest.executed
  split <;> rfl

theorem executed_tool : request.executed.tool = request.tool := by
  unfold SampledRequest.executed
  split <;> rfl

/-- A request that is validated refers to the catalog. -/
theorem refers_of_validateRequest {ref : CatalogRef}
    (h : validateRequest (lib.sampling.within refs runId) request = .ok ref) :
    ∃ bound, request.Refers refs bound ∧ bound.toCatalogRef = ref := by
  simp only [validateRequest, bind_eq_ok, rowOr_eq_ok, raiseIf_eq_ok, pure_eq_ok, not_not] at h
  obtain ⟨ref, hlookup, -, hkind, -, -, rfl⟩ := h
  rw [lookup_within] at hlookup
  obtain ⟨bound, hbound, rfl⟩ := Option.map_eq_some_iff.1 hlookup
  exact ⟨bound, ⟨hbound, hkind⟩, rfl⟩

theorem refers_of_batchKeys {requests : List SampledRequest} {keys : List String}
    (h : batchKeys (lib.sampling.within refs runId) prompt requests = .ok keys) :
    ∀ request ∈ requests,
      request.resourceRef ∈ prompt.resources ∧ ∃ ref, request.Refers refs ref := by
  induction requests generalizing keys with
  | nil =>
    intro request hrequest
    cases hrequest
  | cons first rest ih =>
    simp only [batchKeys, bind_eq_ok, raiseIf_eq_ok, pure_eq_ok, not_not, queryKey] at h
    obtain ⟨-, hshown, key, ⟨ref, hvalid, -⟩, keys, hkeys, -⟩ := h
    intro request hrequest
    rcases List.mem_cons.1 hrequest with rfl | hrequest
    · obtain ⟨bound, hrefers, -⟩ := refers_of_validateRequest hvalid
      exact ⟨hshown, bound, hrefers⟩
    · exact ih hkeys request hrequest

/-- An error that is kept is one of the checks. -/
theorem keptError_eq_nil {x : Except Raised PUnit} (h : keptError x = .ok []) : x = .ok ⟨⟩ := by
  cases x with
  | ok u => rfl
  | error e =>
    simp only [keptError] at h
    split at h <;> cases h

/-- **A diagnosis that passes is sound** on the evidence as it is. -/
theorem validateDiagnosis_eq_ok {d : Diagnosis} {checked : Diagnosis × List String}
    (h : validateDiagnosis lib prompt current d = .ok checked) : checked.1.Sound lib current := by
  simp only [validateDiagnosis, validateBoth, validateHealth, bind_eq_ok, raiseIf_eq_ok, pure_eq_ok,
    not_not, List.append_eq_nil_iff] at h
  obtain ⟨-, -, reconciled, -, -, ⟨references, hreferences, assessments, hassessments, rfl, rfl⟩,
    -, ⟨-, hfailed, -⟩, rfl⟩ := h
  refine ⟨keptError_eq_nil hreferences, keptError_eq_nil hassessments, fun hcategory row hrow => ?_⟩
  by_contra herror
  exact hfailed ⟨hcategory, row, hrow, herror⟩

/-- **A decision that passes is admitted.** -/
theorem validateDecision_admits {terminal : Bool} {value : Json} {decision : Decision}
    {added : List String}
    (h : validateDecision lib runId refs prompt current terminal value = .ok (decision, added)) :
    Admitted lib refs prompt current terminal decision := by
  simp only [validateDecision, bind_eq_ok, rowOr_eq_ok, raiseIf_eq_ok] at h
  obtain ⟨-, -, parsed, -, -, hterminal, -, -, hparsed⟩ := h
  have hend : parsed.action = decision.action →
      terminal = true → decision.action = "conclude" ∨ decision.action = "stop" := by
    intro haction ht
    rw [← haction]
    by_contra hother
    exact hterminal ⟨ht, by simpa using hother⟩
  cases parsed with
  | collect fact reason ids requests resample =>
    simp only [validateParsed, bind_eq_ok, raiseIf_eq_ok, pure_eq_ok] at hparsed
    obtain ⟨keys, hkeys, -, -, heq⟩ := hparsed
    obtain ⟨rfl, rfl⟩ := Prod.mk.inj heq
    refine ⟨hend rfl, ?_, fun d hd => (by cases hd), fun d c hd => (by cases hd)⟩
    intro fact' reason' ids' requests' resample' heq request hrequest
    obtain ⟨-, -, -, rfl, -⟩ := Decision.collect.inj heq
    obtain ⟨first, hfirst, rfl⟩ := List.mem_map.1 hrequest
    obtain ⟨hshown, ref, hknown, hkind⟩ := refers_of_batchKeys hkeys first hfirst
    exact ⟨by rwa [executed_resourceRef], ref, by rwa [executed_resourceRef], by rwa [executed_tool]⟩
  | conclude d =>
    simp only [validateParsed, bind_eq_ok, pure_eq_ok] at hparsed
    obtain ⟨checked, hchecked, heq⟩ := hparsed
    obtain ⟨rfl, rfl⟩ := Prod.mk.inj heq
    refine ⟨hend rfl, by rintro _ _ _ _ _ ⟨⟩, ?_, by rintro _ _ ⟨⟩⟩
    rintro d' ⟨⟩
    exact validateDiagnosis_eq_ok hchecked
  | proposePlan d candidate =>
    simp only [validateParsed, bind_eq_ok, raiseIf_eq_ok, pure_eq_ok, not_not] at hparsed
    obtain ⟨checked, hchecked, allowed, hallowed, -, hmem, heq⟩ := hparsed
    obtain ⟨rfl, rfl⟩ := Prod.mk.inj heq
    refine ⟨hend rfl, by rintro _ _ _ _ _ ⟨⟩, ?_, ?_⟩
    · rintro d' ⟨⟩
      exact validateDiagnosis_eq_ok hchecked
    · rintro d' candidate' ⟨⟩
      exact ⟨allowed, hallowed, hmem⟩
  | askUser question reason ids slot | stop question ids unknowns =>
    obtain ⟨rfl, rfl⟩ := Prod.mk.inj (Except.ok.inj hparsed)
    exact ⟨hend rfl, by rintro _ _ _ _ _ ⟨⟩, by rintro _ ⟨⟩, by rintro _ _ ⟨⟩⟩

end Admitted

/-! ### A decision that is admitted -/

/-- A library that reads one decision, and a document as the plan for its action. -/
def driftInvestigation : InvestigationLibrary :=
  { driftLibrary with
    plan := fun document =>
      if document.get "action" = .str (driftPlan none).action.value then some (driftPlan none)
      else none
    decision := fun value =>
      if value = .str "repair" then some (.proposePlan driftDiagnosis .patchServiceSelector)
      else none
    refDigest := fun _ => Json.text
    sampling := podEnv
    isAlnum := Char.isAlphanum
    outputText := Json.text }

/-- The baseline of a Service whose selector has drifted. -/
def driftBaseline : Baseline where
  incidentId := "a-1"
  request := driftIncident
  roundContext := .null
  serviceProfile := demoState.serviceProfile
  evidence := [
    { (default : EvidenceRow) with
      evidenceId := "ev-a-001", resourceType := "Service", resourceName := "web",
      data := demoService.insert "uid" (.str "svc-1") },
    { (default : EvidenceRow) with
      evidenceId := "ev-a-003", resourceType := "Deployment", resourceName := "web",
      data := demoDeployment }]
  retrievedRunbooks := demoState.retrievedRunbooks

/-- What is known before anything is collected. -/
def driftCurrent : Current := driftBaseline.current podEnv.instant []

/-- The prompt of the first step. -/
def driftPrompt : Except Raised Prompt :=
  buildContext driftInvestigation driftCurrent []
    ⟨contextVersions.headD "", false, [], none, [], []⟩

theorem validateDecision_admits_drift : ∃ prompt, driftPrompt = .ok prompt ∧
    Admitted driftInvestigation [] prompt driftCurrent false
      (.proposePlan driftDiagnosis .patchServiceSelector) := by
  have hprompt : driftPrompt.toOption.any (fun prompt => decide
      (validateDecision driftInvestigation "run-1" [] prompt driftCurrent false (.str "repair") =
        .ok (.proposePlan driftDiagnosis .patchServiceSelector, []))) = true := by decide +kernel
  cases hbuilt : driftPrompt with
  | error e => simp [hbuilt, Except.toOption] at hprompt
  | ok prompt =>
    rw [hbuilt] at hprompt
    exact ⟨prompt, rfl, validateDecision_admits (of_decide_eq_true hprompt)⟩

end IncidentAgent
