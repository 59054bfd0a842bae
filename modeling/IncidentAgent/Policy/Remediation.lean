import IncidentAgent.Lib.Regex
import IncidentAgent.Policy.Target

/-!
# Remediation plans

What a repair may be is decided by the evidence. `getAllowedRemediationActions` starts from the
actions that belong to the category of the diagnosis and takes away those that the evidence does
not ground; `validateRemediationPlan` checks the rest of a plan: what it cites, what it is about,
that it is no shell command, and that what it writes is what the profile of the service
registers.

The parameters of a plan are free text of a model. `desiredConfiguration` and
`priorConfiguration` are what the executor makes of them.
-/

namespace IncidentAgent

/-- A state in which a repair is planned. -/
structure RemediationState extends PolicyState where
  /-- `state["diagnosis"]`. -/
  diagnosis : Json
  /-- `state["retrieved_runbooks"]`. -/
  retrievedRunbooks : List Json
  deriving DecidableEq, Inhabited

/-- `SAFE_NAMESPACE`. -/
def safeNamespace : String := "agent-demo"

/-- The name of an action. -/
def RemediationActionName.value : RemediationActionName → String
  | .manualInvestigation => "manual_investigation"
  | .patchReadinessProbe => "patch_readiness_probe"
  | .patchServiceSelector => "patch_service_selector"

/-- `action in EXECUTABLE_REMEDIATION_ACTIONS`. -/
def RemediationActionName.executable : RemediationActionName → Bool
  | .manualInvestigation => false
  | .patchReadinessProbe | .patchServiceSelector => true

/-- `ALLOWED_ACTIONS_BY_FAULT_CATEGORY`. -/
def allowedActionsByFaultCategory (category : Json) : List RemediationActionName :=
  if category = .str "readiness_probe_error" then [.manualInvestigation, .patchReadinessProbe]
  else if category = .str "service_selector_mismatch" then
    [.manualInvestigation, .patchServiceSelector]
  else if category ∈ [Json.str "application_error", .str "dependency_error",
      .str "crash_loop_backoff", .str "image_pull_backoff", .str "oom_killed"] then
    [.manualInvestigation]
  else []

/-- `RESOURCE_EVIDENCE_TYPES`. -/
def ResourceKind.evidenceType : ResourceKind → String
  | .service => "Service"
  | .deployment => "Deployment"
  | .pod => "PodStatus"

/-- The words of a shell. -/
def shellWords : List String := ["kubectl", "helm", "bash", "sh", "curl", "wget", "docker"]

/-- `\w`, of ASCII. -/
def isAsciiWord (c : Char) : Bool := c.isAlphanum || c = '_'

/-- A text of a pattern that ignores the case of ASCII letters. -/
def asciiWord (text : String) : Regex := Regex.textBy (fun c d => d.toLower = c) text

/-- `FORBIDDEN_COMMAND_PATTERN`. -/
def forbiddenCommandPattern : Regex :=
  let tick : Regex := .char fun c => c.toNat = 0x60
  Regex.oneOf [.seq tick (.seq tick (Regex.plus tick)), Regex.textBy (fun c d => c = d) "$(",
    .seq (.boundary isAsciiWord)
      (.seq (Regex.oneOf (shellWords.map asciiWord)) (.boundary isAsciiWord))]

/-- `InvalidRemediationPlan(message)`. -/
def invalidPlan (message : String) : Raised := ⟨"InvalidRemediationPlan", none, some message⟩

/-- `except ValueError`, by the names of the exceptions that a policy raises. -/
def Raised.isValueError (e : Raised) : Bool :=
  e.errorType ∈ ["ValueError", "ValidationError", "InvalidDiagnosisAssessment",
    "InvalidRemediationPlan", "ProfileUnavailable"]

/-- `raise InvalidRemediationPlan(str(exc)) from exc`, of a `ValueError`. -/
def asInvalidPlan {α : Type} : Except Raised α → Except Raised α
  | .ok a => .ok a
  | .error e => .error (if e.isValueError then invalidPlan (e.detail.getD "") else e)

/-- The same, of a `ProfileUnavailable`. -/
def unavailableAsInvalid {α : Type} : Except String α → Except Raised α
  | .ok a => .ok a
  | .error reason => .error (invalidPlan reason)

@[simp] theorem asInvalidPlan_eq_ok {α : Type} {x : Except Raised α} {a : α} :
    asInvalidPlan x = .ok a ↔ x = .ok a := by
  cases x <;> simp [asInvalidPlan]

@[simp] theorem unavailableAsInvalid_eq_ok {α : Type} {x : Except String α} {a : α} :
    unavailableAsInvalid x = .ok a ↔ x = .ok a := by
  cases x <;> simp [unavailableAsInvalid]

section

variable (lib : PolicyLibrary)

/-! ### The actions that are allowed -/

/-- `_find_evidence`. -/
def findEvidence (state : RemediationState) (kind name : String) : List EvidenceRow :=
  rowsNamed state.evidence kind name

/-- `_has_grounded_readiness_candidate`. -/
def hasGroundedReadinessCandidate (state : RemediationState) : Except Raised Bool := do
  let facts ← diagnosticFactsOf lib.toCheckLibrary state.toPolicyState
  pure facts.readinessPatchSupported

/-- Whether the only row of a Service shows a selector that is not the registered one. -/
def selectorDiffers (profile : ServiceProfile) : List EvidenceRow → Bool
  | [row] => (row.data.get "selector").isObject &&
      !sameLabels (row.data.get "selector") profile.expectedSelector
  | _ => false

/-- `_has_grounded_selector_candidate`. -/
def hasGroundedSelectorCandidate (state : RemediationState) : Bool :=
  match matchedProfile lib.toLibrary state.toPolicyState with
  | .error _ => false
  | .ok profile => selectorDiffers profile (findEvidence state "Service" profile.serviceName)

/-- The actions of a category without the one that the evidence does not ground. -/
def groundedActions (state : RemediationState) : Except Raised (List RemediationActionName) :=
  let category := state.diagnosis.get "fault_category"
  let actions := allowedActionsByFaultCategory category
  if category = .str "readiness_probe_error" then do
    let grounded ← hasGroundedReadinessCandidate lib state
    pure (if grounded then actions else actions.erase .patchReadinessProbe)
  else if category = .str "service_selector_mismatch" then
    pure (if hasGroundedSelectorCandidate lib state then actions
      else actions.erase .patchServiceSelector)
  else pure actions

/-- The diagnosis of a state, when it is valid and accepted. -/
def acceptedDiagnosis (state : RemediationState) : Except Raised Diagnosis := do
  let parsed ← rowOr (lib.diagnosis state.diagnosis) ⟨"ValidationError", none, none⟩
  validateDiagnosisAssessment lib parsed state.toPolicyState
  pure parsed

/-- Whether the facts allow a write: the configuration is known, nothing contradicts a fault of
it, and a supported hypothesis cites all of it. -/
def writeSupported (facts : DiagnosticFacts) (parsed : Diagnosis) : Prop :=
  facts.configurationEvidenceComplete = true ∧ facts.businessStatus ≠ .failed ∧
    facts.currentRuntimeFaults = [] ∧ ∃ a ∈ parsed.assessment, citesConfiguration facts a

instance (facts : DiagnosticFacts) (parsed : Diagnosis) :
    Decidable (writeSupported facts parsed) := by
  unfold writeSupported
  infer_instance

/-- `actions - EXECUTABLE_REMEDIATION_ACTIONS`. -/
def withoutExecutable (actions : List RemediationActionName) : List RemediationActionName :=
  actions.filter fun action => !action.executable

/-- The actions that are left once the diagnosis has been read. -/
def supportedActions (state : RemediationState) (actions : List RemediationActionName) :
    Except Raised (List RemediationActionName) :=
  match acceptedDiagnosis lib state with
  | .error e => if e.isValueError then .ok (withoutExecutable actions) else .error e
  | .ok parsed => do
    let facts ← diagnosticFactsOf lib.toCheckLibrary state.toPolicyState
    pure (if writeSupported facts parsed then actions else withoutExecutable actions)

/-- `get_allowed_remediation_actions`. -/
def getAllowedRemediationActions (state : RemediationState) :
    Except Raised (List RemediationActionName) := do
  let actions ← groundedActions lib state
  if ∃ action ∈ actions, action.executable = true then supportedActions lib state actions
  else pure actions

/-! ### The checks of a plan -/

/-- `sorted(set(ids) - known)`. -/
def unknownIds (ids : List String) (known : List Json) : List String :=
  (ids.eraseDups.filter fun id => Json.str id ∉ known).mergeSort fun a b => a ≤ b

/-- The identifiers that a plan cites have to be known. -/
def requireKnown (message : String) (ids : List String) (known : List Json) :
    Except Raised PUnit :=
  raiseIf (unknownIds ids known ≠ [])
    (invalidPlan (message ++ lib.pyRepr (.arr ((unknownIds ids known).map .str))))

/-- `_validate_references`. -/
def validateReferences (plan : RemediationPlan) (state : RemediationState) :
    Except Raised PUnit := do
  raiseIf (¬plan.evidenceIds.Nodup) (invalidPlan "duplicate evidence IDs are not allowed")
  raiseIf (¬plan.runbookIds.Nodup) (invalidPlan "duplicate runbook IDs are not allowed")
  requireKnown lib "unknown remediation evidence IDs: " plan.evidenceIds
    ((state.evidence.map fun e => Json.str e.evidenceId).filter Json.truthy)
  requireKnown lib "unknown remediation runbook IDs: " plan.runbookIds
    ((state.retrievedRunbooks.map fun r => r.get "runbook_id").filter Json.truthy)
  requireKnown lib "remediation evidence IDs were not declared by diagnosis: " plan.evidenceIds
    (state.diagnosis.get "evidence_ids").items
  requireKnown lib "remediation runbook IDs were not declared by diagnosis: " plan.runbookIds
    (state.diagnosis.get "runbook_ids").items

/-- `_validate_target`. -/
def validateTargetOf (plan : RemediationPlan) (state : RemediationState) :
    Except Raised PUnit := do
  let p := plan.parameters
  raiseIf (p.namespaceName ≠ safeNamespace) (invalidPlan "remediation namespace is not allowed")
  raiseIf (¬state.request.hasText "namespace" p.namespaceName)
    (invalidPlan "remediation namespace does not match incident request")
  raiseIf (findEvidence state p.resourceKind.evidenceType p.resourceName = [])
    (invalidPlan "remediation target does not exist in collected evidence")

/-- The texts of a plan, with their names. -/
def namedTexts (plan : RemediationPlan) : List (String × String) :=
  [("summary", plan.summary), ("expected_result", plan.expectedResult),
    ("rollback_plan", plan.rollbackPlan)] ++
    plan.parameters.investigationSteps.mapIdx fun i text =>
      ("investigation_steps[" ++ toString i ++ "]", text)

/-- `_validate_text_has_no_commands`. -/
def validateTextHasNoCommands (plan : RemediationPlan) : Except Raised PUnit :=
  (namedTexts plan).forM fun entry =>
    match forbiddenCommandPattern.search entry.2 with
    | none => .ok ⟨⟩
    | some token => .error (invalidPlan
        ("remediation plan contains a forbidden shell command token '" ++ token ++ "' in " ++
          entry.1))

/-- `_validate_action_metadata`. -/
def validateActionMetadata (plan : RemediationPlan) : Except Raised PUnit :=
  if plan.action.executable then do
    raiseIf (plan.requiresApproval ≠ true)
      (invalidPlan "executable remediation requires approval")
    raiseIf (plan.riskLevel ≠ .medium)
      (invalidPlan "executable remediation must have medium risk")
  else do
    raiseIf (plan.requiresApproval ≠ false)
      (invalidPlan "manual investigation must not request execution approval")
    raiseIf (plan.riskLevel ≠ .low) (invalidPlan "manual investigation must have low risk")

/-- `_validate_manual_investigation`. -/
def validateManualInvestigation (plan : RemediationPlan) : Except Raised PUnit := do
  let p := plan.parameters
  raiseIf (p.investigationSteps = []) (invalidPlan "manual investigation requires steps")
  raiseIf (p.proposedProbePath ≠ none ∨ p.proposedProbePort ≠ none ∨ p.proposedSelector ≠ [])
    (invalidPlan "manual investigation must not contain executable mutation parameters")

/-- An optional text that is set. -/
def present (text : Option String) : Bool := text.any fun t => t ≠ ""

/-- An optional text as a value. -/
def textOr (text : Option String) : Json := text.elim .null .str

/-- An optional port as a value. -/
def portOr (port : Option Port) : Json := port.elim .null Port.dump

theorem textOr_injective : Function.Injective textOr := by
  rintro (_ | s) (_ | t) h <;> simp_all [textOr]

theorem portOr_injective : Function.Injective portOr := by
  rintro (_ | _ | _) (_ | _ | _) h <;> simp_all [portOr, Port.dump]

/-- The first row of a list that is not empty. -/
def firstRow (rows : List EvidenceRow) : Except Raised EvidenceRow :=
  rowOr rows.head? ⟨"IndexError", none, none⟩

/-- `_validate_readiness_patch`. -/
def validateReadinessPatch (plan : RemediationPlan) (state : RemediationState) :
    Except Raised PUnit := do
  let p := plan.parameters
  raiseIf (p.resourceKind ≠ .deployment)
    (invalidPlan "readiness patch target must be a Deployment")
  raiseIf (!present p.containerName) (invalidPlan "readiness patch requires container_name")
  raiseIf (!present p.currentProbePath)
    (invalidPlan "readiness patch requires current probe path")
  raiseIf (!present p.proposedProbePath)
    (invalidPlan "readiness patch requires proposed probe path")
  raiseIf ((p.proposedProbePath.getD "").toList.head? ≠ some '/')
    (invalidPlan "proposed probe path must start with '/'")
  raiseIf ((p.proposedProbePath.getD "").toList.any isSpace)
    (invalidPlan "proposed probe path must not contain whitespace")
  let row ← firstRow (findEvidence state "Deployment" p.resourceName)
  let container ← rowOr ((row.data.get "containers").items.find? fun c =>
      c.get "name" = textOr p.containerName)
    (invalidPlan "container does not exist in Deployment evidence")
  let probe := container.get "readiness_probe"
  raiseIf (probe.get "path" ≠ textOr p.currentProbePath)
    (invalidPlan "current probe path does not match evidence")
  raiseIf (¬(probe.get "port").pyEq (portOr p.currentProbePort))
    (invalidPlan "current probe port does not match evidence")
  raiseIf (p.currentProbePath = p.proposedProbePath ∧ p.currentProbePort = p.proposedProbePort)
    (invalidPlan "proposed probe configuration does not change current configuration")

/-- `_label_pairs_to_dict`. -/
def labelPairsToDict (pairs : List LabelPair) : Except Raised Labels := do
  raiseIf (¬(pairs.map (·.key)).Nodup) (invalidPlan "selector contains duplicate label keys")
  pure (Labels.ofPairs pairs)

/-- `_validate_selector_patch`. -/
def validateSelectorPatch (plan : RemediationPlan) (state : RemediationState) :
    Except Raised PUnit := do
  let p := plan.parameters
  raiseIf (p.resourceKind ≠ .service) (invalidPlan "selector patch target must be a Service")
  raiseIf (¬state.request.hasText "service_name" p.resourceName)
    (invalidPlan "selector patch must target requested service")
  let current ← labelPairsToDict p.currentSelector
  let proposed ← labelPairsToDict p.proposedSelector
  raiseIf (proposed.entries = []) (invalidPlan "proposed selector must not be empty")
  let row ← firstRow (findEvidence state "Service" p.resourceName)
  raiseIf (¬sameLabels ((row.data.get? "selector").getD (.obj [])) current)
    (invalidPlan "current selector does not match evidence")

/-- `validate_profile_action`. -/
def validateProfileAction (profile : ServiceProfile) (plan : RemediationPlan) :
    Except String PUnit := do
  let p := plan.parameters
  raiseIf (p.namespaceName ≠ profile.namespaceName) "SERVICE_PROFILE_TARGET_MISMATCH"
  raiseIf (plan.action = .patchServiceSelector ∧ ¬(p.resourceKind = .service ∧
      p.resourceName = profile.serviceName ∧
      (Labels.ofPairs p.proposedSelector).entries.length = p.proposedSelector.length ∧
      Labels.ofPairs p.proposedSelector = profile.expectedSelector))
    "SELECTOR_NOT_REGISTERED"
  raiseIf (plan.action = .patchReadinessProbe ∧ ¬(p.resourceKind = .deployment ∧
      p.resourceName = profile.deploymentName ∧ p.containerName = some profile.containerName ∧
      p.proposedProbePath = some profile.readinessProbe.path ∧
      p.proposedProbePort = some profile.readinessProbe.port))
    "READINESS_NOT_REGISTERED"

/-- The binding of a plan that has a target. -/
def validateBinding (plan : RemediationPlan) (state : RemediationState) : Except Raised PUnit :=
  if plan.targetUid = none then .ok ⟨⟩
  else do
    let _ ← asInvalidPlan (bindTarget plan state.toPolicyState)
    pure ⟨⟩

/-- The checks of a plan that writes. -/
def validateWrite (plan : RemediationPlan) (state : RemediationState) : Except Raised PUnit :=
  if plan.action.executable then do
    let facts ← diagnosticFactsOf lib.toCheckLibrary state.toPolicyState
    raiseIf (∃ id ∈ facts.configurationEvidenceIds, id ∉ plan.evidenceIds)
      (invalidPlan "write plan must cite Service and registered Deployment configuration")
    raiseIf (plan.runbookIds = [])
      (invalidPlan "write plan requires a retrieved runbook reference")
    let profile ← unavailableAsInvalid (matchedProfile lib.toLibrary state.toPolicyState)
    unavailableAsInvalid (validateProfileAction profile plan)
  else .ok ⟨⟩

/-- The checks of each action. -/
def validateAction (plan : RemediationPlan) (state : RemediationState) : Except Raised PUnit :=
  match plan.action with
  | .manualInvestigation => validateManualInvestigation plan
  | .patchReadinessProbe => validateReadinessPatch plan state
  | .patchServiceSelector => validateSelectorPatch plan state

/-- `validate_remediation_plan`. Every name of an action is in `ALLOWED_REMEDIATION_ACTIONS`. -/
def validateRemediationPlan (plan : RemediationPlan) (state : RemediationState) :
    Except Raised RemediationPlan := do
  let allowed ← getAllowedRemediationActions lib state
  raiseIf (plan.action ∉ allowed)
    (invalidPlan ("remediation action is not allowed or not grounded for fault category " ++
      lib.pyRepr (state.diagnosis.get "fault_category")))
  validateReferences lib plan state
  validateTargetOf plan state
  validateBinding plan state
  validateTextHasNoCommands plan
  validateActionMetadata plan
  validateWrite lib plan state
  validateAction plan state
  pure plan

end

/-! ### What a plan writes -/

/-- `desired_configuration`. -/
def desiredConfiguration (plan : RemediationPlan) : Configuration :=
  let p := plan.parameters
  match plan.action with
  | .patchServiceSelector => .selector (Labels.ofPairs p.proposedSelector)
  | _ => .probe p.containerName p.proposedProbePath p.proposedProbePort

/-- `prior_configuration`. -/
def priorConfiguration (plan : RemediationPlan) : Configuration :=
  let p := plan.parameters
  match plan.action with
  | .patchServiceSelector => .selector (Labels.ofPairs p.currentSelector)
  | _ => .probe p.containerName p.currentProbePath p.currentProbePort

end IncidentAgent
