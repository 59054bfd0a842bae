import IncidentAgent.Investigation.Cards
import IncidentAgent.Investigation.Toolbox
import IncidentAgent.Policy.Preparation

/-!
# What an investigation ends with

An investigation ends with a decision of the model, with a report that the program writes itself, or
with a handover to a human (`Output`). A plan is not written by a model: the model chooses one of the
two repairs, and the program makes the plan of the current evidence and of the profile
(`deterministicPlan`). It is prepared and validated as a plan of a model is, and then it is proposed
for approval (`projectInvestigation`).

`ProgramPlan` says what such a plan is, `projectInvestigation_proposes` that no other one is proposed.
-/

namespace IncidentAgent

/-! ### Outputs -/

/-- `state["output"]`. -/
inductive Output
  /-- `handoff`: the facts are those of the time at which it was given up. -/
  | handoff (reason : String) (facts : DiagnosticFacts) (knownEvidenceIds : List String)
      (validationFailures : List Json)
  /-- `"diagnosis_source": "program_evidence_only"`. -/
  | conservative (diagnosis : Diagnosis) (validationFailures : List Json)
  /-- A decision of the model, with its diagnosis as the model has written it, if citations were
  added to it. -/
  | decided (decision : Decision) (original : Option Json)
  deriving DecidableEq

/-- `decision.get("reason")`. -/
def Decision.reason : Decision → String
  | .collect _ reason _ _ _ | .askUser _ reason _ _ | .stop reason _ _ => reason
  | .conclude _ | .proposePlan .. => ""

/-- `first or second`, of texts. -/
def textOrElse (first second : String) : String := if first = "" then second else first

/-- `output.get("stop_reason") or decision.get("reason") or "INVESTIGATION_STOPPED"`. -/
def Output.reason : Output → String
  | .handoff reason _ _ _ => textOrElse reason "INVESTIGATION_STOPPED"
  | .conservative .. => "INVESTIGATION_STOPPED"
  | .decided decision _ => textOrElse decision.reason "INVESTIGATION_STOPPED"

/-- `decision.get("unknowns")`. -/
def Output.unknowns : Output → List String
  | .decided (.stop _ _ unknowns) _ => unknowns
  | _ => []

section

variable (env : Env) (lib : InvestigationLibrary)

/-- `handoff`. -/
def handoff (current : Current) (code : String) (failures : List Json) : Except Raised Output := do
  let facts ← diagnosticFactsOf lib.toCheckLibrary current.state.toPolicyState
  pure (.handoff code facts (current.evidence.map fun row => row.evidenceId) failures)

/-- The report of `unknown_diagnosis`. -/
def unknownReport (current : Current) (facts : DiagnosticFacts) (reason : String)
    (unknowns : List String) : Diagnosis where
  faultCategory := .unknown
  confidence := 0
  evidenceIds := current.evidence.map fun row => row.evidenceId
  runbookIds := []
  rootCause := "本轮调查已停止，尚不能确定根因。"
  reasoningSummary := "已保存 " ++ toString current.evidence.length ++
    " 项证据；采样时资源状态：" ++ resourceLabel facts.resourceStatus ++ "，业务检查：" ++
    businessLabel facts.businessStatus ++
    "。这些状态不能单独确认根因或代表当前已恢复。程序交接：" ++ reason
  assessment := some {
    problemDomain := .insufficientEvidence
    symptoms := []
    rootCauseHypotheses := []
    missingEvidence := if unknowns = [] then ["足以确认根因的当前证据"] else unknowns
    nextInvestigation := ["核对本轮记录，必要时明确发起新一轮完整调查"]
    resourceStatus := facts.resourceStatus
    businessStatus := facts.businessStatus
    unverifiedScope := ["根因、未登记接口及所有副本的业务覆盖"] }

/-- `unknown_diagnosis`. -/
def unknownDiagnosis (current : Current) (reason : String) (unknowns : List String) :
    Except Raised Diagnosis := do
  let facts ← diagnosticFactsOf lib.toCheckLibrary current.state.toPolicyState
  currentDiagnosis (unknownReport current facts reason unknowns)

/-- The diagnosis that an output is projected with. -/
def Output.diagnosis (current : Current) (output : Output) : Except Raised Json :=
  match output with
  | .conservative d _ => .ok (d.dump lib.toWorkflowLibrary)
  | .decided (.conclude d) _ | .decided (.proposePlan d _) _ => .ok (d.dump lib.toWorkflowLibrary)
  | output => (unknownDiagnosis lib current output.reason output.unknowns).map fun d =>
    d.dump lib.toWorkflowLibrary

/-- `diagnosis_model_output`. -/
def Output.modelOutput : Output → Json
  | .decided decision original =>
    original.getD (decision.diagnosis.elim .null fun d => d.dump lib.toWorkflowLibrary)
  | _ => .null

/-! ### Plans -/

/-- `[{"key": k, "value": v} for k, v in sorted(selector.items())]`. -/
def selectorPairs (selector : List (String × Json)) : Json :=
  .arr ((sortedMembers selector).map fun m => .obj [("key", .str m.1), ("value", m.2)])

/-- The members of a value that is a dictionary. -/
def dictionaryOf : Json → Except Raised (List (String × Json))
  | .obj members => .ok members
  | _ => .error ⟨"AttributeError", none, none⟩

/-- `next(e["data"] for e in evidence if …)`. -/
def nextData (state : RemediationState) (kind name : String) : Except Raised Json :=
  (rowOr (findEvidence state kind name).head? ⟨"StopIteration", none, none⟩).map fun row => row.data

/-- `KeyError`. -/
def keyError : Raised := ⟨"KeyError", none, none⟩

/-- The parameters of a plan for the selector of the Service. -/
def selectorParameters (profile : ServiceProfile) (state : RemediationState) :
    Except Raised (List (String × Json)) := do
  let service ← nextData state "Service" profile.serviceName
  let selector ← rowOr (service.get? "selector") keyError
  let members ← dictionaryOf selector
  pure [("current_selector", selectorPairs members),
    ("proposed_selector", selectorPairs (textMap profile.expectedSelector).members)]

/-- The parameters of a plan for the readiness probe of the Deployment. -/
def readinessParameters (profile : ServiceProfile) (state : RemediationState) :
    Except Raised (List (String × Json)) := do
  let deployment ← nextData state "Deployment" profile.deploymentName
  let containers ← rowOr (deployment.get? "containers") keyError
  let container ← rowOr (containers.items.find? fun c => c.hasText "name" profile.containerName)
    ⟨"StopIteration", none, none⟩
  let probe ← rowOr (container.get? "readiness_probe") keyError
  let path ← rowOr (probe.get? "path") keyError
  let port ← rowOr (probe.get? "port") keyError
  pure [("resource_kind", .str "Deployment"), ("resource_name", .str profile.deploymentName),
    ("container_name", .str profile.containerName), ("current_probe_path", path),
    ("current_probe_port", port), ("proposed_probe_path", .str profile.readinessProbe.path),
    ("proposed_probe_port", profile.readinessProbe.port.dump)]

/-- The parameters of a plan that are those of its action. -/
def actionParameters (profile : ServiceProfile) (state : RemediationState)
    (candidate : RemediationActionName) : Except Raised (List (String × Json)) :=
  if candidate = .patchServiceSelector then selectorParameters profile state
  else readinessParameters profile state

/-- The parameters of any plan, before those of its action. -/
def commonParameters (profile : ServiceProfile) : Json :=
  .obj [("namespace", .str profile.namespaceName), ("resource_kind", .str "Service"),
    ("resource_name", .str profile.serviceName), ("container_name", .null),
    ("current_probe_path", .null), ("proposed_probe_path", .null), ("current_probe_port", .null),
    ("proposed_probe_port", .null), ("current_selector", .arr []), ("proposed_selector", .arr []),
    ("investigation_steps", .arr [])]

/-- The plan that is made of an action, its parameters and a diagnosis. -/
def planDocument (candidate : RemediationActionName) (parameters diagnosis : Json) : Json :=
  .obj [("action", .str candidate.value), ("parameters", parameters),
    ("risk_level", .str "medium"), ("requires_approval", .bool true),
    ("summary", .str "程序依据当前证据和登记配置生成单项修复计划，需人工审批。"),
    ("expected_result", .str "恢复登记配置；执行后分别验证资源就绪及登记业务接口。"),
    ("rollback_plan", .str "如需回退，由负责人核对审批记录中的原配置并另行授权处理。"),
    ("evidence_ids", diagnosis.get "evidence_ids"), ("runbook_ids", diagnosis.get "runbook_ids")]

/-- `deterministic_plan`. -/
def deterministicPlan (state : RemediationState) (candidate : RemediationActionName) :
    Except Raised RemediationPlan := do
  raiseIf (candidate.executable = false) (valueError "REPAIR_CANDIDATE_NOT_ALLOWED")
  let allowed ← getAllowedRemediationActions lib.toPolicyLibrary state
  raiseIf (candidate ∉ allowed) (valueError "REPAIR_CANDIDATE_NOT_ALLOWED")
  let profile ← orUnavailable (matchedProfile lib.toLibrary state.toPolicyState)
  let own ← actionParameters profile state candidate
  let document := planDocument candidate (setAll own (commonParameters profile)) state.diagnosis
  let plan ← rowOr (lib.plan document) ⟨"ValidationError", none, none⟩
  let prepared ← prepareRemediationPlan lib.toPolicyLibrary plan state
  pure prepared.1

/-! ### The update -/

/-- What a project sets in any case: the current state, its diagnosis, and what the model wrote. -/
def projectedMembers (current : Current) (diagnosis : Json) (output : Output) :
    List (String × Json) :=
  current.members ++
    [("diagnosis", diagnosis), ("diagnosis_model_output", output.modelOutput lib)]

/-- What it sets for a plan. -/
def proposedMembers (plan : RemediationPlan) : List (String × Json) :=
  [("phase", .str "remediation_planned"), ("remediation_plan", plan.dump),
    ("requires_approval", .bool true), ("risk_level", .str plan.riskLevel.value),
    ("approved", .null)]

/-- The update of a proposal: a plan that could not be made is an error. -/
def proposeUpdate (members : List (String × Json)) :
    Except Raised RemediationPlan → Node Update
  | .ok plan => update env (members ++ proposedMembers plan) []
      [("plan_remediation", "completed", "白名单计划由程序生成；未调用规划模型。")]
  | .error e =>
    if e.isRejection then
      pure ⟨members ++ [("phase", .str "remediation_failed"), ("requires_approval", .bool false)],
        [errorItem "plan_remediation" "INVALID_DETERMINISTIC_PLAN" (lib.errorText e)], []⟩
    else throw e

/-- `project`. -/
def projectInvestigation (current : Current) (output : Output) : Node Update := do
  let diagnosis ← Act.ofExcept (output.diagnosis lib current)
  let members := projectedMembers lib current diagnosis output
  match output with
  | .decided (.proposePlan _ candidate) _ =>
    proposeUpdate env lib members (deterministicPlan lib (current.diagnosed diagnosis) candidate)
  | _ => do
    let skipped ← skipRemediation env lib.toWorkflowLibrary (.obj members)
    pure { skipped with members := members ++ skipped.members }

end

/-! ### What is proposed -/

/-- **What a plan of the program is**: the write of an allowed action, bound to the object that was
observed. It writes what the profile registers. -/
structure ProgramPlan (lib : PolicyLibrary) (state : RemediationState)
    (candidate : RemediationActionName) (plan : RemediationPlan) : Prop where
  action : plan.action = candidate
  executable : candidate.executable = true
  allowed : ∃ allowed, getAllowedRemediationActions lib state = .ok allowed ∧ candidate ∈ allowed
  valid : validateRemediationPlan lib plan state = .ok plan
  registered : ∃ profile row, WritesRegistered lib state plan profile row
  target : ∃ uid, observedTargetUid state.toPolicyState plan = .ok uid ∧ plan.targetUid = some uid

/-- **What an update proposes**: the plan of the program for the decision of the model, on the
evidence as it is. -/
def Proposes (lib : InvestigationLibrary) (current : Current) (output : Output) (u : Update) :
    Prop :=
  ∃ d candidate original plan, output = .decided (.proposePlan d candidate) original ∧
    ProgramPlan lib.toPolicyLibrary (current.diagnosed (d.dump lib.toWorkflowLibrary)) candidate
      plan ∧
    u.members = projectedMembers lib current (d.dump lib.toWorkflowLibrary) output ++
      proposedMembers plan

section

variable {env : Env} {lib : InvestigationLibrary} {state : RemediationState}
  {candidate : RemediationActionName} {plan : RemediationPlan} {current : Current}
  {output : Output} {h : Exchanges}

/-- **A plan of the program writes what the profile registers**, for an action that is allowed. -/
theorem deterministicPlan_eq_ok
    (hplan : ∀ document p, lib.plan document = some p →
      document.get "action" = .str p.action.value)
    (h : deterministicPlan lib state candidate = .ok plan) :
    ProgramPlan lib.toPolicyLibrary state candidate plan := by
  simp only [deterministicPlan, bind_eq_ok, raiseIf_eq_ok, rowOr_eq_ok, pure_eq_ok, not_not,
    Bool.not_eq_false] at h
  obtain ⟨-, hexec, allowed, hallowed, -, hmem, profile, -, own, -, given, hgiven,
    ⟨prepared, added⟩, hprepared, rfl⟩ := h
  have hgivenAction : given.action = candidate :=
    RemediationActionName.value_injective (Json.str.inj (hplan _ _ hgiven)).symm
  have hrest := prepareRemediationPlan_eq_ok hprepared
  have haction : prepared.action = candidate := by
    rw [hrest.unchanged]
    exact hgivenAction
  have hsame : observedTargetUid state.toPolicyState prepared =
      observedTargetUid state.toPolicyState given := by
    rw [hrest.unchanged]
    rfl
  refine ⟨haction, hexec, ⟨allowed, hallowed, hmem⟩, hrest.valid,
    accepted_writes hrest.valid (haction.symm ▸ hexec), ?_⟩
  obtain ⟨htarget, hbound⟩ := hrest.bound (hgivenAction.symm ▸ hexec)
  rw [hsame, htarget]
  cases hobserved : observedTargetUid state.toPolicyState given with
  | ok uid => exact ⟨uid, rfl, rfl⟩
  | error e =>
    rw [htarget, hobserved] at hbound
    exact absurd rfl hbound

/-- What is skipped needs no approval. -/
theorem keeps_skipped {members : List (String × Json)} {state : Json} :
    (skipRemediation env lib.toWorkflowLibrary state >>= fun skipped =>
      pure { skipped with members := members ++ skipped.members }).Keeps (fun _ q => q = .now)
      (fun u _ => u.members.reverse.lookup "requires_approval" = some (.bool false)) h := by
  refine Act.keeps_bind (keeps_update (fun _ => by rfl) fun u h' _ hmembers _ _ => ?_)
  refine Act.keeps_pure ?_
  rw [hmembers, List.reverse_append]
  rfl

/-- A plan is read with the action of its document. -/
def ReadsActions (lib : InvestigationLibrary) : Prop :=
  ∀ document p, lib.plan document = some p → document.get "action" = .str p.action.value

/-- A proposal is the plan of the program, or an error that needs no approval. -/
theorem keeps_proposeUpdate {d : Diagnosis} {original : Option Json}
    (houtput : output = .decided (.proposePlan d candidate) original) :
    (proposeUpdate env lib (projectedMembers lib current (d.dump lib.toWorkflowLibrary) output)
      (deterministicPlan lib (current.diagnosed (d.dump lib.toWorkflowLibrary)) candidate)).Keeps
      (fun _ q => q = .now)
      (fun u _ => ReadsActions lib →
        u.members.reverse.lookup "requires_approval" = some (.bool false) ∨
          Proposes lib current output u) h := by
  cases hmade : deterministicPlan lib (current.diagnosed (d.dump lib.toWorkflowLibrary))
      candidate with
  | ok plan =>
    refine keeps_update (fun _ => by rfl) fun u h' _ hmembers _ _ hplan => Or.inr ?_
    exact ⟨d, candidate, original, plan, houtput, deterministicPlan_eq_ok hplan hmade, hmembers⟩
  | error e =>
    refine Act.keeps_ite (fun _ => Act.keeps_pure fun _ => Or.inl ?_) fun _ => Act.keeps_throw e
    rw [List.reverse_append]
    rfl

/-- **Only a plan of the program is proposed** for approval, and only if the model has decided to
propose one. Nothing but the clock is asked for it. -/
theorem projectInvestigation_proposes
    (hplan : ∀ document p, lib.plan document = some p →
      document.get "action" = .str p.action.value) :
    (projectInvestigation env lib current output).Keeps (fun _ q => q = .now)
      (fun u _ => u.members.reverse.lookup "requires_approval" = some (.bool false) ∨
        Proposes lib current output u) h := by
  refine Act.keeps_bind (Act.keeps_ofExcept fun diagnosis hdiagnosis => ?_)
  split
  · obtain rfl := Except.ok.inj hdiagnosis
    exact (keeps_proposeUpdate rfl).mono fun u h' hu => hu hplan
  · exact keeps_skipped.mono fun u h' hu => Or.inl hu

end

/-- What the model has decided for a selector that has drifted. -/
def driftOutput : Output := .decided (.proposePlan driftDiagnosis .patchServiceSelector) none

theorem driftInvestigation_readsActions : ReadsActions driftInvestigation := by
  intro document p hp
  have hread : document.get "action" = .str (driftPlan none).action.value ∧ driftPlan none = p := by
    simpa [driftInvestigation] using hp
  rw [hread.1, hread.2]

theorem projectInvestigation_proposes_drift :
    deterministicPlan driftInvestigation
        (driftCurrent.diagnosed (driftDiagnosis.dump driftInvestigation.toWorkflowLibrary))
        .patchServiceSelector = .ok (driftPlan (some "svc-1")) ∧
      (projectInvestigation driftEnv driftInvestigation driftCurrent driftOutput).Keeps
        (fun _ q => q = .now)
        (fun u _ => u.members.reverse.lookup "requires_approval" = some (.bool false) ∨
          Proposes driftInvestigation driftCurrent driftOutput u) [] := by
  exact ⟨by decide +kernel, projectInvestigation_proposes driftInvestigation_readsActions⟩

end IncidentAgent
