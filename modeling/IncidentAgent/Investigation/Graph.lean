import IncidentAgent.Investigation.Turn

/-!
# The graph of an investigation

An investigation goes in rounds. It binds the baseline once, and then a turn decides what to do
next: to collect a batch, to ask a person, or to end. After a batch or an answer there is another
turn, and what an investigation ends with is projected to what the approval reads
(`investigationGraph`). Every visit is one of a process that may be lost, so a process opens its
tools before a turn and before a batch.

What comes after the projection is the approval of the incident workflow.
-/

namespace IncidentAgent

/-! ### States -/

/-- The nodes of an investigation, up to the approval. -/
inductive InvestigationNode
  | initializeRun | decide | collect | awaitInvestigationInput | projectInvestigation
  deriving DecidableEq, Inhabited

/-- `state["phase"]`, while an investigation is under way. -/
inductive InvestigationPhase
  | investigating | collecting | waitingUser | finished
  deriving DecidableEq, Inhabited

/-- The state of an investigation. -/
structure InvestigationState where
  workflowVersion : String
  baseline : Baseline
  observations : List SavedRow
  history : List StepRecord
  step : ℕ
  phase : InvestigationPhase
  decision : Option Decision
  question : Option UserQuestion
  answers : List AcceptedAnswer
  askedSlots : List String
  output : Option Output
  /-- What is handed to the approval. -/
  projected : Option Update
  deriving DecidableEq, Inhabited

namespace InvestigationState

variable (s : InvestigationState)

/-- What `decide` reads. -/
def turn : Turn where
  workflowVersion := s.workflowVersion
  baseline := s.baseline
  observations := s.observations
  history := s.history
  step := s.step
  answers := s.answers
  askedSlots := s.askedSlots

/-- What `collect` reads. -/
def batch : Except Raised Batch :=
  match s.decision with
  | some (.collect _ _ _ requests resampleReason) => .ok
      { workflowVersion := s.workflowVersion
        baseline := s.baseline
        observations := s.observations
        history := s.history
        step := s.step
        requests := requests
        resampleReason := resampleReason
        answers := s.answers }
  | _ => .error keyError

/-- The state after a turn. -/
def afterTurn : TurnUpdate → InvestigationState
  | .collecting step decision history =>
    { s with step := step, decision := some decision, history := history, phase := .collecting }
  | .waiting step decision history question askedSlots =>
    { s with
      step := step, decision := some decision, history := history, phase := .waitingUser
      question := some question, askedSlots := askedSlots }
  | .decided step decision history output =>
    { s with
      step := step, decision := some decision, history := history, phase := .finished
      output := some output }
  | .ended output => { s with phase := .finished, output := some output }

/-- The state after a batch. -/
def afterBatch : BatchUpdate → InvestigationState
  | .investigating observations history =>
    { s with observations := observations, history := history, phase := .investigating }
  | .finished observations output =>
    { s with observations := observations, phase := .finished, output := some output }

end InvestigationState

/-! ### Nodes -/

namespace Ports

/-- `bind_baseline(budget, baseline, version)`. -/
def bindBaseline (baseline : Baseline) (version : String) : Node PUnit := do
  let answer ← Act.call (Ask.inquire (.bindBaseline baseline version))
  Act.ofExcept answer

/-- `accept_answer(budget, question, value)`. -/
def acceptAnswer (question : UserQuestion) (value : Json) : Node AcceptedAnswer := do
  let answer ← Act.call (Ask.inquire (.acceptAnswer question value))
  Act.ofExcept answer

end Ports

/-- What a person is shown. -/
def UserQuestion.dump (q : UserQuestion) : Json :=
  .obj [("question_id", .str q.questionId), ("version", .num q.version), ("run_id", .str q.runId),
    ("source", .str "model_generated"),
    ("questions", .arr [.obj [("slot", .str q.slot), ("text", .str q.text)]]),
    ("reason", .str q.reason), ("evidence_ids", .arr (q.evidenceIds.map .str)),
    ("evidence_revision", .str q.evidenceRevision),
    ("change_candidates", .arr (q.candidates.map fun r => .obj [("resource_ref", .str r.1),
      ("kind", .str r.2.kind), ("name", .str r.2.name), ("container", r.2.container)]))]

/-- A field of the request is the one of the run. -/
def checkTarget (scope : RunScope) (baseline : Baseline) (field : String) :
    Except Raised PUnit := do
  let asked ← rowOr (baseline.request.get? field) keyError
  let given ← rowOr (scope.inputPayload.get? field) keyError
  raiseIf (asked ≠ given) (valueError "RUN_TARGET_MISMATCH")

/-- The baseline is one of the run. -/
def checkBaseline (scope : RunScope) (baseline : Baseline) : Except Raised PUnit := do
  raiseIf (baseline.incidentId ≠ scope.incidentId) (valueError "RUN_INCIDENT_MISMATCH")
  raiseIf (baseline.evidence = [] ∨ ¬ (baseline.evidence.map fun row => row.evidenceId).Nodup)
    (valueError "BASELINE_EVIDENCE_IDS_INVALID")
  checkTarget scope baseline "namespace"
  checkTarget scope baseline "service_name"

section

variable (env : Env) (lib : InvestigationLibrary) (scope : RunScope)

/-- `initialize`. -/
def initializeInvestigation : Node InvestigationState := do
  let baseline ← Ports.baseline
  Act.ofExcept (checkBaseline scope baseline)
  Ports.bindBaseline baseline investigationWorkflow
  pure { (default : InvestigationState) with
    workflowVersion := investigationWorkflow
    baseline := baseline
    phase := .investigating }

/-- `decide`, in a process that opens its tools. -/
def visitDecide (s : InvestigationState) : Node InvestigationState := do
  let refs ← openToolbox lib scope
  let update ← decideTurn lib scope refs s.turn
  pure (s.afterTurn update)

/-- `collect`, in a process that opens its tools. -/
def visitCollect (s : InvestigationState) : Node InvestigationState := do
  let batch ← Act.ofExcept s.batch
  let update ← openToolbox lib scope >>= fun refs => collectBatch lib scope refs batch
  pure (s.afterBatch update)

/-- The state after an answer. A person may decline to answer. -/
def afterAnswer (s : InvestigationState) (answer : AcceptedAnswer) :
    Except Raised InvestigationState :=
  let next := { s with answers := s.answers ++ [answer], question := none, phase := .investigating }
  if answer.skip then
    -- The handover is of the evidence before the answer.
    (handoff lib (s.turn.current lib) "HUMAN_QUESTION_SKIPPED" []).map fun output =>
      { next with phase := .finished, output := some output }
  else .ok next

/-- `await_user_input`. -/
def awaitAnswer (s : InvestigationState) : Node InvestigationState := do
  Act.ofExcept (raiseIf (s.workflowVersion ≠ investigationWorkflow)
    (valueError "INVESTIGATION_WORKFLOW_VERSION_CHANGED"))
  let question ← Act.ofExcept (rowOr s.question keyError)
  let value ← Ports.interrupt question.dump
  let answer ← Ports.acceptAnswer question value
  Act.ofExcept (afterAnswer lib s answer)

/-- `project`. -/
def visitProject (s : InvestigationState) : Node InvestigationState := do
  let output ← Act.ofExcept (rowOr s.output keyError)
  let update ← projectInvestigation env lib (s.turn.current lib) output
  pure { s with projected := some update }

/-- The program of a node. -/
def InvestigationNode.visit : InvestigationNode → InvestigationState → Node InvestigationState
  | .initializeRun, _ => initializeInvestigation scope
  | .decide, s => visitDecide lib scope s
  | .collect, s => visitCollect lib scope s
  | .awaitInvestigationInput, s => awaitAnswer lib s
  | .projectInvestigation, s => visitProject env lib s

/-- The edges. -/
def InvestigationNode.route : InvestigationNode → InvestigationState → Option InvestigationNode
  | .initializeRun, _ => some .decide
  | .decide, s =>
    if s.phase = .collecting then some .collect
    else if s.phase = .waitingUser then some .awaitInvestigationInput
    else some .projectInvestigation -- What has ended is projected, however it has ended.
  | .collect, s | .awaitInvestigationInput, s =>
    if s.phase = .investigating then some .decide else some .projectInvestigation
  | .projectInvestigation, _ => none

/-- `build_investigation_graph`, up to the approval. -/
def investigationGraph :
    Flow InvestigationNode InvestigationState Ask Ask.Answer Raised where
  visit := InvestigationNode.visit env lib scope
  route := InvestigationNode.route

end

end IncidentAgent
