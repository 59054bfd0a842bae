import IncidentAgent.Workflow.Approval
import IncidentAgent.Workflow.Clarification
import IncidentAgent.Workflow.Nodes

/-!
# The graph of an incident

The nodes are connected by the state that they leave: each edge reads the phase, and some of them
what the phase is about (`IncidentNode.route`). The graph is built of the services that there are,
one resting on another; it ends where the next service is missing (`buildIncidentGraph`). With a
dialogue, a diagnosis is followed by questions to the user, and by another collection of the
evidence once they are answered.
-/

namespace IncidentAgent

/-- A node of the graph. -/
inductive IncidentNode
  | validateRequest
  | planCollection
  | collectEvidence
  | finishFailure
  | retrieveRunbooks
  | diagnoseIncident
  | prepareClarification
  | awaitUserInput
  | planRemediation
  | skipRemediation
  | prepareApproval
  | requestHumanApproval
  | executeRemediation
  | verifyRecovery
  deriving DecidableEq, Inhabited

/-- The services that a graph is built of, and whether it asks the user. -/
structure GraphParts where
  retriever : Bool
  diagnoser : Bool
  planner : Bool
  executor : Bool
  verifier : Bool
  dialogue : Bool
  deriving DecidableEq, Inhabited

/-- The parts of the graph that a worker runs. -/
def GraphParts.production (dialogue : Bool) : GraphParts := ⟨true, true, true, true, true, dialogue⟩

/-! ### The edges -/

/-- `state.get("phase") == phase`. -/
def inPhase (state : Json) (phase : String) : Bool := state.hasText "phase" phase

/-- A node of the graph, on a condition. -/
def IncidentNode.when (node : IncidentNode) (condition : Bool) : Option IncidentNode :=
  if condition then some node else none

/-- `route_after_validation`. -/
def routeAfterValidation (state : Json) : IncidentNode :=
  if state.get "valid" = .bool true then .planCollection else .finishFailure

/-- `route_after_collection`. -/
def routeAfterCollection (state : Json) : Option IncidentNode :=
  IncidentNode.retrieveRunbooks.when
    (inPhase state "evidence_collected" || inPhase state "evidence_collected_with_errors")

/-- `route_after_retrieval`. -/
def routeAfterRetrieval (state : Json) : Option IncidentNode :=
  IncidentNode.diagnoseIncident.when (inPhase state "runbooks_retrieved")

/-- `route_after_diagnosis`. -/
def routeAfterDiagnosis (state : Json) : Option IncidentNode :=
  let category := (state.get "diagnosis").get "fault_category"
  if !inPhase state "diagnosis_completed" then none
  else if category = .str "unknown" ∨ category = .str "no_fault_detected" then
    some .skipRemediation
  else some .planRemediation

/-- The edge from a question: it is asked, or the diagnosis goes its way. -/
def routeAfterQuestion (state : Json) : Option IncidentNode :=
  if (state.get "question").truthy then some .awaitUserInput else routeAfterDiagnosis state

/-- The edge from an answer. -/
def routeAfterAnswer (state : Json) : IncidentNode :=
  if inPhase state "clarification_skipped" then .skipRemediation else .collectEvidence

/-- `route_after_remediation`. -/
def routeAfterRemediation (state : Json) : Option IncidentNode :=
  IncidentNode.prepareApproval.when
    (inPhase state "remediation_planned" && state.get "requires_approval" = .bool true)

/-- `route_after_prepare_approval`. -/
def routeAfterPrepareApproval (state : Json) : Option IncidentNode :=
  IncidentNode.requestHumanApproval.when
    (inPhase state "awaiting_approval" && state.hasText "approval_status" "pending")

/-- `route_after_approval`. -/
def routeAfterApproval (state : Json) : Option IncidentNode :=
  IncidentNode.executeRemediation.when (inPhase state "approval_approved" &&
    state.hasText "approval_status" "approved" && state.get "approved" = .bool true)

/-- `route_after_execution`. -/
def routeAfterExecution (state : Json) : Option IncidentNode :=
  IncidentNode.verifyRecovery.when (inPhase state "remediation_executed" &&
    completedAction ((state.get "action_result").get "status"))

/-- The edges of a graph with some parts. -/
def IncidentNode.route (parts : GraphParts) (node : IncidentNode) (state : Json) :
    Option IncidentNode :=
  match node with
  | .validateRequest => some (routeAfterValidation state)
  | .planCollection => some .collectEvidence
  | .finishFailure | .skipRemediation | .verifyRecovery => none
  | .collectEvidence => if parts.retriever then routeAfterCollection state else none
  | .retrieveRunbooks => if parts.diagnoser then routeAfterRetrieval state else none
  | .diagnoseIncident =>
    if !parts.planner then none
    else if parts.dialogue then some .prepareClarification
    else routeAfterDiagnosis state
  | .prepareClarification => routeAfterQuestion state
  | .awaitUserInput => some (routeAfterAnswer state)
  | .planRemediation => routeAfterRemediation state
  | .prepareApproval => routeAfterPrepareApproval state
  | .requestHumanApproval => if parts.executor then routeAfterApproval state else none
  | .executeRemediation => if parts.verifier then routeAfterExecution state else none

section

variable (env : Env) (lib : WorkflowLibrary)

/-- The update of a node. -/
def IncidentNode.update (node : IncidentNode) (state : Json) : Node Update :=
  match node with
  | .validateRequest => validateRequestNode env lib state
  | .planCollection => IncidentAgent.planCollection env state
  | .collectEvidence => IncidentAgent.collectEvidence env lib state
  | .finishFailure => IncidentAgent.finishFailure env
  | .retrieveRunbooks => IncidentAgent.retrieveRunbooks env lib state
  | .diagnoseIncident => IncidentAgent.diagnoseIncident env lib state
  | .prepareClarification => IncidentAgent.prepareClarification env lib state
  | .awaitUserInput => IncidentAgent.awaitUserInput state
  | .planRemediation => IncidentAgent.planRemediation env lib state
  | .skipRemediation => IncidentAgent.skipRemediation env lib state
  | .prepareApproval => IncidentAgent.prepareApproval env lib state
  | .requestHumanApproval => IncidentAgent.requestHumanApproval env lib state
  | .executeRemediation => IncidentAgent.executeRemediation env lib state
  | .verifyRecovery => verifyRecoveryNode env lib state

/-- A visit of a node: the state with its update. -/
def IncidentNode.visit (node : IncidentNode) (state : Json) : Node Json := do
  let u ← node.update env lib state
  pure (merge state u)

/-- The graph of some parts. -/
def incidentGraph (parts : GraphParts) : Flow IncidentNode Json Ask Ask.Answer Raised where
  visit := IncidentNode.visit env lib
  route := IncidentNode.route parts

/-- `build_incident_graph`, which refuses a service without the one that it rests on. -/
def buildIncidentGraph (parts : GraphParts) :
    Except Raised (Flow IncidentNode Json Ask Ask.Answer Raised) := do
  raiseIf (parts.diagnoser ∧ !parts.retriever) (valueError "diagnoser requires a runbook retriever")
  raiseIf (parts.planner ∧ !parts.diagnoser) (valueError "planner requires a diagnoser")
  raiseIf (parts.executor ∧ !parts.planner) (valueError "executor requires a planner")
  raiseIf (parts.verifier ∧ !parts.executor) (valueError "verifier requires an executor")
  pure (incidentGraph env lib parts)

/-- The state that a run of the workflow begins with: the incident and what was asked, and the
context of its round, if it has one. -/
def initialState (incidentId : String) (request : Json) (round : Option (Json × String)) : Json :=
  .obj ([("incident_id", .str incidentId), ("request", request)] ++
    round.elim [] fun r => [("round_context", r.1), ("run_id", .str r.2)])

end

end IncidentAgent
