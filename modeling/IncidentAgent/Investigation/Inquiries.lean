import IncidentAgent.Investigation.Catalog
import IncidentAgent.Policy.Diagnosis

/-!
# What an investigation asks for

An investigation asks a model what to do next, and its tools to read. A model is shown a prompt and
answers with a decision: to collect, to ask the user, to conclude, to propose a plan, or to stop
(`Decision`). Besides, the investigation asks for what its budget keeps: the baseline, the modes of
the calls, the grants of the tools and the answers of the user (`Inquiry`). All of these may raise, and
what is answered may be anything.

Of a prompt only those parts are kept that the answer is checked against, or that a later step is
decided by. How they are put into words is left out.
-/

namespace IncidentAgent

/-! ### Decisions -/

/-- `Decision`, by its action. -/
inductive Decision
  | collect (missingFact reason : String) (evidenceIds : List String)
      (requests : List SampledRequest) (resampleReason : Option String)
  | conclude (diagnosis : Diagnosis)
  | askUser (question reason : String) (evidenceIds : List String) (slot : Option String)
  | proposePlan (diagnosis : Diagnosis) (candidate : RemediationActionName)
  | stop (reason : String) (evidenceIds unknowns : List String)
  deriving DecidableEq, Inhabited

/-- `decision.action`. -/
def Decision.action : Decision → String
  | .collect .. => "collect"
  | .conclude _ => "conclude"
  | .askUser .. => "ask_user"
  | .proposePlan .. => "propose_plan"
  | .stop .. => "stop"

/-- `getattr(decision, "evidence_ids", None)`. -/
def Decision.evidenceIds : Decision → List String
  | .collect _ _ ids _ _ | .askUser _ _ ids _ | .stop _ ids _ => ids
  | .conclude _ | .proposePlan .. => []

/-- The diagnosis of a decision that has one. -/
def Decision.diagnosis : Decision → Option Diagnosis
  | .conclude d | .proposePlan d _ => some d
  | _ => none

/-- What a tool has brought, as it is told to the model. -/
structure StepResult where
  tool : InvestigationTool
  coverage : Coverage
  errorCode : Option String
  evidenceIds : List String
  sampling : Grant
  deriving DecidableEq, Inhabited

/-- A step of the investigation, as it is told to the model. -/
structure StepRecord where
  step : ℕ
  decision : Decision
  results : Option (List StepResult)
  deriving DecidableEq, Inhabited

/-- What a call of the model is made for: its mode, the history, and what the user has said. -/
structure PromptBasis where
  contextVersion : String
  terminalOnly : Bool
  history : List StepRecord
  feedback : Option Raised
  answers : List AcceptedAnswer
  askedSlots : List String
  deriving DecidableEq, Inhabited

/-- What a model is shown, as far as its answer is checked against it. -/
structure Prompt extends PromptBasis where
  facts : DiagnosticFacts
  /-- Whether `identity_conflicts` has an item. -/
  identityConflicts : Bool
  /-- The references of `resources`. -/
  resources : List String
  evidenceIds : List String
  runbookIds : List Json
  deriving DecidableEq

/-! ### Tools -/

/-- What a tool returns, and whether its target has changed under it. -/
structure CallResult extends ToolResult where
  targetChanged : Bool
  deriving DecidableEq, Inhabited

/-- What a tool reads. -/
inductive ClusterRead
  /-- `load_profile`. -/
  | profile (namespaceName service : String)
  /-- `get_service`. -/
  | service (namespaceName name : String)
  /-- `get_deployment_config`. -/
  | deployment (namespaceName name : String)
  /-- `resolve_pod_owner`. -/
  | podOwner (namespaceName name : String)
  /-- `read_namespaced_replica_set`. -/
  | replicaSet (namespaceName name : String)
  /-- `read_namespaced_endpoint_slice`. -/
  | endpointSlice (namespaceName name : String)
  /-- `read_namespaced_pod_log`. -/
  | podLog (namespaceName name : String) (container : Json) (previous : Bool)
      (tailLines limitBytes : ℕ)
  /-- `list_namespaced_event`, of the events about one UID. -/
  | podEvents (namespaceName uid : String)
  /-- `collect_business_checks`, of the registered checks of a Service. -/
  | businessChecks (namespaceName service deployment : String)
  deriving DecidableEq

/-- The namespace that is read. -/
def ClusterRead.namespaceName : ClusterRead → String
  | .profile ns _ | .service ns _ | .deployment ns _ | .podOwner ns _ | .replicaSet ns _
  | .endpointSlice ns _ | .podLog ns _ _ _ _ _ | .podEvents ns _ | .businessChecks ns _ _ => ns

/-- The baseline of a run: what was asked for, what a collection has returned, and the runbooks that
were retrieved for it. -/
structure Baseline where
  incidentId : String
  request : Json
  roundContext : Json
  serviceProfile : Json
  evidence : List EvidenceRow
  retrievedRunbooks : List Json
  deriving DecidableEq, Inhabited

/-- A question to the user. -/
structure UserQuestion extends SlotQuestion where
  text : String
  reason : String
  evidenceIds : List String
  /-- The resources that the user may say to have changed. -/
  candidates : Catalog
  deriving DecidableEq, Inhabited

/-! ### Inquiries -/

/-- **What an investigation asks for**, besides what all workflows do. -/
inductive Inquiry
  /-- `toolbox.state`, the baseline of the run. -/
  | baseline
  /-- `bind_baseline(budget, baseline, version)`. -/
  | bindBaseline (baseline : Baseline) (version : String)
  /-- `budget.references(refs)`. -/
  | references (refs : Catalog)
  /-- `run_context_version(budget)`. -/
  | contextVersion
  /-- `terminal_mode(budget, request_id, forced)`. -/
  | mode (requestId : String) (forced : Bool)
  /-- `call_model(model, budget, prompt, request_id, …)`. -/
  | model (prompt : Prompt) (requestId : String) (decisionKey : Option String) (terminal : Bool)
  /-- `record_validation(budget, request_id, …)`. -/
  | recordValidation (requestId : String) (step attempt : ℕ) (error : Raised)
  /-- `correction(budget, request_id, …)`. -/
  | correction (requestId : String) (diagnosis : Bool)
  /-- The citations that were added to a diagnosis, kept with its call. -/
  | normalized (requestId : String) (added : List String)
  /-- The calls of the tools that the budget has. -/
  | toolCalls
  /-- `authorize_sample(budget, …)`. -/
  | authorize (request : SampledRequest) (requestId : String) (reason : Option String)
      (answers : List AcceptedAnswer)
  /-- The reservation of `toolbox.call`, which gives the saved result of a call that was made. -/
  | reserveTool (request : SampledRequest) (requestId : String) (grant : Grant)
  /-- What a tool reads. -/
  | read (read : ClusterRead)
  /-- `datetime.now(UTC)`, where a tool notes when it has read. -/
  | collectedAt
  /-- `budget.settle(ticket, …)`, of a call of a tool. -/
  | settleTool (requestId : String) (result : CallResult)
  /-- `accept_answer(budget, question, value)`. -/
  | acceptAnswer (question : UserQuestion) (value : Json)
  deriving DecidableEq

/-- The answer to an inquiry. The response of the model is a document. -/
def Inquiry.Answer : Inquiry → Type
  | .baseline => Except Raised Baseline
  | .model .. | .read _ | .recordValidation .. => Except Raised Json
  | .bindBaseline .. | .references _ | .normalized .. | .settleTool .. => Except Raised PUnit
  | .contextVersion => Except Raised String
  | .mode .. | .correction .. => Except Raised Bool
  | .toolCalls => Except Raised (List Call)
  | .authorize .. => Except Raised Grant
  | .reserveTool .. => Except Raised (Option CallResult)
  | .collectedAt => String
  | .acceptAnswer .. => Except Raised AcceptedAnswer

instance Inquiry.inhabitedAnswer (q : Inquiry) : Inhabited q.Answer := by
  cases q <;> first | exact ⟨Except.error default⟩ | exact ⟨("" : String)⟩

end IncidentAgent
