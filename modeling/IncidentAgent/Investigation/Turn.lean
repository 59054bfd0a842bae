import IncidentAgent.Investigation.Batch

/-!
# Turns

In a turn a model is asked what to do next. It is shown the evidence as it is, and its answer is
checked: by `validateDecision`, and by what may not be done again or after a person was waited for
(`reviewResponse`). An answer that is refused may be corrected once, if the budget grants it, and
never one that has named a tool or a resource that is not allowed. When no answer is left the
investigation is handed over, or ends with a report that the program writes of the evidence alone
(`decideTurn`).

`Turn.Allows` lists what a turn may ask for, `Turn.Accounts` says what its update is
(`decideTurn_keeps`).
-/

namespace IncidentAgent

/-! ### States -/

/-- What `decide` reads of the state of an investigation. -/
structure Turn where
  workflowVersion : String
  baseline : Baseline
  observations : List SavedRow
  history : List StepRecord
  step : ℕ
  answers : List AcceptedAnswer
  askedSlots : List String
  deriving DecidableEq, Inhabited

/-- What `decide` updates. -/
inductive TurnUpdate
  | collecting (step : ℕ) (decision : Decision) (history : List StepRecord)
  | waiting (step : ℕ) (decision : Decision) (history : List StepRecord) (question : UserQuestion)
      (askedSlots : List String)
  | decided (step : ℕ) (decision : Decision) (history : List StepRecord) (output : Output)
  /-- The turn has no decision. -/
  | ended (output : Output)
  deriving DecidableEq

/-- `update["decision"]`. -/
def TurnUpdate.decision : TurnUpdate → Option Decision
  | .collecting _ d _ | .waiting _ d _ _ _ | .decided _ d _ _ => some d
  | .ended _ => none

/-- `request_id`. -/
def Turn.requestId (turn : Turn) : String :=
  "6b2:" ++ (if 5 < turn.step + 1 then "final" else "decision") ++ ":" ++ toString (turn.step + 1)

/-- `request_id + (":correction" if attempt else "")`. -/
def Turn.attemptId (turn : Turn) (attempt : ℕ) : String :=
  if attempt = 0 then turn.requestId else turn.requestId ++ ":correction"

/-- What is known in a turn. -/
def Turn.current (lib : InvestigationLibrary) (turn : Turn) : Current :=
  turn.baseline.current lib.sampling.instant turn.observations

/-! ### Ports -/

namespace Ports

/-- `run_context_version(budget)`. -/
def contextVersion : Node String := do
  let answer ← Act.call (Ask.inquire .contextVersion)
  Act.ofExcept answer

/-- `terminal_mode(budget, request_id, forced)`. -/
def mode (requestId : String) (forced : Bool) : Node Bool := do
  let answer ← Act.call (Ask.inquire (.mode requestId forced))
  Act.ofExcept answer

/-- `call_model(model, budget, prompt, request_id, …)`. -/
def model (prompt : Prompt) (requestId : String) (decisionKey : Option String) (terminal : Bool) :
    Node Json := do
  let answer ← Act.call (Ask.inquire (.model prompt requestId decisionKey terminal))
  Act.ofExcept answer

/-- `record_validation(budget, request_id, …)`. -/
def recordValidation (requestId : String) (step attempt : ℕ) (error : Raised) : Node Json := do
  let answer ← Act.call (Ask.inquire (.recordValidation requestId step attempt error))
  Act.ofExcept answer

/-- `correction(budget, request_id, …)`. -/
def correction (requestId : String) (diagnosis : Bool) : Node Bool := do
  let answer ← Act.call (Ask.inquire (.correction requestId diagnosis))
  Act.ofExcept answer

/-- The citations that were added, kept with the call. -/
def normalized (requestId : String) (added : List String) : Node PUnit := do
  let answer ← Act.call (Ask.inquire (.normalized requestId added))
  Act.ofExcept answer

/-- The calls of the tools that the budget has. -/
def toolCalls : Node (List Call) := do
  let answer ← Act.call (Ask.inquire .toolCalls)
  Act.ofExcept answer

end Ports

/-! ### Checks -/

/-- The document of a response, if it could be parsed. -/
def parsedOf (response : Json) : Except Raised Json :=
  let diagnostics := response.get "diagnostics"
  if (response.get "parse_error").truthy = false then .ok (response.get "parsed")
  else if (diagnostics.get "tool_boundary_invalid").truthy then
    .error (boundaryError "TOOL_OR_RESOURCE_SCHEMA_NOT_ALLOWED")
  else .error (valueError ((response.get "parse_error").toText ++
    if (diagnostics.get "parser_detail").truthy then
      ": " ++ (diagnostics.get "parser_detail").toText else ""))

/-- A request asks for what was read before, and not for a larger part of it. -/
def readsAgain (env : SamplingEnv) (calls : List Call) (request : SampledRequest) :
    Except Raised Bool := do
  let key ← queryKey env request
  let prior := calls.filter fun c => c.metadata.hasText "semantic_key" key
  pure (!prior.isEmpty && !canExpandLogs prior request)

/-- `any(…)`, over the requests of a batch. -/
def anyReadsAgain (env : SamplingEnv) (calls : List Call) :
    List SampledRequest → Except Raised Bool
  | [] => pure false
  | request :: rest => do
    let again ← readsAgain env calls request
    if again then pure true else anyReadsAgain env calls rest

/-- `RESAMPLE_REASON_REQUIRED`. -/
def resampleReasonRequired : Raised :=
  valueError ("RESAMPLE_REASON_REQUIRED: query already attempted; use saved evidence, select a " ++
    "useful different query, or stop. Do not invent a change or staleness.")

/-- What may not be concluded after a person was waited for. -/
def validateWait (answers : List AcceptedAnswer) (decision : Decision) : Except Raised PUnit := do
  raiseIf (answers ≠ [] ∧ ∃ d ∈ decision.diagnosis, d.faultCategory = .noFaultDetected)
    (valueError "CURRENT_HEALTH_REQUIRES_NEW_BASELINE_AFTER_HUMAN_WAIT")
  raiseIf (answers ≠ [] ∧ decision.action = "propose_plan")
    (valueError "WRITE_PLAN_REQUIRES_NEW_BASELINE_AFTER_HUMAN_WAIT")

/-- A decision that has passed all checks: the citations that were added, and its question. -/
structure CheckedDecision where
  decision : Decision
  added : List String
  question : Option UserQuestion
  deriving DecidableEq, Inhabited

section

variable (lib : InvestigationLibrary) (scope : RunScope)

/-- `question_for`. -/
def questionFor (refs : Catalog) (askedSlots : List String) (evidence : List SavedRow)
    (text reason : String) (evidenceIds : List String) (slot : Option String) :
    Except Raised UserQuestion := do
  let slot ← rowOr slot (valueError "HUMAN_INFORMATION_SLOT_REQUIRED")
  raiseIf (slot ∉ ["onset", "changes", "symptom", "impact"])
    (valueError "HUMAN_INFORMATION_SLOT_REQUIRED")
  raiseIf (slot ∈ askedSlots) (valueError "QUESTION_SLOT_ALREADY_ASKED")
  let count := askedSlots.length + 1
  raiseIf (2 < count) (valueError "HUMAN_QUESTION_LIMIT")
  let candidates := if slot = "changes" then refs else []
  let id := lib.digest
    (.arr [.str "interactive-investigation-v2", .str scope.runId, .num count])
  pure { questionId := "q-" ++ String.ofList (id.toList.take 24)
         version := count
         runId := scope.runId
         slot := slot
         evidenceRevision := lib.digest (.arr (evidence.map SavedRow.dump))
         changeCandidates := candidates.map Prod.fst
         text := text
         reason := reason
         evidenceIds := evidenceIds
         candidates := candidates }

/-- The question of a decision to ask. -/
def questionOfDecision (refs : Catalog) (askedSlots : List String) (evidence : List SavedRow) :
    Decision → Except Raised (Option UserQuestion)
  | .askUser text reason ids slot =>
    (questionFor lib scope refs askedSlots evidence text reason ids slot).map some
  | _ => .ok none

/-- A batch without a reason to read again reads nothing again. -/
def checkRepeats (refs : Catalog) : Decision → Node PUnit
  | .collect _ _ _ requests resample =>
    if resample.getD "" = "" then do
      let calls ← Ports.toolCalls
      let again ← Act.ofExcept
        (anyReadsAgain (lib.sampling.within refs scope.runId) calls requests)
      Act.ofExcept (raiseIf (again = true) resampleReasonRequired)
    else pure ⟨⟩
  | _ => pure ⟨⟩

/-- The checks of a response. -/
def reviewResponse (refs : Catalog) (turn : Turn) (current : Current) (prompt : Prompt)
    (terminal : Bool) (response : Json) : Node CheckedDecision := do
  let value ← Act.ofExcept (parsedOf response)
  let decided ← Act.ofExcept
    (validateDecision lib scope.runId refs prompt current terminal value)
  checkRepeats lib scope refs decided.1
  let question ← Act.ofExcept
    (questionOfDecision lib scope refs turn.askedSlots current.evidence decided.1)
  Act.ofExcept (validateWait turn.answers decided.1)
  pure ⟨decided.1, decided.2, question⟩

/-! ### Attempts -/

/-- What has come of an attempt. -/
inductive Attempted
  | settled (requestId : String) (checked : CheckedDecision) (response : Json)
  | ended (output : Output)
  /-- The answer was refused. It is safe to end with a report of the program when only the
  assessment of a conclusion was refused. -/
  | rejected (error : Raised) (failure : Json) (terminal safe : Bool)
  deriving DecidableEq

/-- `safe_diagnosis`. -/
def isSafe (prompt : Prompt) (response : Json) (e : Raised) : Bool :=
  e.errorType = "DiagnosisAssessmentRejected" &&
    ((response.get "parsed").get "decision").hasText "action" "conclude" &&
    !prompt.identityConflicts

/-- One attempt, of the two that a turn may have. -/
def attemptDecision (refs : Catalog) (turn : Turn) (current : Current) (version : String)
    (attempt : ℕ) (forced : Bool) (feedback : Option Raised) : Node Attempted := do
  let terminal ← Ports.mode (turn.attemptId attempt) forced
  -- What cannot be built is not corrected: it ends the turn.
  let prompt ← Act.ofExcept (buildContext lib current refs
    ⟨version, terminal, turn.history, feedback, turn.answers, turn.askedSlots⟩)
  let response ← Ports.model prompt (turn.attemptId attempt)
    (if terminal then none else some turn.requestId) terminal
  if (response.get "error").truthy then do
    let output ← Act.ofExcept (handoff lib current (response.get "error").toText [])
    pure (.ended output)
  else do
    let outcome ← Act.attempt (reviewResponse lib scope refs turn current prompt terminal response)
    match outcome with
    | .ok checked => pure (.settled (turn.attemptId attempt) checked response)
    | .error e =>
      if e.isRejection then do
        let failure ← Ports.recordValidation (turn.attemptId attempt) (turn.step + 1) attempt e
        pure (.rejected e failure terminal (isSafe prompt response e))
      else throw e

/-- No attempt is left. -/
def giveUp (current : Current) (safe : Bool) (failures : List Json) : Node Attempted :=
  if safe then do
    let d ← Act.ofExcept (conservativeDiagnosis lib.toReportLibrary current.state)
    pure (.ended (.conservative d failures))
  else do
    let output ← Act.ofExcept (handoff lib current "DECISION_VALIDATION_FAILED" failures)
    pure (.ended output)

/-- Whether an answer may be corrected. A boundary cannot be negotiated. -/
def mayCorrect (turn : Turn) (e : Raised) (safe : Bool) : Node Bool :=
  if e.errorType = "ToolBoundaryError" then pure false
  else Ports.correction turn.requestId safe

/-- The second attempt. After a report was refused, only the report is corrected. -/
def correctDecision (refs : Catalog) (turn : Turn) (current : Current) (version : String)
    (e : Raised) (failure : Json) (terminal safe : Bool) : Node Attempted := do
  let second ← attemptDecision lib scope refs turn current version 1 (terminal || safe) (some e)
  match second with
  -- A second refusal asks for no correction.
  | .rejected _ failure' _ safe' => giveUp lib current safe' [failure, failure']
  | attempted => pure attempted

/-- `for attempt in range(2)`. -/
def decideAttempts (refs : Catalog) (turn : Turn) (current : Current) : Node Attempted := do
  let version ← Ports.contextVersion
  let first ← attemptDecision lib scope refs turn current version 0 (5 < turn.step + 1) none
  match first with
  | .rejected e failure terminal safe => do
    let retry ← mayCorrect turn e safe
    if retry then correctDecision lib scope refs turn current version e failure terminal safe
    else giveUp lib current safe [failure]
  | attempted => pure attempted

/-- The update of a decision, with the step that is recorded. -/
def settleDecision (turn : Turn) (checked : CheckedDecision) (response : Json) : TurnUpdate :=
  let step := turn.step + 1
  let history := turn.history ++ [⟨step, checked.decision, none⟩]
  match checked.decision, checked.question with
  | .collect .., _ => .collecting step checked.decision history
  | _, some question =>
    .waiting step checked.decision history question (turn.askedSlots ++ [question.slot])
  | _, none => .decided step checked.decision history (.decided checked.decision
      (if checked.added = [] then none
        else some (((response.get "parsed").get "decision").get "diagnosis")))

/-- The body of `decide`. -/
def decideOn (refs : Catalog) (turn : Turn) (current : Current) : Node TurnUpdate := do
  let attempted ← decideAttempts lib scope refs turn current
  match attempted with
  | .settled requestId checked response =>
    if checked.added = [] then pure (settleDecision turn checked response)
    else do
      Ports.normalized requestId checked.added
      pure (settleDecision turn checked response)
  | .ended output => pure (.ended output)
  | .rejected e .. => throw e -- What is refused in the end is given up.

/-- `decide`. -/
def decideTurn (refs : Catalog) (turn : Turn) : Node TurnUpdate := do
  Act.ofExcept (raiseIf (turn.workflowVersion ≠ investigationWorkflow)
    (valueError "INVESTIGATION_WORKFLOW_VERSION_CHANGED"))
  let outcome ← Act.attempt (decideOn lib scope refs turn (turn.current lib))
  match outcome with
  | .ok update => pure update
  | .error e =>
    if e.isInterruption then do
      let output ← Act.ofExcept
        (handoff lib (turn.current lib) (String.ofList ((lib.errorText e).toList.take 200)) [])
      pure (.ended output)
    else throw e

end

/-! ### What a turn may ask for -/

namespace Turn

variable (turn : Turn) (lib : InvestigationLibrary) (scope : RunScope) (refs : Catalog)

/-- There is a second attempt only if the budget has granted a correction of the turn. -/
def MayAttempt (h : Exchanges) (attempt : ℕ) : Prop :=
  attempt = 0 ∨ attempt = 1 ∧ ∃ safe,
    (⟨.inquire (.correction turn.requestId safe), .ok true⟩ : Σ q, Ask.Answer q) ∈ h

/-- A prompt shows the evidence as it is, in the mode that the budget has for the attempt. -/
structure Shows (h : Exchanges) (attempt : ℕ) (prompt : Prompt) (terminal : Bool) : Prop where
  mode : ∃ forced, (⟨.inquire (.mode (turn.attemptId attempt) forced), .ok terminal⟩ :
    Σ q, Ask.Answer q) ∈ h
  built : ∃ version feedback, buildContext lib (turn.current lib) refs
    ⟨version, terminal, turn.history, feedback, turn.answers, turn.askedSlots⟩ = .ok prompt

/-- **What a turn may ask for.** -/
inductive Allows (h : Exchanges) : Ask → Prop
  | contextVersion : Allows h (.inquire .contextVersion)
  | mode {attempt : ℕ} {forced : Bool} (may : turn.MayAttempt h attempt) :
    Allows h (.inquire (.mode (turn.attemptId attempt) forced))
  | model {attempt : ℕ} {prompt : Prompt} {terminal : Bool} (may : turn.MayAttempt h attempt)
      (shown : turn.Shows lib refs h attempt prompt terminal) :
    Allows h (.inquire (.model prompt (turn.attemptId attempt)
      (if terminal then none else some turn.requestId) terminal))
  | toolCalls : Allows h (.inquire .toolCalls)
  | recordValidation {attempt : ℕ} {e : Raised} :
    Allows h (.inquire (.recordValidation (turn.attemptId attempt) (turn.step + 1) attempt e))
  | correction {safe : Bool} : Allows h (.inquire (.correction turn.requestId safe))
  | normalized {id : String} {added : List String} : Allows h (.inquire (.normalized id added))

/-- **What a decision has passed** that is handed on. It is one that the model has answered to a
prompt of this turn. -/
structure Settles (h : Exchanges) (checked : CheckedDecision) : Prop where
  answered : ∃ attempt prompt terminal response value,
    turn.Shows lib refs h attempt prompt terminal ∧
    (⟨.inquire (.model prompt (turn.attemptId attempt)
      (if terminal then none else some turn.requestId) terminal), .ok response⟩ :
      Σ q, Ask.Answer q) ∈ h ∧
    parsedOf response = .ok value ∧
    validateDecision lib scope.runId refs prompt (turn.current lib) terminal value =
      .ok (checked.decision, checked.added)
  /-- After a person was waited for, no health is concluded and no plan is proposed. -/
  waited : turn.answers ≠ [] → checked.decision.action ≠ "propose_plan" ∧
    ∀ d ∈ checked.decision.diagnosis, d.faultCategory ≠ .noFaultDetected
  /-- A question is about a fact that was not asked for, and there are at most two. -/
  question : ∀ q, checked.question = some q → q.slot ∉ turn.askedSlots ∧
    q.version = turn.askedSlots.length + 1 ∧ q.version ≤ 2

/-- What is ended without a decision is handed over, or reported by the program. -/
def Ends (output : Output) : Prop :=
  (∃ code facts ids failures, output = .handoff code facts ids failures) ∨
    ∃ d failures, output = .conservative d failures ∧
      conservativeDiagnosis lib.toReportLibrary (turn.current lib).state = .ok d

/-- What has come of an attempt. -/
def Tried (h : Exchanges) : Attempted → Prop
  | .settled _ checked _ => turn.Settles lib scope refs h checked
  | .ended output => turn.Ends lib output
  | .rejected .. => True

/-- **What an update is**: a decision that was settled, or an end without one. -/
def Accounts (h : Exchanges) (u : TurnUpdate) : Prop :=
  (∃ checked response, turn.Settles lib scope refs h checked ∧
    u = settleDecision turn checked response) ∨ ∃ output, turn.Ends lib output ∧ u = .ended output

end Turn

section

variable {lib : InvestigationLibrary} {scope : RunScope} {refs : Catalog} {turn : Turn}
  {h h' : Exchanges}

theorem Turn.MayAttempt.later {attempt : ℕ} (hmay : turn.MayAttempt h attempt) (hh : h <:+ h') :
    turn.MayAttempt h' attempt := by
  rcases hmay with hfirst | ⟨hsecond, safe, hgranted⟩
  · exact Or.inl hfirst
  · exact Or.inr ⟨hsecond, safe, hh.subset hgranted⟩

theorem Turn.Shows.later {attempt : ℕ} {prompt : Prompt} {terminal : Bool}
    (hs : turn.Shows lib refs h attempt prompt terminal) (hh : h <:+ h') :
    turn.Shows lib refs h' attempt prompt terminal := by
  obtain ⟨forced, hmode⟩ := hs.mode
  exact ⟨⟨forced, hh.subset hmode⟩, hs.built⟩

theorem Turn.Settles.later {checked : CheckedDecision}
    (hs : turn.Settles lib scope refs h checked) (hh : h <:+ h') :
    turn.Settles lib scope refs h' checked := by
  obtain ⟨attempt, prompt, terminal, response, value, hshown, hanswer, hvalid⟩ := hs.answered
  exact ⟨⟨attempt, prompt, terminal, response, value, hshown.later hh, hh.subset hanswer, hvalid⟩,
    hs.waited, hs.question⟩

theorem validateWait_eq_ok {answers : List AcceptedAnswer} {decision : Decision}
    (hv : validateWait answers decision = .ok ⟨⟩) (hwaited : answers ≠ []) :
    decision.action ≠ "propose_plan" ∧
      ∀ d ∈ decision.diagnosis, d.faultCategory ≠ .noFaultDetected := by
  simp only [validateWait, bind_eq_ok, raiseIf_eq_ok] at hv
  obtain ⟨-, hhealth, hplan⟩ := hv
  exact ⟨fun haction => hplan ⟨hwaited, haction⟩,
    fun d hd hcategory => hhealth ⟨hwaited, d, hd, hcategory⟩⟩

theorem questionOfDecision_eq_ok {askedSlots : List String} {evidence : List SavedRow}
    {decision : Decision} {q : UserQuestion}
    (hq : questionOfDecision lib scope refs askedSlots evidence decision = .ok (some q)) :
    q.slot ∉ askedSlots ∧ q.version = askedSlots.length + 1 ∧ q.version ≤ 2 := by
  cases decision with
  | askUser text reason ids slot =>
    simp only [questionOfDecision, map_eq_ok] at hq
    obtain ⟨question, hquestion, hsome⟩ := hq
    obtain rfl := Option.some.inj hsome
    simp only [questionFor, bind_eq_ok, raiseIf_eq_ok, pure_eq_ok] at hquestion
    obtain ⟨asked, -, -, -, -, hnew, -, hcount, rfl⟩ := hquestion
    exact ⟨hnew, rfl, Nat.le_of_not_lt hcount⟩
  | collect | conclude | proposePlan | stop => cases hq

theorem keeps_checkRepeats {decision : Decision} :
    (checkRepeats lib scope refs decision).Keeps (turn.Allows lib refs) (fun _ _ => True) h := by
  cases decision with
  | collect fact reason ids requests resample =>
    refine Act.keeps_ite (fun _ => ?_) fun _ => Act.keeps_pure trivial
    refine Act.keeps_bind (Act.keeps_answer .toolCalls fun _ calls _ => ?_)
    exact Act.keeps_bind (Act.keeps_ofExcept fun _ _ => Act.keeps_ofExcept fun _ _ => trivial)
  | askUser | conclude | proposePlan | stop => exact Act.keeps_pure trivial

/-- **The checks of a response.** -/
theorem keeps_reviewResponse {attempt : ℕ} {prompt : Prompt} {terminal : Bool} {response : Json}
    (hshown : turn.Shows lib refs h attempt prompt terminal)
    (hanswer : (⟨.inquire (.model prompt (turn.attemptId attempt)
      (if terminal then none else some turn.requestId) terminal), .ok response⟩ :
      Σ q, Ask.Answer q) ∈ h) :
    (reviewResponse lib scope refs turn (turn.current lib) prompt terminal response).Keeps
      (turn.Allows lib refs) (fun checked h' => turn.Settles lib scope refs h' checked) h := by
  refine Act.keeps_bind (Act.keeps_ofExcept fun value hvalue => ?_)
  refine Act.keeps_bind (Act.keeps_ofExcept fun decided hdecided => ?_)
  -- The calls of the budget are asked for in between, which leaves the answer in the history.
  refine Act.keeps_bind (keeps_checkRepeats.suffix.mono fun _ h₁ hh => ?_)
  refine Act.keeps_bind (Act.keeps_ofExcept fun question hquestion => ?_)
  refine Act.keeps_bind (Act.keeps_ofExcept fun _ hwait => Act.keeps_pure ?_)
  refine ⟨⟨attempt, prompt, terminal, response, value, hshown.later hh.1, hh.1.subset hanswer,
    hvalue, hdecided⟩, validateWait_eq_ok hwait, ?_⟩
  rintro q rfl
  exact questionOfDecision_eq_ok hquestion

/-- **An attempt** asks the model once. -/
theorem keeps_attemptDecision {attempt : ℕ} {version : String} {forced : Bool}
    {feedback : Option Raised} (hmay : turn.MayAttempt h attempt) :
    (attemptDecision lib scope refs turn (turn.current lib) version attempt forced feedback).Keeps
      (turn.Allows lib refs) (fun attempted h' => turn.Tried lib scope refs h' attempted) h := by
  -- The mode is asked for first, so what the model is shown is in the mode that was given.
  refine Act.keeps_bind (Act.keeps_answer (.mode hmay) ?_)
  rintro _ terminal rfl
  refine Act.keeps_bind (Act.keeps_ofExcept fun prompt hprompt => ?_)
  have hshown : turn.Shows lib refs
      (⟨.inquire (.mode (turn.attemptId attempt) forced), .ok terminal⟩ :: h) attempt prompt
      terminal := ⟨⟨forced, List.mem_cons_self⟩, version, feedback, hprompt⟩
  refine Act.keeps_bind
    (Act.keeps_answer (.model (hmay.later (List.suffix_cons _ _)) hshown) ?_)
  rintro _ response rfl
  refine Act.keeps_ite (fun _ => ?_) fun _ => ?_
  · exact Act.keeps_bind (Act.keeps_ofExcept fun output houtput =>
      Act.keeps_pure (Or.inl (handoff_eq_ok houtput)))
  refine Act.keeps_bind (Act.keeps_attempt ?_ fun e h₁ _ => ?_)
  · exact (keeps_reviewResponse (hshown.later (List.suffix_cons _ _)) List.mem_cons_self).mono
      fun checked h₁ hchecked => Act.keeps_pure hchecked
  · refine Act.keeps_ite (fun _ => ?_) fun _ => Act.keeps_throw e
    exact Act.keeps_bind (Act.keeps_answer .recordValidation fun _ _ _ => Act.keeps_pure trivial)

theorem keeps_giveUp {safe : Bool} {failures : List Json} :
    (giveUp lib (turn.current lib) safe failures).Keeps (turn.Allows lib refs)
      (fun attempted h' => turn.Tried lib scope refs h' attempted) h := by
  refine Act.keeps_ite (fun _ => ?_) fun _ => ?_
  · exact Act.keeps_bind (Act.keeps_ofExcept fun d hd =>
      Act.keeps_pure (Or.inr ⟨d, failures, rfl, hd⟩))
  · exact Act.keeps_bind (Act.keeps_ofExcept fun output houtput =>
      Act.keeps_pure (Or.inl (handoff_eq_ok houtput)))

theorem keeps_correctDecision {version : String} {e : Raised} {failure : Json}
    {terminal safe : Bool} (hmay : turn.MayAttempt h 1) :
    (correctDecision lib scope refs turn (turn.current lib) version e failure terminal safe).Keeps
      (turn.Allows lib refs) (fun attempted h' => turn.Tried lib scope refs h' attempted) h := by
  refine Act.keeps_bind ((keeps_attemptDecision hmay).mono fun attempted h₁ htried => ?_)
  cases attempted with
  | settled id checked response => exact Act.keeps_pure htried
  | ended output => exact Act.keeps_pure htried
  | rejected e' failure' terminal' safe' => exact keeps_giveUp

/-- The budget grants what may be corrected. -/
theorem keeps_mayCorrect {e : Raised} {safe : Bool} :
    (mayCorrect turn e safe).Keeps (turn.Allows lib refs)
      (fun retry h' => retry = true → turn.MayAttempt h' 1) h := by
  refine Act.keeps_ite (fun _ => Act.keeps_pure fun hno => (by cases hno)) fun _ => ?_
  refine Act.keeps_answer .correction ?_
  rintro _ retry rfl rfl
  exact Or.inr ⟨rfl, safe, List.mem_cons_self⟩

/-- **There are two attempts at most**, and the second is granted. -/
theorem keeps_decideAttempts :
    (decideAttempts lib scope refs turn (turn.current lib)).Keeps (turn.Allows lib refs)
      (fun attempted h' => turn.Tried lib scope refs h' attempted) h := by
  refine Act.keeps_bind (Act.keeps_answer .contextVersion fun _ version _ => ?_)
  refine Act.keeps_bind ((keeps_attemptDecision (Or.inl rfl)).mono fun attempted h₁ htried => ?_)
  cases attempted with
  | settled id checked response => exact Act.keeps_pure htried
  | ended output => exact Act.keeps_pure htried
  | rejected e failure terminal safe =>
    refine Act.keeps_bind (keeps_mayCorrect.mono fun retry h₂ hretry => ?_)
    exact Act.keeps_ite (fun hyes => keeps_correctDecision (hretry hyes)) fun _ => keeps_giveUp

theorem keeps_decideOn :
    (decideOn lib scope refs turn (turn.current lib)).Keeps (turn.Allows lib refs)
      (fun update h' => turn.Accounts lib scope refs h' update) h := by
  refine Act.keeps_bind (keeps_decideAttempts.mono fun attempted h₁ htried => ?_)
  cases attempted with
  | settled id checked response =>
    refine Act.keeps_ite (fun _ => Act.keeps_pure (Or.inl ⟨checked, response, htried, rfl⟩))
      fun _ => ?_
    refine Act.keeps_bind (Act.keeps_answer .normalized ?_)
    rintro _ ⟨⟩ -
    exact Act.keeps_pure
      (Or.inl ⟨checked, response, htried.later (List.suffix_cons _ _), rfl⟩)
  | ended output => exact Act.keeps_pure (Or.inr ⟨output, htried, rfl⟩)
  | rejected e failure terminal safe => exact Act.keeps_throw e

/-- **A turn** asks only the budget and the model, whatever it is answered: the model at most for
two attempts, the second only if the budget grants it, and only about the evidence as it is. What it
hands on is a decision that has passed all checks, or an end that no model has decided. -/
theorem decideTurn_keeps (lib : InvestigationLibrary) (scope : RunScope) (refs : Catalog)
    (turn : Turn) (h : Exchanges) :
    (decideTurn lib scope refs turn).Keeps (turn.Allows lib refs)
      (fun update h' => turn.Accounts lib scope refs h' update) h := by
  refine Act.keeps_bind (Act.keeps_ofExcept fun _ _ => ?_)
  refine Act.keeps_bind (Act.keeps_attempt ?_ fun e h' _ => ?_)
  · exact keeps_decideOn.mono fun update h' haccounts => Act.keeps_pure haccounts
  · refine Act.keeps_ite (fun _ => ?_) fun _ => Act.keeps_throw e
    exact Act.keeps_bind (Act.keeps_ofExcept fun output houtput =>
      Act.keeps_pure (Or.inr ⟨output, Or.inl (handoff_eq_ok houtput), rfl⟩))

end

end IncidentAgent
