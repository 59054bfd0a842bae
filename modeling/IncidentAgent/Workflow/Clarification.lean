import IncidentAgent.Workflow.State

/-!
# Questions to the user

Where a diagnosis is unknown for want of something that only a human can tell, the workflow asks.
There are four slots, each of them with one question; a slot is asked about at most once, and there
are at most two rounds of questions (`prepareClarification`). The answers are told to the next
diagnosis, which is made of new evidence (`awaitUserInput`).
-/

namespace IncidentAgent

/-- A slot: its name, the texts that call for its question, and the question. -/
structure QuestionSlot where
  slot : String
  pattern : List String
  question : String
  deriving DecidableEq, Inhabited

/-- `QUESTION_SLOTS`. -/
def questionSlots : List QuestionSlot :=
  [⟨"onset", ["开始时间", "发生时间", "出现时间", "何时", "起始", "onset", "start time", "when"],
    "异常大约从什么时候开始？不知道可以跳过。"⟩,
   ⟨"changes", ["发布", "变更", "人工操作", "recent change", "release", "manual action"],
    "异常前后做过哪些发布、配置变更或人工操作？"⟩,
   ⟨"symptom", ["具体报错", "报错内容", "用户症状", "错误示例", "user symptom", "error example"],
    "用户实际看到什么报错或异常？请提供不含敏感信息的示例。"⟩,
   ⟨"impact", ["影响范围", "受影响", "复现条件", "impact", "reproduction"],
    "哪些请求或用户受影响，在什么条件下可以复现？"⟩]

section

variable (env : Env) (lib : WorkflowLibrary)

/-- `re.search(pattern, text, re.I)`, of a pattern that is a choice of texts. -/
def QuestionSlot.calledBy (slot : QuestionSlot) (text : String) : Bool :=
  slot.pattern.any fun word => ((Regex.textBy lib.sameLetter word).search text).isSome

/-- The slots whose questions are called for and were not asked. -/
def openSlots (state : Json) : List QuestionSlot :=
  let missing := ((state.get "diagnosis").get "assessment").get "missing_evidence"
  let text := "\n".intercalate (missing.items.map Json.toText)
  questionSlots.filter fun slot =>
    Json.str slot.slot ∉ (state.get "asked_slots").items && slot.calledBy lib text

/-- `state.get("clarification_round", 0)`. -/
def clarificationRound (state : Json) : Except Raised Int :=
  rowOr (pyInt ((state.get? "clarification_round").getD (.num 0))) typeError

/-- The item of a slot in a question. -/
def QuestionSlot.item (slot : QuestionSlot) : Json :=
  .obj [("slot", .str slot.slot), ("text", .str slot.question)]

/-- A question of some slots. -/
def questionOf (state : Json) (runId : Json) (version : Int) (slots : List QuestionSlot) : Json :=
  let evidence := (state.get? "evidence").getD (.arr [])
  .obj [("question_id", .str ("q-" ++ String.ofList ((lib.textDigest
      (lib.textOf runId ++ ":" ++ toString version)).toList.take 24))),
    ("version", .num version), ("questions", .arr (slots.map QuestionSlot.item)),
    ("reason", .str "诊断缺少只能由人工补充的信息；回答仍需采集证据核实。"),
    ("evidence_revision", .str (lib.textDigest (lib.dumpsAscii evidence))),
    ("evidence_ids", .arr ((evidence.items.map fun e => e.get "evidence_id").filter Json.truthy))]

/-- The update where nothing is asked. -/
def notAsked (exhausted : Bool) (trace : List Json) : Node Update :=
  pure ⟨[("question", .null), ("clarification_exhausted", .bool exhausted)], [], trace⟩

/-- The event of a budget that is used up. -/
def budgetEvent (now : ℕ) : Json :=
  .obj [("step", .str "budget"), ("status", .str "failed"), ("timestamp", .str (env.isoformat now)),
    ("message", .str "追问预算已用完；保留未知结论并交接人工。")]

/-- The question of a round, if the budget allows it. A run without a budget is one whose budget
allows it. -/
def askUser (state : Json) (count : Int) : Node Update := do
  let version := count + 1
  let granted ← Act.attempt (Ports.decision ("question:" ++ toString version))
  match granted with
  | .error e =>
    if e.errorType = "BudgetExceeded" then do
      let now ← Ports.clock
      notAsked true [budgetEvent env now]
    else throw e
  | .ok _ => do
    let runId ← Act.ofExcept (rowOr (state.get? "run_id") ⟨"KeyError", none, none⟩)
    let slots := (openSlots lib state).take 2
    pure ⟨[("question", questionOf lib state runId version slots), ("phase", .str "waiting_user"),
      ("clarification_round", .num version),
      ("asked_slots", .arr ((state.get "asked_slots").items ++
        slots.map fun slot => Json.str slot.slot))], [], []⟩

/-- `prepare_clarification`. -/
def prepareClarification (state : Json) : Node Update := do
  let count ← Act.ofExcept (clarificationRound state)
  let unknown := (state.get "diagnosis").hasText "fault_category" "unknown"
  if ¬state.hasText "phase" "diagnosis_completed" ∨ unknown = false ∨ openSlots lib state = [] ∨
      2 ≤ count then
    notAsked (decide (2 ≤ count) && unknown) []
  else askUser env lib state count

/-- `await_user_input`. -/
def awaitUserInput (state : Json) : Node Update := do
  let question ← Act.ofExcept (rowOr (state.get? "question") ⟨"KeyError", none, none⟩)
  let answer ← Ports.interrupt question
  Act.ofExcept (raiseIf (answer.get "question_id" ≠ question.get "question_id" ∨
    answer.get "version" ≠ question.get "version") (valueError "STALE_QUESTION_ANSWER"))
  let skip ← Act.ofExcept (rowOr (answer.get? "skip") ⟨"KeyError", none, none⟩)
  pure ⟨[("question", .null),
    ("clarification_answers", .arr ((state.get "clarification_answers").items ++ [answer])),
    ("phase", .str (if skip.truthy then "clarification_skipped" else "clarification_received"))],
    [], []⟩

end

end IncidentAgent
