import IncidentAgent.Lib.Mentions
import IncidentAgent.Policy.WriteGate

/-!
# Reports that the program writes itself

Where the model has failed, or where it may not say what it wants, the program writes the report:
it cannot find a cause (`insufficientEvidenceDiagnosis`), it keeps what was collected and no more
(`conservativeDiagnosis`), or it tells a failed business check in its own words
(`buildControlledReport`). A report of the program is validated as one of the model is, so that
it could be refused, and that at the moment at which nothing else is left.

It never is (`reports_pass`). The citations and the statuses come from the facts that the
validators compute again. What is left is the scan of the text for evidence that is mentioned and
not cited: the texts of the reports have no hyphens in them, and the identifiers that are issued
are words, so that the scan finds an identifier as a whole or not at all.
-/

namespace IncidentAgent

/-! ### References -/

/-- What the reports take from libraries, besides what the policy does. -/
structure ReportLibrary extends PolicyLibrary where
  /-- `\d`. -/
  isDecimal : Char → Bool
  /-- A decimal digit of ASCII is one of the ten. -/
  isDecimal_ascii : ∀ c, isDecimal c = true → c.toNat < 128 → c.isDigit = true
  /-- `repr` of a finite number. -/
  reprFloat : Rat → String
  reprFloat_digits : ∀ q, ∀ c ∈ (reprFloat q).toList, c.isDigit = true ∨ c ∈ ['.', 'e', '+', '-']
  /-- The beginning of the digest of a request and a number. -/
  evidenceDigest : String → Nat → String
  evidenceDigest_hex : ∀ id n, ∀ c ∈ (evidenceDigest id n).toList, c.isAlphanum = true

/-- The characters of an evidence identifier. -/
def idChar (c : Char) : Bool := c.isAlphanum || c = '-'

/-- `EVIDENCE_ID_PATTERN`, between its assertions. -/
def evidenceIdPattern (lib : ReportLibrary) : Regex :=
  .seq (.char (· = 'e')) (.seq (.char (· = 'v')) (.seq (.char (· = '-'))
    (.seq (Regex.plus (.char idChar)) (.seq (.char (· = '-'))
      (.seq (.char lib.isDecimal) (.seq (.char lib.isDecimal) (.char lib.isDecimal)))))))

/-- `finding.model_dump()`. -/
def DiagnosticFinding.members (f : DiagnosticFinding) : List (String × Json) :=
  [("summary", .str f.summary), ("evidence_ids", .arr (f.evidenceIds.map .str))]

/-- The text of the status of a hypothesis. -/
def HypothesisStatus.value : HypothesisStatus → String
  | .suspected => "suspected"
  | .supported => "supported"

/-- `assessment.model_dump()`. -/
def DiagnosticAssessment.json (a : DiagnosticAssessment) : Json :=
  .obj [("schema_version", .str "v2"), ("problem_domain", .str a.problemDomain.value),
    ("symptoms", .arr (a.symptoms.map fun f => .obj f.members)),
    ("root_cause_hypotheses", .arr (a.rootCauseHypotheses.map fun h =>
      .obj (h.toDiagnosticFinding.members ++ [("status", .str h.status.value)]))),
    ("missing_evidence", .arr (a.missingEvidence.map .str)),
    ("next_investigation", .arr (a.nextInvestigation.map .str)),
    ("resource_status", .str a.resourceStatus.value),
    ("business_status", .str a.businessStatus.value),
    ("unverified_scope", .arr (a.unverifiedScope.map .str))]

/-- The members of `diagnosis.model_dump()` before the confidence. -/
def Diagnosis.members (d : Diagnosis) : List (String × Json) :=
  [("assessment", d.assessment.elim .null (·.json)), ("fault_category", .str d.faultCategory.value),
    ("root_cause", .str d.rootCause), ("evidence_ids", .arr (d.evidenceIds.map .str)),
    ("runbook_ids", .arr (d.runbookIds.map .str))]

/-- `json.dumps(diagnosis.model_dump(), ensure_ascii=False)`. -/
def Diagnosis.text (lib : ReportLibrary) (d : Diagnosis) : List Char :=
  '\x7b' :: (Json.dumpsMembers [',', ' '] [':', ' '] d.members ++ ([',', ' '] ++
    (quoted "confidence" ++ ([':', ' '] ++ ((lib.reprFloat d.confidence).toList ++ ([',', ' '] ++
      Json.dumpsMembers [',', ' '] [':', ' '] [("reasoning_summary", .str d.reasoningSummary)])))))
    ++ ['\x7d'])

/-- The evidence that a diagnosis mentions somewhere. -/
def mentionedEvidenceIds (lib : ReportLibrary) (d : Diagnosis) : List String :=
  ((evidenceIdPattern lib).mentions idChar (d.text lib)).map String.ofList

/-- `InvalidDiagnosisReference(message)`. -/
def invalidReference (message : String) : Raised := ⟨"InvalidDiagnosisReference", none, some message⟩

/-- The texts that are there and not empty. -/
def knownTexts (texts : List Json) : List String :=
  texts.filterMap fun v => match v with
    | .str t => if t = "" then none else some t
    | _ => none

/-- `sorted(set(texts) - set(known))!r`. -/
def shownMissing (lib : PolicyLibrary) (texts known : List String) : String :=
  lib.pyRepr (.arr ((sortedMissing texts known).map .str))

/-- `validate_diagnosis_references`. -/
def validateDiagnosisReferences (lib : ReportLibrary) (d : Diagnosis) (state : RemediationState) :
    Except Raised PUnit := do
  let available := (state.evidence.map (·.evidenceId)).filter (· ≠ "")
  let runbooks := knownTexts (state.retrievedRunbooks.map fun r => r.get "runbook_id")
  raiseIf (∃ id ∈ d.evidenceIds, id ∉ available) (invalidReference ("unknown evidence IDs: " ++
    shownMissing lib.toPolicyLibrary d.evidenceIds available))
  raiseIf (∃ id ∈ d.runbookIds, id ∉ runbooks) (invalidReference ("unknown runbook IDs: " ++
    shownMissing lib.toPolicyLibrary d.runbookIds runbooks))
  raiseIf (∃ id ∈ mentionedEvidenceIds lib d, id ∉ d.evidenceIds)
    (invalidReference ("evidence IDs mentioned in diagnosis but missing from evidence_ids: " ++
      shownMissing lib.toPolicyLibrary (mentionedEvidenceIds lib d) d.evidenceIds))
  raiseIf (d.faultCategory ∉ [.unknown, .noFaultDetected, .applicationError, .dependencyError] ∧
      d.runbookIds = [])
    (invalidReference "fault diagnosis must reference at least one retrieved runbook")

/-! ### The schema -/

/-- The schema of a finding. -/
def DiagnosticFinding.valid (f : DiagnosticFinding) : Bool := f.summary ≠ "" && f.evidenceIds ≠ []

/-- The schema of an assessment. -/
def DiagnosticAssessment.valid (a : DiagnosticAssessment) : Bool :=
  a.symptoms.all DiagnosticFinding.valid &&
    (a.rootCauseHypotheses.all fun h => h.toDiagnosticFinding.valid) &&
    a.businessStatus ≠ .skipped && a.unverifiedScope ≠ []

/-- The schema of `Diagnosis`, and of `CurrentDiagnosis` for a diagnosis with an assessment. -/
def Diagnosis.valid (d : Diagnosis) : Bool :=
  d.assessment.all DiagnosticAssessment.valid && d.rootCause ≠ "" && d.evidenceIds ≠ [] &&
    (0 ≤ d.confidence && d.confidence ≤ 1) && d.reasoningSummary ≠ ""

/-- `CurrentDiagnosis(…)`. -/
def currentDiagnosis (d : Diagnosis) : Except Raised Diagnosis := do
  raiseIf ((d.assessment.isSome && d.valid) = false) ⟨"ValidationError", none, none⟩
  pure d

/-! ### The reports -/

/-- `can_report_insufficient_evidence`. -/
def canReportInsufficientEvidence (facts : DiagnosticFacts) : Bool :=
  facts.profileMatched && facts.configurationEvidenceComplete &&
    facts.resourceStatus = .notReady && facts.businessStatus = .unknown &&
    !facts.selectorDrift && !facts.readinessDrift && facts.currentRuntimeFaults = [] &&
    facts.businessEvidenceIds ≠ [] && facts.resourceEvidenceIds ≠ []

/-- The report of `insufficient_evidence_diagnosis`. -/
def insufficientEvidenceReport (facts : DiagnosticFacts) : Diagnosis where
  faultCategory := .unknown
  confidence := 0
  evidenceIds := (facts.resourceEvidenceIds ++ facts.businessEvidenceIds).eraseDups
  runbookIds := []
  rootCause := "本地证据规则：当前资源未就绪、登记业务检查结果未知。现有证据不足以确定应用或依赖根因，本次未调用诊断模型。"
  reasoningSummary := "本结论由程序依据当前结构化证据生成。资源未就绪与业务检查未知是症状，不能单独证明探针配置、应用逻辑或下游依赖故障。"
  assessment := some {
    problemDomain := .insufficientEvidence
    symptoms := [⟨"当前采样显示登记工作负载及关联资源未就绪。", facts.resourceEvidenceIds⟩,
      ⟨"登记业务检查结果未知，未证明接口正常，也未取得可用于确定业务根因的结果。",
        facts.businessEvidenceIds⟩]
    rootCauseHypotheses := []
    missingEvidence := ["与本次故障时间对应的应用诊断信息及就绪失败原因", "实际依赖关系及独立下游检查结果"]
    nextInvestigation := ["由登记负责人核对应用就绪检查的失败原因，并结合当前日志定位所缺证据",
      "先确认应用实际依赖关系，再对已确认的下游进行只读检查；不假定存在数据库",
      "人工处理后重新检查资源状态与登记业务接口，不通过放宽探针消除症状"]
    resourceStatus := .notReady
    businessStatus := .unknown
    unverifiedScope := ["应用与下游具体根因", "集群外入口、未登记接口及所有副本逐一业务验证"] }

/-- `insufficient_evidence_diagnosis`. -/
def insufficientEvidenceDiagnosis (lib : ReportLibrary) (state : RemediationState) :
    Except Raised Diagnosis := do
  let facts ← diagnosticFactsOf lib.toCheckLibrary state.toPolicyState
  raiseIf (canReportInsufficientEvidence facts = false)
    (invalidAssessment "insufficient-evidence precheck is not applicable")
  currentDiagnosis (insufficientEvidenceReport facts)

/-- The status of the resources in a summary. -/
def resourceLabel : ResourceStatus → String
  | .ready => "就绪"
  | .notReady => "未就绪"
  | .unknown => "未知"

/-- The status of the business checks in a summary. -/
def businessLabel : BusinessStatus → String
  | .passed => "通过"
  | .failed => "失败"
  | .unknown | .skipped => "未知"

/-- The report of `unknown_diagnosis`, with the cause, the handover and the symptoms that
`conservative_diagnosis` puts in. -/
def conservativeReport (state : RemediationState) (facts : DiagnosticFacts) : Diagnosis where
  faultCategory := .unknown
  confidence := 0
  evidenceIds := state.evidence.map (·.evidenceId)
  runbookIds := []
  rootCause := "调查已收尾，现有证据不足以确定根因。"
  reasoningSummary := "已保存 " ++ toString state.evidence.length ++ " 项证据；采样时资源状态：" ++
    resourceLabel facts.resourceStatus ++ "，业务检查：" ++ businessLabel facts.businessStatus ++
    "。这些状态不能单独确认根因或代表当前已恢复。" ++
    "模型根因判断未通过证据校验；本报告由程序根据已保存事实生成，未采纳被拒绝的分类或根因。"
  assessment := some {
    problemDomain := .insufficientEvidence
    symptoms :=
      (if facts.resourceEvidenceIds = [] then [] else
        [⟨"采样时资源状态：" ++ facts.resourceStatus.value ++ "；不代表当前已恢复。",
          facts.resourceEvidenceIds.take 20⟩]) ++
      (if facts.businessEvidenceIds = [] then [] else
        [⟨"采样时登记业务检查状态：" ++ facts.businessStatus.value ++ "；不代表当前已恢复。",
          facts.businessEvidenceIds.take 20⟩])
    rootCauseHypotheses := []
    missingEvidence := ["足以确认根因的当前证据"]
    nextInvestigation := ["核对本轮记录，必要时明确发起新一轮完整调查"]
    resourceStatus := facts.resourceStatus
    businessStatus := facts.businessStatus
    unverifiedScope := ["根因、未登记接口及所有副本的业务覆盖"] }

/-- `conservative_diagnosis`. -/
def conservativeDiagnosis (lib : ReportLibrary) (state : RemediationState) :
    Except Raised Diagnosis := do
  let facts ← diagnosticFactsOf lib.toCheckLibrary state.toPolicyState
  let d ← currentDiagnosis (conservativeReport state facts)
  validateDiagnosisReferences lib d state
  validateDiagnosisAssessment lib.toPolicyLibrary d state.toPolicyState
  pure d

/-- How the response of a failed check is told. -/
def responseText (data : Json) : String :=
  match data.get "http_status" with
  | .num n => if 100 ≤ n ∧ n ≤ 599 then "HTTP " ++ toString n else "HTTP 状态未确认"
  | _ => "HTTP 状态未确认"

/-- How its error is told. -/
def explanationText (data : Json) : String :=
  if data.hasText "error_code" "JSON_CONTENT_MISMATCH" then "JSON 内容未满足登记的字段断言"
  else if data.hasText "error_code" "HTTP_STATUS_MISMATCH" then "响应状态码不符合登记约定"
  else if data.hasText "error_code" "INVALID_JSON" then "响应未通过 JSON 格式校验"
  else "业务响应未通过登记断言"

/-- The symptom of a check that failed. -/
def failedSymptom (row : EvidenceRow) : DiagnosticFinding :=
  ⟨"本次登记业务检查返回 " ++ responseText row.data ++ "；" ++ explanationText row.data ++ "。",
    [row.evidenceId]⟩

/-- The status of the resources, in the words of the report. -/
def resourceText : ResourceStatus → String
  | .ready => "当前资源采样满足本工具的就绪检查条件"
  | .notReady => "当前资源采样未满足就绪检查条件"
  | .unknown => "当前资源证据不足以判定就绪状态"

/-- The state of the configuration, in the words of the report. -/
def configurationText (facts : DiagnosticFacts) : String :=
  if facts.configurationEvidenceComplete && !facts.selectorDrift && !facts.readinessDrift then
    "登记 selector/readiness 未发现漂移"
  else "登记配置存在差异或检查范围不完整，需单独核对配置证据"

/-- The symptoms of the checks that failed. -/
def failedSymptoms (state : RemediationState) (facts : DiagnosticFacts) : List DiagnosticFinding :=
  (state.evidence.filter fun e => e.evidenceId ∈ facts.businessEvidenceIds &&
    e.data.hasText "status" "failed").map failedSymptom

/-- The report that `build_controlled_report` writes in the place of a diagnosis. -/
def controlledReport (d : Diagnosis) (state : RemediationState) (facts : DiagnosticFacts) :
    Diagnosis where
  faultCategory := .applicationError
  confidence := d.confidence
  evidenceIds := (d.evidenceIds ++ facts.businessEvidenceIds ++ facts.resourceEvidenceIds ++
    facts.configurationEvidenceIds).eraseDups
  runbookIds := []
  rootCause := "程序生成的证据摘要：已观察到登记业务响应断言失败；具体根因尚未确定。" ++
    " ".intercalate ((failedSymptoms state facts).map (·.summary))
  reasoningSummary := resourceText facts.resourceStatus ++ "；" ++ configurationText facts ++ "。" ++
    "这些事实不能排除其他配置、网络或基础设施因素。application_error 在此表示已观察到业务响应异常，" ++
    "不等于已证明应用代码错误；置信度沿用模型的分类值，不代表具体根因已确认。"
  assessment := some {
    problemDomain := .applicationRuntime
    symptoms := failedSymptoms state facts
    rootCauseHypotheses := [⟨⟨"可能与请求处理逻辑或运行配置有关；是否涉及数据来源或下游依赖尚待确认。",
      facts.businessEvidenceIds⟩, .suspected⟩]
    missingEvidence := ["与本次请求对应的应用处理日志或追踪记录",
      "该接口实际响应生成方式、配置来源及是否存在下游依赖的说明"]
    nextInvestigation := ["由登记负责人核对该接口约定与当前响应生成逻辑，并定位对应请求日志",
      "确认响应数据来源及实际依赖关系；仅对已经确认存在的依赖开展只读检查",
      "人工处理后分别重查资源就绪状态与登记业务断言"]
    resourceStatus := facts.resourceStatus
    businessStatus := .failed
    unverifiedScope := ["具体代码、运行配置或依赖根因", "登记 selector/readiness 以外的配置与网络因素",
      "集群外入口、未登记接口及所有副本逐一业务验证"] }

/-- `build_controlled_report`. -/
def buildControlledReport (lib : ReportLibrary) (d : Diagnosis) (state : RemediationState) :
    Except Raised Diagnosis := do
  let facts ← diagnosticFactsOf lib.toCheckLibrary state.toPolicyState
  if d.faultCategory ≠ .applicationError ∨ facts.businessStatus ≠ .failed then pure d
  else currentDiagnosis (controlledReport d state facts)

/-! ### What is built -/

/-- A row of evidence that a collection or a tool has issued. The first part of the identifier of
an incident is made of letters and digits. -/
def EvidenceRow.Issued (lib : ReportLibrary) (row : EvidenceRow) : Prop :=
  (∃ incidentId collectedAt bundle,
    (∀ c ∈ ((incidentId.splitOn "-").headD "").toList, c.isAlphanum = true) ∧
      row ∈ normalizeEvidence incidentId collectedAt bundle) ∨
    ∃ result request ref, row ∈ adapt lib.evidenceDigest result request ref

/-- A diagnosis passes its schema and both validators. -/
structure Diagnosis.Passes (lib : ReportLibrary) (state : RemediationState) (d : Diagnosis) :
    Prop where
  schema : d.valid = true
  references : validateDiagnosisReferences lib d state = .ok ⟨⟩
  assessment : validateDiagnosisAssessment lib.toPolicyLibrary d state.toPolicyState = .ok ⟨⟩

/-- **The reports of the program pass**, whichever of them is written. -/
structure ReportsPass (lib : ReportLibrary) (state : RemediationState) : Prop where
  insufficient : ∀ facts, diagnosticFactsOf lib.toCheckLibrary state.toPolicyState = .ok facts →
    canReportInsufficientEvidence facts = true →
      ∃ d, insufficientEvidenceDiagnosis lib state = .ok d ∧ d.Passes lib state
  conservative : state.evidence ≠ [] →
    ∃ d, conservativeDiagnosis lib state = .ok d ∧ d.Passes lib state
  controlled : ∀ d : Diagnosis, d.Passes lib state →
    ∃ report, buildControlledReport lib d state = .ok report ∧ report.Passes lib state

/-! ### Identifiers -/

section Identifiers

variable {lib : ReportLibrary}

/-- What the pattern matches at some place. -/
def IsMention (lib : ReportLibrary) (m : List Char) : Prop :=
  ∃ previous suf, ∃ d ∈ (evidenceIdPattern lib).ways ⟨previous, m ++ suf, []⟩, d.rest = suf

theorem isMention_chars {m : List Char} (h : IsMention lib m) :
    ∀ c ∈ m, idChar c = true ∨ lib.isDecimal c = true := by
  obtain ⟨previous, suf, d, hd, rfl⟩ := h
  have hwithin : (evidenceIdPattern lib).Within fun c => idChar c = true ∨ lib.isDecimal c = true := by
    have hchar : ∀ a : Char, idChar a = true → (Regex.char (· = a)).Within
        fun c => idChar c = true ∨ lib.isDecimal c = true := by
      intro a ha c hc
      exact Or.inl (of_decide_eq_true hc ▸ ha)
    have hdigit : (Regex.char lib.isDecimal).Within
        fun c => idChar c = true ∨ lib.isDecimal c = true := fun c hc => Or.inr hc
    have hid : (Regex.char idChar).Within
        fun c => idChar c = true ∨ lib.isDecimal c = true := fun c hc => Or.inl hc
    exact ⟨hchar _ (by decide), hchar _ (by decide), hchar _ (by decide), ⟨hid, hid⟩,
      hchar _ (by decide), hdigit, hdigit, hdigit⟩
  obtain ⟨text, htext, hchars⟩ := Regex.consumed_of_mem_ways hwithin _ d hd
  rw [List.append_cancel_right htext]
  exact hchars

/-- What the pattern matches begins as an identifier does. -/
theorem isMention_prefix {m : List Char} (h : IsMention lib m) :
    ∃ rest, m = 'e' :: 'v' :: '-' :: rest := by
  obtain ⟨previous, suf, d, hd, rfl⟩ := h
  have hstep : ∀ (a : Char) (r : Regex) (c e : Regex.Cursor), e ∈ (Regex.seq (.char (· = a)) r).ways c →
      ∃ c' : Regex.Cursor, c.rest = a :: c'.rest ∧ e ∈ r.ways c' := by
    intro a r c e he
    rw [Regex.ways, List.mem_flatMap] at he
    obtain ⟨c', hc', he⟩ := he
    rw [Regex.ways] at hc'
    cases hc : c.rest with
    | nil => simp [hc] at hc'
    | cons x xs =>
      simp only [hc] at hc'
      split at hc'
      · rename_i hx
        rw [List.mem_singleton.1 hc'] at he
        exact ⟨_, by rw [of_decide_eq_true hx], he⟩
      · cases hc'
  obtain ⟨c₁, h₁, hd₁⟩ := hstep 'e' _ _ d hd
  obtain ⟨c₂, h₂, hd₂⟩ := hstep 'v' _ _ d hd₁
  obtain ⟨c₃, h₃, hd₃⟩ := hstep '-' _ _ d hd₂
  obtain ⟨rest, hrest⟩ := Regex.suffix_of_mem_ways _ _ d hd₃
  refine ⟨rest, ?_⟩
  have htext : m ++ d.rest = ('e' :: 'v' :: '-' :: rest) ++ d.rest := by
    rw [show m ++ d.rest = 'e' :: c₁.rest from h₁, h₂, h₃, ← hrest]
    rfl
  exact List.append_cancel_right htext

theorem isMention_names (lib : ReportLibrary) : JsonNames (IsMention lib) 'v' where
  separate m hm c hc hsep := by
    have hseparators : (jsonSeparators.all fun c =>
        !idChar c && Nat.blt c.toNat 128 && !c.isDigit) = true := by decide
    have hseparator := List.all_eq_true.1 hseparators c hsep
    simp only [Bool.and_eq_true, Bool.not_eq_true', Nat.blt_eq] at hseparator
    obtain ⟨⟨hid, hascii⟩, hdigit⟩ := hseparator
    rcases isMention_chars hm c hc with h | h
    · rw [hid] at h
      cases h
    · rw [lib.isDecimal_ascii c h hascii] at hdigit
      cases hdigit
  marked m hm := by
    obtain ⟨rest, rfl⟩ := isMention_prefix hm
    simp
  mark := by decide

/-- A text without hyphens. -/
def Quiet (text : String) : Prop := '-' ∉ text.toList

/-- The characters of a fixed text are compared by their numbers, which is done at once. -/
theorem quiet_of_eq {text : String} {chars : List Char} (h : text = String.ofList chars)
    (hchars : (chars.all fun c => !Nat.beq c.toNat 45) = true) : Quiet text := by
  rw [Quiet, h, String.toList_ofList]
  intro hmem
  have hhyphen := List.all_eq_true.1 hchars '-' hmem
  exact absurd hhyphen (by decide)

theorem Quiet.append {s t : String} (hs : Quiet s) (ht : Quiet t) : Quiet (s ++ t) := by
  rw [Quiet, String.toList_append, List.mem_append, not_or]
  exact ⟨hs, ht⟩

/-- An identifier is one word. -/
def IsWord (id : String) : Prop := ∀ c ∈ id.toList, idChar c = true

theorem hyphen_notMem_escaped {c : Char} (h : c ≠ '-') : '-' ∉ escaped c := by
  unfold escaped
  have hhex : ∀ n, hexDigit n ≠ '-' := by
    intro n
    rcases Nat.lt_or_ge n 16 with hn | hn
    · exact (by decide : ∀ n < 16, hexDigit n ≠ '-') n hn
    · rw [hexDigit, List.getD_eq_getElem?_getD, List.getElem?_eq_none (by simpa using hn)]
      decide
  have hne : '-' ≠ c := fun he => h he.symm
  repeat' split
  all_goals simp [hne, fun n => (hhex n).symm]

/-- A text without hyphens mentions nothing. -/
theorem tells_of_quiet {text : String} {names : List (List Char)} (h : Quiet text) :
    Tells idChar (IsMention lib) names (text.toList.flatMap escaped) := by
  refine tells_of_absent (s := '-') (fun m hm => ?_) fun hmem => ?_
  · obtain ⟨rest, rfl⟩ := isMention_prefix hm
    simp
  · obtain ⟨c, hc, hmem⟩ := List.mem_flatMap.1 hmem
    exact hyphen_notMem_escaped (fun he => h (he ▸ hc)) hmem

theorem escaped_of_idChar {c : Char} (h : idChar c = true) : escaped c = [c] := by
  have hrange : 45 ≤ c.toNat := by
    by_contra hlt
    have hno := (by decide : ∀ n < 45, idChar (Char.ofNat n) = false) c.toNat (by omega)
    rw [Char.ofNat_toNat, h] at hno
    cases hno
  have hback : c ≠ '\\' := fun he => by
    rw [he] at h
    revert h
    decide
  unfold escaped
  have hquote : c ≠ '"' := fun he => by rw [he] at hrange; revert hrange; decide
  have hn : c ≠ '\n' := fun he => by rw [he] at hrange; revert hrange; decide
  have hr : c ≠ '\r' := fun he => by rw [he] at hrange; revert hrange; decide
  have ht : c ≠ '\t' := fun he => by rw [he] at hrange; revert hrange; decide
  rw [if_neg hquote, if_neg hback, if_neg hn, if_neg hr, if_neg ht, if_neg (by omega),
    if_neg (by omega), if_neg (by omega)]

/-- An identifier that is a word mentions itself. -/
theorem tells_of_isWord {id : String} {names : List (List Char)} (h : IsWord id)
    (hmem : id.toList ∈ names) :
    Tells idChar (IsMention lib) names (id.toList.flatMap escaped) := by
  have hsame : id.toList.flatMap escaped = id.toList := by
    rw [List.flatMap_congr fun c hc => escaped_of_idChar (h c hc)]
    simp
  rw [hsame]
  exact tells_of_word h hmem

theorem IsWord.append {s t : String} (hs : IsWord s) (ht : IsWord t) : IsWord (s ++ t) := by
  intro c hc
  rw [String.toList_append, List.mem_append] at hc
  exact hc.elim (hs c) (ht c)

theorem isWord_threeDigits (n : ℕ) : IsWord (threeDigits n) := by
  have hdigits : IsWord (toString n) := by
    intro c hc
    rw [Nat.toString_eq_ofList_toDigits, String.toList_ofList] at hc
    have hdigit := Nat.isDigit_of_mem_toDigits (by decide) (by decide) hc
    simp [idChar, Char.isAlphanum, hdigit]
  refine IsWord.append (fun c hc => ?_) hdigits
  rw [String.toList_ofList] at hc
  rw [List.eq_of_mem_replicate hc]
  decide

/-- **An identifier that was issued is a word**, and not empty. -/
theorem EvidenceRow.Issued.isWord {row : EvidenceRow} (h : row.Issued lib) :
    IsWord row.evidenceId ∧ row.evidenceId ≠ "" := by
  have hdash : IsWord "-" := by
    intro c hc
    rw [show c = '-' by simpa using hc]
    decide
  have hev : IsWord "ev-" := by
    intro c hc
    have hcases : c = 'e' ∨ c = 'v' ∨ c = '-' := by simpa using hc
    rcases hcases with rfl | rfl | rfl <;> decide
  have hone : IsWord "-001" := by
    intro c hc
    have hcases : c = '-' ∨ c = '0' ∨ c = '1' := by
      simp only [String.reduceToList, List.mem_cons, List.not_mem_nil, or_false] at hc
      tauto
    rcases hcases with rfl | rfl | rfl <;> decide
  have hne : ∀ t : String, "ev-" ++ t ≠ "" := by
    intro t ht
    have hlist := congrArg String.toList ht
    simp at hlist
  have halnum : ∀ {t : String}, (∀ c ∈ t.toList, c.isAlphanum = true) → IsWord t := by
    intro t ht c hc
    simp [idChar, ht c hc]
  rcases h with ⟨incidentId, collectedAt, bundle, hshort, hrow⟩ | ⟨result, request, ref, hrow⟩
  · obtain ⟨i, hi, rfl⟩ := List.mem_mapIdx.1 hrow
    refine ⟨((hev.append (halnum hshort)).append hdash).append (isWord_threeDigits _), ?_⟩
    show "ev-" ++ _ ++ _ ++ _ ≠ ""
    rw [String.append_assoc, String.append_assoc]
    exact hne _
  · obtain ⟨i, hi, rfl⟩ := List.mem_mapIdx.1 hrow
    refine ⟨(hev.append (halnum (lib.evidenceDigest_hex _ _))).append hone, ?_⟩
    show "ev-" ++ _ ++ _ ≠ ""
    rw [String.append_assoc]
    exact hne _

end Identifiers

/-! ### What a report mentions -/

section Mentioned

variable {lib : ReportLibrary} {d : Diagnosis} {a : DiagnosticAssessment} {p : String → Prop}

theorem texts_strings {ts : List String} :
    Json.TextsItems p (ts.map .str) ↔ ∀ t ∈ ts, p t := by
  rw [Json.textsItems_map]
  exact Iff.rfl

theorem texts_finding (hquiet : ∀ t, Quiet t → p t) {f : DiagnosticFinding} (hsummary : p f.summary)
    (hids : ∀ id ∈ f.evidenceIds, p id) : Json.TextsMembers p f.members :=
  ⟨hquiet _ (quiet_of_eq rfl rfl), hsummary, hquiet _ (quiet_of_eq rfl rfl),
    texts_strings.2 hids, trivial⟩

/-- The texts of a report are quiet, and its findings cite what the report cites. -/
structure Diagnosis.Told (d : Diagnosis) (a : DiagnosticAssessment) : Prop where
  assessment : d.assessment = some a
  rootCause : Quiet d.rootCause
  reasoningSummary : Quiet d.reasoningSummary
  runbookIds : d.runbookIds = []
  findings : ∀ f ∈ a.symptoms ++ a.rootCauseHypotheses.map (·.toDiagnosticFinding),
    Quiet f.summary ∧ ∀ id ∈ f.evidenceIds, id ∈ d.evidenceIds
  others : ∀ t ∈ a.missingEvidence ++ a.nextInvestigation ++ a.unverifiedScope, Quiet t

theorem texts_assessment (hquiet : ∀ t, Quiet t → p t) (h : d.Told a)
    (hids : ∀ id ∈ d.evidenceIds, p id) : a.json.Texts p := by
  have hkey : ∀ {t : String} {chars : List Char}, t = String.ofList chars → (chars.all fun c => !Nat.beq c.toNat 45) = true → p t :=
    fun he hchars => hquiet _ (quiet_of_eq he hchars)
  have hdomain : p a.problemDomain.value := by
    cases a.problemDomain <;> exact hkey rfl rfl
  have hresource : p a.resourceStatus.value := by
    cases a.resourceStatus <;> exact hkey rfl rfl
  have hbusiness : p a.businessStatus.value := by
    cases a.businessStatus <;> exact hkey rfl rfl
  have hstatus : ∀ h : RootCauseHypothesis, p h.status.value := by
    rintro ⟨-, _ | _⟩ <;> exact hkey rfl rfl
  have hothers : ∀ t ∈ a.missingEvidence ++ a.nextInvestigation ++ a.unverifiedScope, p t :=
    fun t ht => hquiet t (h.others t ht)
  refine ⟨hkey rfl rfl, hkey rfl rfl, hkey rfl rfl, hdomain,
    hkey rfl rfl, Json.textsItems_map.2 fun f hf => ?_,
    hkey rfl rfl, Json.textsItems_map.2 fun f hf => ?_,
    hkey rfl rfl, texts_strings.2 fun t ht => hothers t (by simp [ht]),
    hkey rfl rfl, texts_strings.2 fun t ht => hothers t (by simp [ht]),
    hkey rfl rfl, hresource, hkey rfl rfl, hbusiness,
    hkey rfl rfl, texts_strings.2 fun t ht => hothers t (by simp [ht]), trivial⟩
  · obtain ⟨hsummary, hcited⟩ := h.findings f (List.mem_append_left _ hf)
    exact texts_finding hquiet (hquiet _ hsummary) fun id hid => hids id (hcited id hid)
  · obtain ⟨hsummary, hcited⟩ :=
      h.findings _ (List.mem_append_right _ (List.mem_map_of_mem hf))
    obtain ⟨hs, hsum, he, hitems, -⟩ := texts_finding (f := f.toDiagnosticFinding) hquiet
      (hquiet _ hsummary) fun id hid => hids id (hcited id hid)
    exact ⟨hs, hsum, he, hitems, hkey rfl rfl, hstatus f, trivial⟩

/-- **A report mentions what it cites.** -/
theorem mentioned_of_told (h : d.Told a) (hwords : ∀ id ∈ d.evidenceIds, IsWord id) :
    ∀ id ∈ mentionedEvidenceIds lib d, id ∈ d.evidenceIds := by
  have hquiet : ∀ t, Quiet t → Tells idChar (IsMention lib) (d.evidenceIds.map String.toList)
      (t.toList.flatMap escaped) := fun t ht => tells_of_quiet ht
  have hids : ∀ id ∈ d.evidenceIds, Tells idChar (IsMention lib)
      (d.evidenceIds.map String.toList) (id.toList.flatMap escaped) := fun id hid =>
    tells_of_isWord (hwords id hid) (List.mem_map_of_mem hid)
  have hkey : ∀ {t : String} {chars : List Char}, t = String.ofList chars →
      (chars.all fun c => !Nat.beq c.toNat 45) = true →
      Tells idChar (IsMention lib) (d.evidenceIds.map String.toList) (t.toList.flatMap escaped) :=
    fun he hchars => hquiet _ (quiet_of_eq he hchars)
  have hcategory : Quiet d.faultCategory.value := by
    cases d.faultCategory <;> exact quiet_of_eq rfl rfl
  have hnames := isMention_names lib
  have hconfidence : Tells idChar (IsMention lib) (d.evidenceIds.map String.toList)
      (lib.reprFloat d.confidence).toList := by
    refine tells_of_absent hnames.marked fun hv => ?_
    rcases lib.reprFloat_digits d.confidence 'v' hv with hdigit | hother
    · revert hdigit
      decide
    · revert hother
      decide
  have hmembers : Json.TextsMembers (fun t => Tells idChar (IsMention lib)
      (d.evidenceIds.map String.toList) (t.toList.flatMap escaped)) d.members := by
    refine ⟨hkey rfl rfl, ?_, hkey rfl rfl, hquiet _ hcategory,
      hkey rfl rfl, hquiet _ h.rootCause, hkey rfl rfl, texts_strings.2 hids,
      hkey rfl rfl, texts_strings.2 fun t ht => ?_, trivial⟩
    · rw [h.assessment]
      exact texts_assessment hquiet h hids
    · rw [h.runbookIds] at ht
      cases ht
  have htext : Tells idChar (IsMention lib) (d.evidenceIds.map String.toList) (d.text lib) := by
    refine Json.tells_enclosed hnames (by decide) (by decide) ?_
    refine Json.tells_spaced hnames (by decide) (by decide)
      (Json.tells_dumpsMembers hnames _ hmembers) ?_
    refine Json.tells_spaced hnames (by decide) (by decide)
      (Json.tells_quoted hnames (hkey rfl rfl)) ?_
    refine Json.tells_spaced hnames (by decide) (by decide) hconfidence ?_
    exact Json.tells_dumpsMembers hnames _
      ⟨hkey rfl rfl, hquiet _ h.reasoningSummary, trivial⟩
  intro id hid
  obtain ⟨m, hm, rfl⟩ := List.mem_map.1 hid
  have hmem := htext.mem_of_mentions (r := evidenceIdPattern lib)
    (fun previous m suf hmatch => ⟨previous, suf, hmatch⟩) hm
  obtain ⟨cited, hcited, rfl⟩ := List.mem_map.1 hmem
  rw [String.ofList_toList]
  exact hcited

end Mentioned

/-! ### What the facts cite -/

section Facts

variable {lib : CheckLibrary} {state : PolicyState} {facts : DiagnosticFacts}

/-- The facts of a state are those of no profile, or of a Deployment row without an error. -/
theorem diagnosticFactsOf_cases (h : diagnosticFactsOf lib state = .ok facts) :
    facts = .none ∨ ∃ profile, ∃ row ∈ state.evidence, facts = factsOf lib state profile row := by
  cases hmatched : matchedProfile lib.toLibrary state with
  | error reason =>
    simp only [diagnosticFactsOf, hmatched, Except.ok.injEq] at h
    exact Or.inl h.symm
  | ok profile =>
    simp only [diagnosticFactsOf, hmatched] at h
    cases hrows : rowsNamed (state.evidence.filter fun e => e.error.isNone) "Deployment"
        profile.deploymentName with
    | nil =>
      rw [hrows] at h
      cases h
    | cons row rest =>
      rw [hrows] at h
      have hrow : row ∈ rowsNamed (state.evidence.filter fun e => e.error.isNone) "Deployment"
          profile.deploymentName := by rw [hrows]; exact List.mem_cons_self
      exact Or.inr ⟨profile, row, (List.mem_filter.1 (List.mem_filter.1 hrow).1).1,
        (Except.ok.inj h).symm⟩

/-- **The facts cite the evidence of the state.** -/
theorem facts_cite (h : diagnosticFactsOf lib state = .ok facts) :
    ∀ id ∈ facts.resourceEvidenceIds ++ facts.businessEvidenceIds ++ facts.configurationEvidenceIds,
      id ∈ state.evidence.map (·.evidenceId) := by
  rcases diagnosticFactsOf_cases h with rfl | ⟨profile, row, hrow, rfl⟩
  · intro id hid
    cases hid
  have hsub : ∀ {rows : List EvidenceRow}, rows ⊆ state.evidence → ∀ id ∈ rows.map (·.evidenceId),
      id ∈ state.evidence.map (·.evidenceId) := fun hrows id hid => List.map_subset _ hrows hid
  have hfree : (state.evidence.filter fun e => e.error.isNone) ⊆ state.evidence :=
    List.filter_subset_self _
  intro id hid
  rcases List.mem_append.1 hid with hid | hconfiguration
  · rcases List.mem_append.1 hid with hresource | hbusiness
    · refine hsub (fun e he => ?_) id hresource
      rcases List.mem_append.1 he with he | he
      · rcases List.mem_cons.1 he with rfl | he
        · exact hrow
        · exact hfree (List.mem_filter.1 (List.mem_filter.1 he).1).1
      · exact hfree (List.mem_filter.1 (List.mem_filter.1 he).1).1
    · obtain ⟨check, -, hcheck⟩ := List.mem_flatMap.1 hbusiness
      split at hcheck
      · rename_i e he
        rw [List.mem_singleton.1 hcheck]
        have hmem : e ∈ checkRows (state.evidence.filter fun e => e.error.isNone) check := by
          rw [he]
          exact List.mem_singleton_self e
        exact List.mem_map_of_mem (hfree (List.mem_filter.1 (List.mem_filter.1 hmem).1).1)
      · cases hcheck
  · rcases List.mem_append.1 hconfiguration with hservice | hdeployment
    · split at hservice
      · obtain ⟨e, he, rfl⟩ := Option.map_eq_some_iff.1 (Option.mem_toList.1 hservice)
        refine List.mem_map_of_mem (hfree ?_)
        unfold serviceInEvidence at he
        split at he
        · rename_i row' hrows
          rw [← Option.some.inj he]
          exact (List.mem_filter.1 (hrows ▸ List.mem_singleton_self row')).1
        · cases he
      · cases hservice
    · rw [List.mem_singleton.1 hdeployment]
      exact List.mem_map_of_mem hrow

/-- A failure of the business checks has been seen in some row. -/
theorem businessEvidenceIds_ne_nil (h : diagnosticFactsOf lib state = .ok facts)
    (hfailed : facts.businessStatus = .failed) : facts.businessEvidenceIds ≠ [] := by
  rcases diagnosticFactsOf_cases h with rfl | ⟨profile, row, -, rfl⟩
  · cases hfailed
  have hverdict : CheckVerdict.failed ∈ profile.businessChecks.map
      (businessVerdict lib profile ((serviceInEvidence (state.evidence.filter fun e =>
        e.error.isNone) state.request).elim (.obj []) (·.data))
        (state.evidence.filter fun e => e.error.isNone)) := by
    by_contra hnone
    have hstatus : businessStatus _ = BusinessStatus.failed := hfailed
    rw [businessStatus, if_neg hnone] at hstatus
    split at hstatus <;> cases hstatus
  obtain ⟨check, hcheck, hverdict⟩ := List.mem_map.1 hverdict
  intro hnil
  have hids := List.flatMap_eq_nil_iff.1 hnil check hcheck
  unfold businessVerdict at hverdict
  split at hverdict
  · rename_i e he
    rw [he] at hids
    cases hids
  · cases hverdict

/-- Where no Deployment row has an error, the facts can be computed. -/
theorem exists_facts (h : ∀ row ∈ state.evidence, row.resourceType = "Deployment" →
    row.error = none) : ∃ facts, diagnosticFactsOf lib state = .ok facts := by
  unfold diagnosticFactsOf
  cases hmatched : matchedProfile lib.toLibrary state with
  | error reason => exact ⟨_, rfl⟩
  | ok profile =>
    obtain ⟨-, -, -, row, hrows, -⟩ := matchedProfile_spec lib.toLibrary hmatched
    have hmem : row ∈ rowsNamed state.evidence "Deployment" profile.deploymentName := by
      rw [hrows]
      exact List.mem_singleton_self row
    obtain ⟨hrow, hkind⟩ := List.mem_filter.1 hmem
    have hfree : row ∈ rowsNamed (state.evidence.filter fun e => e.error.isNone) "Deployment"
        profile.deploymentName := by
      refine List.mem_filter.2 ⟨List.mem_filter.2 ⟨hrow, ?_⟩, hkind⟩
      simp only [Bool.and_eq_true, decide_eq_true_eq] at hkind
      rw [h row hrow hkind.1]
      rfl
    simp only
    cases hlist : rowsNamed (state.evidence.filter fun e => e.error.isNone) "Deployment"
        profile.deploymentName with
    | nil =>
      rw [hlist] at hfree
      cases hfree
    | cons first rest => exact ⟨_, rfl⟩

end Facts

/-! ### Texts of the reports -/

section Texts

theorem quiet_toString_nat (n : ℕ) : Quiet (toString n) := by
  intro hmem
  rw [Nat.toString_eq_ofList_toDigits, String.toList_ofList] at hmem
  have hdigit := Nat.isDigit_of_mem_toDigits (by decide) (by decide) hmem
  revert hdigit
  decide

theorem quiet_resourceLabel (status : ResourceStatus) : Quiet (resourceLabel status) := by
  cases status <;> exact quiet_of_eq rfl rfl

theorem quiet_businessLabel (status : BusinessStatus) : Quiet (businessLabel status) := by
  cases status <;> exact quiet_of_eq rfl rfl

theorem quiet_resourceStatus (status : ResourceStatus) : Quiet status.value := by
  cases status <;> exact quiet_of_eq rfl rfl

theorem quiet_businessStatus (status : BusinessStatus) : Quiet status.value := by
  cases status <;> exact quiet_of_eq rfl rfl

theorem quiet_responseText (data : Json) : Quiet (responseText data) := by
  unfold responseText
  split
  · rename_i n hn
    split
    · rename_i hrange
      obtain ⟨k, rfl⟩ := Int.eq_ofNat_of_zero_le (show 0 ≤ n by omega)
      exact Quiet.append (quiet_of_eq rfl rfl) (quiet_toString_nat k)
    · exact quiet_of_eq rfl rfl
  · exact quiet_of_eq rfl rfl

theorem quiet_explanationText (data : Json) : Quiet (explanationText data) := by
  unfold explanationText
  split_ifs <;> exact quiet_of_eq rfl rfl

theorem quiet_failedSymptom (row : EvidenceRow) : Quiet (failedSymptom row).summary :=
  (((quiet_of_eq rfl rfl).append (quiet_responseText row.data)).append
    (quiet_of_eq rfl rfl)).append (quiet_explanationText row.data) |>.append
      (quiet_of_eq rfl rfl)

theorem quiet_resourceText (status : ResourceStatus) : Quiet (resourceText status) := by
  cases status <;> exact quiet_of_eq rfl rfl

theorem quiet_configurationText (facts : DiagnosticFacts) : Quiet (configurationText facts) := by
  unfold configurationText
  split_ifs <;> exact quiet_of_eq rfl rfl

/-- Texts without hyphens are joined by blanks into one. -/
theorem quiet_intercalate {texts : List String} (h : ∀ t ∈ texts, Quiet t) :
    Quiet (" ".intercalate texts) := by
  induction texts with
  | nil => exact quiet_of_eq rfl rfl
  | cons t rest ih =>
    cases rest with
    | nil =>
      rw [String.intercalate_singleton]
      exact h t (by simp)
    | cons u rest =>
      rw [String.intercalate_cons_cons]
      exact ((h t (by simp)).append (quiet_of_eq rfl rfl)).append
        (ih fun v hv => h v (List.mem_cons_of_mem _ hv))

end Texts

/-! ### Passing the validators -/

section Passing

variable {lib : ReportLibrary} {state : RemediationState} {facts : DiagnosticFacts} {d : Diagnosis}
  {a : DiagnosticAssessment}

/-- A report cites evidence of the state and no runbook, in a category that needs none. -/
theorem references_pass (hissued : ∀ row ∈ state.evidence, row.Issued lib) (htold : d.Told a)
    (hids : ∀ id ∈ d.evidenceIds, id ∈ state.evidence.map (·.evidenceId))
    (hcategory : d.faultCategory = .unknown ∨ d.faultCategory = .applicationError) :
    validateDiagnosisReferences lib d state = .ok ⟨⟩ := by
  have hwords : ∀ id ∈ d.evidenceIds, IsWord id ∧ id ≠ "" := by
    intro id hid
    obtain ⟨row, hrow, rfl⟩ := List.mem_map.1 (hids id hid)
    exact (hissued row hrow).isWord
  have havailable : ∀ id ∈ d.evidenceIds,
      id ∈ (state.evidence.map (·.evidenceId)).filter (· ≠ "") := by
    intro id hid
    exact List.mem_filter.2 ⟨hids id hid, decide_eq_true (hwords id hid).2⟩
  have hmentioned : ∀ id ∈ mentionedEvidenceIds lib d, id ∈ d.evidenceIds :=
    mentioned_of_told htold fun id hid => (hwords id hid).1
  simp only [validateDiagnosisReferences, bind_eq_ok, raiseIf_eq_ok]
  refine ⟨⟨⟩, ?_, ⟨⟩, ?_, ⟨⟩, ?_, ?_⟩
  · rintro ⟨id, hid, hnone⟩
    exact hnone (havailable id hid)
  · rintro ⟨id, hid, -⟩
    rw [htold.runbookIds] at hid
    cases hid
  · rintro ⟨id, hid, hnone⟩
    exact hnone (hmentioned id hid)
  · rintro ⟨hnot, -⟩
    rcases hcategory with h | h <;> simp [h] at hnot

/-- An assessment in the words of the facts is accepted, where its category asks for no cause. -/
theorem assessment_passes
    (hfacts : diagnosticFactsOf lib.toCheckLibrary state.toPolicyState = .ok facts)
    (htold : d.Told a) (hresource : a.resourceStatus = facts.resourceStatus)
    (hbusiness : a.businessStatus = facts.businessStatus)
    (hchecks : ∀ id ∈ facts.businessEvidenceIds, id ∈ d.evidenceIds)
    (hdomain : a.problemDomain ∈ d.faultCategory.domains)
    (hcategory : d.faultCategory = .unknown ∧ d.confidence ≤ maxUnknownConfidence ∨
      d.faultCategory = .applicationError ∧ facts.businessStatus = .failed)
    (hsteps : a.missingEvidence ≠ [] ∧ a.nextInvestigation ≠ [])
    (hsuspected : ∀ h ∈ a.rootCauseHypotheses, h.status = .suspected) :
    validateDiagnosisAssessment lib.toPolicyLibrary d state.toPolicyState = .ok ⟨⟩ := by
  have hconfiguration : validateConfiguration lib.toPolicyLibrary d a facts = .ok ⟨⟩ := by
    rcases hcategory with ⟨h, -⟩ | ⟨h, -⟩ <;> rw [validateConfiguration, h] <;> rfl
  have hconclusion : validateConclusion d a facts = .ok ⟨⟩ := by
    have hnone : d.faultCategory ≠ .noFaultDetected := by
      rcases hcategory with ⟨h, -⟩ | ⟨h, -⟩ <;> rw [h] <;> decide
    rw [validateConclusion, if_neg hnone]
    exact require_eq_ok.2 (Or.inr hsteps)
  have hrest : validateCategory d a facts = .ok ⟨⟩ := by
    simp only [validateCategory, bind_eq_ok, require_eq_ok]
    rcases hcategory with ⟨h, hconfidence⟩ | ⟨h, hfailed⟩
    · exact ⟨⟨⟩, fun _ => hconfidence, ⟨⟩, by simp [h], ⟨⟩, by simp [h], ⟨⟩, by simp [h],
        ⟨⟩, by simp [h], ⟨⟩, by simp [h], fun _ => hsuspected⟩
    · exact ⟨⟨⟩, by simp [h], ⟨⟩, fun _ => Or.inl hfailed, ⟨⟩, by simp [h], ⟨⟩, by simp [h],
        ⟨⟩, by simp [h], ⟨⟩, by simp [h], fun _ => hsuspected⟩
  simp only [validateDiagnosisAssessment, bind_eq_ok, rowOr_eq_ok, require_eq_ok]
  exact ⟨a, htold.assessment, facts, hfacts, ⟨⟩, hresource, ⟨⟩, hbusiness, ⟨⟩,
    fun f hf => (htold.findings f hf).2, ⟨⟩, hchecks, ⟨⟩, hdomain, ⟨⟩, hconfiguration, ⟨⟩,
    hconclusion, hrest⟩

/-- A business status of the facts is no `skipped`. -/
theorem businessStatus_ne_skipped
    (h : diagnosticFactsOf lib.toCheckLibrary state.toPolicyState = .ok facts) :
    facts.businessStatus ≠ .skipped := by
  rcases diagnosticFactsOf_cases h with rfl | ⟨profile, row, -, rfl⟩
  · decide
  · show businessStatus _ ≠ BusinessStatus.skipped
    unfold businessStatus
    split_ifs <;> decide

/-- What the schema asks of a diagnosis with an assessment. -/
theorem valid_of_assessment (hassessment : d.assessment = some a)
    (hfindings : ∀ f ∈ a.symptoms ++ a.rootCauseHypotheses.map (·.toDiagnosticFinding),
      f.valid = true)
    (hbusiness : a.businessStatus ≠ .skipped) (hscope : a.unverifiedScope ≠ [])
    (hcause : d.rootCause ≠ "") (hids : d.evidenceIds ≠ [])
    (hconfidence : 0 ≤ d.confidence ∧ d.confidence ≤ 1) (hsummary : d.reasoningSummary ≠ "") :
    d.valid = true := by
  have hsymptoms : a.symptoms.all DiagnosticFinding.valid = true :=
    List.all_eq_true.2 fun f hf => hfindings f (List.mem_append_left _ hf)
  have hhypotheses : (a.rootCauseHypotheses.all fun h => h.toDiagnosticFinding.valid) = true :=
    List.all_eq_true.2 fun h hh =>
      hfindings _ (List.mem_append_right _ (List.mem_map_of_mem hh))
  have hassessed : a.valid = true := by
    rw [DiagnosticAssessment.valid, hsymptoms, hhypotheses]
    simp [hbusiness, hscope]
  rw [Diagnosis.valid, hassessment, Option.all_some, hassessed]
  simp [hcause, hids, hconfidence.1, hconfidence.2, hsummary]

theorem currentDiagnosis_of_valid (h : d.assessment.isSome = true) (hvalid : d.valid = true) :
    currentDiagnosis d = .ok d := by
  simp [currentDiagnosis, raiseIf, h, hvalid]

end Passing

/-! ### The reports pass -/

section Reports

variable {lib : ReportLibrary} {state : RemediationState} {facts : DiagnosticFacts} {d : Diagnosis}
  {a : DiagnosticAssessment}

theorem append_ne_empty {s : String} (h : s ≠ "") (t : String) : s ++ t ≠ "" := by
  intro ht
  exact h (String.append_eq_empty_iff.1 ht).1

-- The fixed texts of the reports are long: each is unfolded into its characters here, once.
set_option maxRecDepth 4000 in
theorem insufficientEvidenceReport_told (h : (insufficientEvidenceReport facts).assessment = some a) :
    (insufficientEvidenceReport facts).Told a := by
  cases h
  refine ⟨rfl, quiet_of_eq rfl rfl, quiet_of_eq rfl rfl, rfl,
    ?_, ?_⟩
  · intro f hf
    rw [List.mem_append, List.map_nil, List.mem_cons, List.mem_singleton] at hf
    rcases hf with (rfl | rfl) | hf
    · exact ⟨quiet_of_eq rfl rfl, fun id hid =>
        List.mem_eraseDups.2 (List.mem_append_left _ hid)⟩
    · exact ⟨quiet_of_eq rfl rfl, fun id hid =>
        List.mem_eraseDups.2 (List.mem_append_right _ hid)⟩
    · cases hf
  · repeat refine List.forall_mem_cons.2 ⟨quiet_of_eq rfl rfl, ?_⟩
    rintro t ⟨⟩

set_option maxRecDepth 4000 in
theorem conservativeReport_told (h : (conservativeReport state facts).assessment = some a)
    (hcited : ∀ id ∈ facts.resourceEvidenceIds ++ facts.businessEvidenceIds,
      id ∈ state.evidence.map (·.evidenceId)) :
    (conservativeReport state facts).Told a := by
  cases h
  refine ⟨rfl, quiet_of_eq rfl rfl, ?_, rfl, ?_, ?_⟩
  · exact ((((((quiet_of_eq rfl rfl).append (quiet_toString_nat _)).append
      (quiet_of_eq rfl rfl)).append (quiet_resourceLabel _)).append
      (quiet_of_eq rfl rfl)).append (quiet_businessLabel _)).append
      (quiet_of_eq rfl rfl) |>.append (quiet_of_eq rfl rfl)
  · have hfinding : ∀ (ids : List String) (summary : String), Quiet summary →
        (∀ id ∈ ids, id ∈ state.evidence.map (·.evidenceId)) →
        ∀ f ∈ (if ids = [] then [] else [(⟨summary, ids.take 20⟩ : DiagnosticFinding)]),
          Quiet f.summary ∧ ∀ id ∈ f.evidenceIds, id ∈ state.evidence.map (·.evidenceId) := by
      intro ids summary hquiet hids f hf
      split_ifs at hf
      · cases hf
      · rw [List.mem_singleton.1 hf]
        exact ⟨hquiet, fun id hid => hids id (List.mem_of_mem_take hid)⟩
    intro f hf
    rw [List.map_nil, List.append_nil, List.mem_append] at hf
    rcases hf with hf | hf
    · exact hfinding _ _ (((quiet_of_eq rfl rfl).append
        (quiet_resourceStatus _)).append (quiet_of_eq rfl rfl))
        (fun id hid => hcited id (List.mem_append_left _ hid)) f hf
    · exact hfinding _ _ (((quiet_of_eq rfl rfl).append
        (quiet_businessStatus _)).append (quiet_of_eq rfl rfl))
        (fun id hid => hcited id (List.mem_append_right _ hid)) f hf
  · repeat refine List.forall_mem_cons.2 ⟨quiet_of_eq rfl rfl, ?_⟩
    rintro t ⟨⟩

theorem failedSymptoms_spec {f : DiagnosticFinding} (h : f ∈ failedSymptoms state facts) :
    Quiet f.summary ∧ f.valid = true ∧ ∀ id ∈ f.evidenceIds, id ∈ facts.businessEvidenceIds := by
  obtain ⟨row, hrow, rfl⟩ := List.mem_map.1 h
  have hcited := (List.mem_filter.1 hrow).2
  rw [Bool.and_eq_true, decide_eq_true_eq] at hcited
  refine ⟨quiet_failedSymptom row, ?_, fun id hid => ?_⟩
  · have hne : (failedSymptom row).summary ≠ "" :=
      append_ne_empty (append_ne_empty (append_ne_empty (append_ne_empty (by decide) _) _) _) _
    rw [DiagnosticFinding.valid, decide_eq_true hne]
    rfl
  · rw [List.mem_singleton.1 hid]
    exact hcited.1

set_option maxRecDepth 4000 in
theorem controlledReport_told (h : (controlledReport d state facts).assessment = some a) :
    (controlledReport d state facts).Told a := by
  cases h
  have hbusiness : ∀ id ∈ facts.businessEvidenceIds,
      id ∈ (controlledReport d state facts).evidenceIds := by
    intro id hid
    exact List.mem_eraseDups.2 (List.mem_append_left _ (List.mem_append_left _
      (List.mem_append_right _ hid)))
  refine ⟨rfl, ?_, ?_, rfl, ?_, ?_⟩
  · refine Quiet.append (quiet_of_eq rfl rfl) (quiet_intercalate fun t ht => ?_)
    obtain ⟨f, hf, rfl⟩ := List.mem_map.1 ht
    exact (failedSymptoms_spec hf).1
  · exact ((((quiet_resourceText _).append (quiet_of_eq rfl rfl)).append
      (quiet_configurationText _)).append (quiet_of_eq rfl rfl)).append
      (quiet_of_eq rfl rfl) |>.append (quiet_of_eq rfl rfl)
  · intro f hf
    rcases List.mem_append.1 hf with hf | hf
    · obtain ⟨hquiet, -, hcited⟩ := failedSymptoms_spec hf
      exact ⟨hquiet, fun id hid => hbusiness id (hcited id hid)⟩
    · rw [List.mem_singleton.1 hf]
      exact ⟨quiet_of_eq rfl rfl, hbusiness⟩
  · repeat refine List.forall_mem_cons.2 ⟨quiet_of_eq rfl rfl, ?_⟩
    rintro t ⟨⟩

theorem zero_mem_unit : (0 : Rat) ≤ 0 ∧ (0 : Rat) ≤ 1 := by
  decide

theorem zero_le_maxUnknownConfidence : (0 : Rat) ≤ maxUnknownConfidence := by
  decide +kernel

/-- The report of insufficient evidence passes, where it may be written. -/
theorem insufficientEvidence_passes (hissued : ∀ row ∈ state.evidence, row.Issued lib)
    (hfacts : diagnosticFactsOf lib.toCheckLibrary state.toPolicyState = .ok facts)
    (hcan : canReportInsufficientEvidence facts = true) :
    (insufficientEvidenceReport facts).Passes lib state := by
  simp only [canReportInsufficientEvidence, Bool.and_eq_true, decide_eq_true_eq] at hcan
  obtain ⟨⟨⟨⟨⟨⟨⟨-, hready⟩, hbusiness⟩, -⟩, -⟩, -⟩, hchecks⟩, hresources⟩ := hcan
  have htold : (insufficientEvidenceReport facts).Told _ := insufficientEvidenceReport_told rfl
  have hcited := facts_cite hfacts
  have hmem : ∀ id, id ∈ (insufficientEvidenceReport facts).evidenceIds ↔
      id ∈ facts.resourceEvidenceIds ++ facts.businessEvidenceIds := fun id => List.mem_eraseDups
  refine ⟨?_, references_pass hissued htold (fun id hid => ?_) (Or.inl rfl),
    assessment_passes hfacts htold hready.symm hbusiness.symm (fun id hid => ?_)
      (List.mem_singleton_self _) (Or.inl ⟨rfl, ?_⟩) ⟨by simp, by simp⟩ (by simp)⟩
  · obtain ⟨id, hid⟩ := List.exists_mem_of_ne_nil _ hresources
    refine valid_of_assessment rfl (fun f hf => ?_) (by simp) (by simp)
      (by simp [insufficientEvidenceReport])
      (List.ne_nil_of_mem ((hmem id).2 (List.mem_append_left _ hid))) zero_mem_unit
      (by simp [insufficientEvidenceReport])
    rw [List.map_nil, List.append_nil, List.mem_cons, List.mem_singleton] at hf
    rcases hf with rfl | rfl
    · rw [DiagnosticFinding.valid, decide_eq_true hresources]
      rfl
    · rw [DiagnosticFinding.valid, decide_eq_true hchecks]
      rfl
  · exact hcited id (List.mem_append_left _ ((hmem id).1 hid))
  · exact (hmem id).2 (List.mem_append_right _ hid)
  · exact zero_le_maxUnknownConfidence

/-- The conservative report passes, where there is evidence to keep. -/
theorem conservative_passes (hissued : ∀ row ∈ state.evidence, row.Issued lib)
    (hfacts : diagnosticFactsOf lib.toCheckLibrary state.toPolicyState = .ok facts)
    (hrows : state.evidence ≠ []) : (conservativeReport state facts).Passes lib state := by
  have hcited := facts_cite hfacts
  have htold : (conservativeReport state facts).Told _ := conservativeReport_told rfl
    fun id hid => hcited id (List.mem_append_left _ hid)
  refine ⟨?_, references_pass hissued htold (fun id hid => hid) (Or.inl rfl),
    assessment_passes hfacts htold rfl rfl (fun id hid => ?_)
      (List.mem_singleton_self _) (Or.inl ⟨rfl, ?_⟩) ⟨by simp, by simp⟩ (by simp)⟩
  · refine valid_of_assessment rfl (fun f hf => ?_) (businessStatus_ne_skipped hfacts) (by simp)
      (by simp [conservativeReport]) (by simpa [conservativeReport] using hrows) zero_mem_unit ?_
    · have hfinding : ∀ (ids : List String) (summary : String), summary ≠ "" →
          ∀ f ∈ (if ids = [] then [] else [(⟨summary, ids.take 20⟩ : DiagnosticFinding)]),
            f.valid = true := by
        intro ids summary hsummary f hf
        split_ifs at hf with hids
        · cases hf
        · rw [List.mem_singleton.1 hf, DiagnosticFinding.valid, decide_eq_true hsummary]
          simp [hids]
      rw [List.map_nil, List.append_nil, List.mem_append] at hf
      rcases hf with hf | hf
      · exact hfinding _ _ (append_ne_empty (append_ne_empty (by decide) _) _) f hf
      · exact hfinding _ _ (append_ne_empty (append_ne_empty (by decide) _) _) f hf
    · iterate 7 refine append_ne_empty ?_ _
      decide
  · exact hcited id (List.mem_append_left _ (List.mem_append_right _ hid))
  · exact zero_le_maxUnknownConfidence

/-- The controlled report passes, in the place of a diagnosis that does. -/
theorem controlled_passes (hissued : ∀ row ∈ state.evidence, row.Issued lib)
    (hfacts : diagnosticFactsOf lib.toCheckLibrary state.toPolicyState = .ok facts)
    (hpasses : d.Passes lib state) (hfailed : facts.businessStatus = .failed) :
    (controlledReport d state facts).Passes lib state := by
  have hcited := facts_cite hfacts
  have htold : (controlledReport d state facts).Told _ := controlledReport_told rfl
  have hchecks := businessEvidenceIds_ne_nil hfacts hfailed
  have hmem : ∀ id, id ∈ (controlledReport d state facts).evidenceIds ↔
      id ∈ d.evidenceIds ++ facts.businessEvidenceIds ++ facts.resourceEvidenceIds ++
        facts.configurationEvidenceIds := fun id => List.mem_eraseDups
  have hbusiness : ∀ id ∈ facts.businessEvidenceIds,
      id ∈ (controlledReport d state facts).evidenceIds := fun id hid =>
    (hmem id).2 (by simp [hid])
  have hdeclared : ∀ id ∈ d.evidenceIds, id ∈ state.evidence.map (·.evidenceId) := by
    intro id hid
    have hreferences := hpasses.references
    simp only [validateDiagnosisReferences, bind_eq_ok, raiseIf_eq_ok] at hreferences
    obtain ⟨-, hevidence, -⟩ := hreferences
    by_contra hnone
    exact hevidence ⟨id, hid, fun h => hnone (List.mem_filter.1 h).1⟩
  have hconfidence : 0 ≤ d.confidence ∧ d.confidence ≤ 1 := by
    have hvalid := hpasses.schema
    simp only [Diagnosis.valid, Bool.and_eq_true, decide_eq_true_eq] at hvalid
    exact hvalid.1.2
  refine ⟨?_, references_pass hissued htold (fun id hid => ?_) (Or.inr rfl),
    assessment_passes hfacts htold rfl hfailed.symm hbusiness
      (List.mem_singleton_self _) (Or.inr ⟨rfl, hfailed⟩) ⟨by simp, by simp⟩ ?_⟩
  · obtain ⟨id, hid⟩ := List.exists_mem_of_ne_nil _ hchecks
    refine valid_of_assessment rfl (fun f hf => ?_) (by simp) (by simp)
      (append_ne_empty (by decide) _) (List.ne_nil_of_mem (hbusiness id hid)) hconfidence ?_
    · rcases List.mem_append.1 hf with hf | hf
      · exact (failedSymptoms_spec hf).2.1
      · rw [List.mem_singleton.1 hf, DiagnosticFinding.valid, decide_eq_true hchecks]
        rfl
    · iterate 5 refine append_ne_empty ?_ _
      cases facts.resourceStatus <;> decide
  · have hid := (hmem id).1 hid
    simp only [List.mem_append] at hid hcited
    rcases hid with ((hid | hid) | hid) | hid
    · exact hdeclared id hid
    · exact hcited id (Or.inl (Or.inr hid))
    · exact hcited id (Or.inl (Or.inl hid))
    · exact hcited id (Or.inr hid)
  · intro h hh
    rw [List.mem_singleton.1 hh]

/-- **The reports of the program pass its own validators**, on evidence whose identifiers the
program has issued and whose Deployment rows have no error. -/
theorem reports_pass (hissued : ∀ row ∈ state.evidence, row.Issued lib)
    (herrors : ∀ row ∈ state.evidence, row.resourceType = "Deployment" → row.error = none) :
    ReportsPass lib state := by
  refine ⟨fun facts hfacts hcan => ?_, fun hrows => ?_, fun d hpasses => ?_⟩
  · have hpass := insufficientEvidence_passes hissued hfacts hcan
    refine ⟨_, ?_, hpass⟩
    simp only [insufficientEvidenceDiagnosis, bind_eq_ok, raiseIf_eq_ok]
    exact ⟨facts, hfacts, ⟨⟩, by simp [hcan], currentDiagnosis_of_valid rfl hpass.schema⟩
  · obtain ⟨facts, hfacts⟩ : ∃ facts, diagnosticFactsOf lib.toCheckLibrary state.toPolicyState =
        .ok facts := exists_facts herrors
    have hpass := conservative_passes hissued hfacts hrows
    refine ⟨_, ?_, hpass⟩
    simp only [conservativeDiagnosis, bind_eq_ok]
    exact ⟨facts, hfacts, _, currentDiagnosis_of_valid rfl hpass.schema, ⟨⟩, hpass.references,
      ⟨⟩, hpass.assessment, rfl⟩
  · obtain ⟨facts, hfacts⟩ : ∃ facts, diagnosticFactsOf lib.toCheckLibrary state.toPolicyState =
        .ok facts := exists_facts herrors
    by_cases hother : d.faultCategory ≠ .applicationError ∨ facts.businessStatus ≠ .failed
    · refine ⟨d, ?_, hpasses⟩
      simp only [buildControlledReport, bind_eq_ok]
      exact ⟨facts, hfacts, by rw [if_pos hother]; rfl⟩
    · have hpass := controlled_passes hissued hfacts hpasses (by tauto)
      refine ⟨_, ?_, hpass⟩
      simp only [buildControlledReport, bind_eq_ok]
      exact ⟨facts, hfacts, by rw [if_neg hother]; exact currentDiagnosis_of_valid rfl hpass.schema⟩

end Reports

/-! ### A collection that is reported -/

/-- A library for the reports, over the one of the policy. -/
def demoReports : ReportLibrary :=
  { demoLibrary with
    isDecimal := Char.isDigit
    isDecimal_ascii := fun _ h _ => h
    reprFloat := fun _ => "0.0"
    reprFloat_digits := fun _ c hc => by
      have hcases : c = '0' ∨ c = '.' ∨ c = '0' := by simpa using hc
      rcases hcases with rfl | rfl | rfl <;> simp
    evidenceDigest := fun id n => String.ofList ((id ++ toString n).toList.filter Char.isAlphanum)
    evidenceDigest_hex := fun id n c hc => by
      rw [String.toList_ofList] at hc
      exact (List.mem_filter.1 hc).2 }

/-- The Service and the Deployment, as they are collected for an incident. -/
def collectedState : RemediationState :=
  { demoState with
    evidence := normalizeEvidence "a-1" "2025-01-01T00:00:00Z"
      { (default : Bundle) with
        namespaceName := safeNamespace
        serviceName := "web"
        service := demoService
        deployments := [("web", demoDeployment)] } }

/-- The first part of the identifier of the incident. -/
theorem collected_shortId : ("a-1".splitOn "-").headD "" = "a" := by
  -- `splitOn` goes by positions: it is unfolded once for each character.
  rw [String.splitOn, if_neg (by decide), String.splitOnAux, if_neg (by decide +kernel),
    if_neg (by decide +kernel), String.splitOnAux, if_neg (by decide +kernel),
    if_pos (by decide +kernel)]
  simp only
  rw [if_pos (by decide +kernel), String.splitOnAux, if_neg (by decide +kernel),
    if_neg (by decide +kernel), String.splitOnAux, if_pos (by decide +kernel)]
  decide +kernel

/-- The reports on what was collected pass. -/
theorem reports_pass_collected :
    collectedState.evidence.length = 3 ∧ ReportsPass demoReports collectedState := by
  refine ⟨by decide +kernel, reports_pass (fun row hrow => ?_) fun row hrow _ => ?_⟩
  · refine Or.inl ⟨_, _, _, ?_, hrow⟩
    rw [collected_shortId]
    intro c hc
    rw [show c = 'a' by simpa using hc]
    decide
  · obtain ⟨i, hi, rfl⟩ := List.mem_mapIdx.1 hrow
    rfl

end IncidentAgent
