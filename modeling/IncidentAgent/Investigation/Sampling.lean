import IncidentAgent.Investigation.Budget
import IncidentAgent.Tools.LogText

/-!
# Repeated reads

A tool may read the same thing again only with a grant of the server. What is read is known by
its semantic key, which tells apart the tool, the object, the container and the instance of it,
and nothing else; each read of a key has a generation. A grant is made for a request
(`authorizeSample`), saved, and given again to whoever replays the request; the call of the tool
(`toolReservation`) is made with the grant, and the budget refuses a query key that it has seen.

Generations are counted over the calls, and the basis of a repeated read is compared with those
of the grants, so that the two may differ: a grant need not have a call, and several grants may
have the same generation. `repeated_reads_justified` says what holds of the reads all the same.
-/

namespace IncidentAgent

open Entries Transition

/-! ### Requests -/

/-- The resource that a reference stands for, with its kind. -/
structure CatalogRef extends ToolRef where
  kind : String
  deriving DecidableEq, Inhabited

/-- A request of a tool, with the lines that it asks for. -/
structure SampledRequest extends ToolRequest where
  tailLines : Option Nat
  deriving DecidableEq, Inhabited

/-- `TOOL_KINDS`. -/
def InvestigationTool.kind : InvestigationTool → String
  | .resourceSummary | .registeredBusiness => "service"
  | .podLogs | .podEvents => "pod"
  | .endpointSlice => "endpoint_slice"
  | .deployment => "deployment"
  | .replicaSet => "replica_set"

/-- `FRESHNESS_SECONDS`. -/
def InvestigationTool.freshnessSeconds : InvestigationTool → ℤ
  | .resourceSummary | .registeredBusiness | .endpointSlice => 30
  | .podLogs | .podEvents | .deployment | .replicaSet => 60

/-- `ToolRequest.model_validate`: only logs have an instance and lines to ask for, and the others
have the defaults of old requests. -/
def SampledRequest.valid (request : SampledRequest) : Bool :=
  if request.tool = .podLogs then request.tailLines.all (1 ≤ ·)
  else request.previous = false && request.tailLines = some 100

/-- What a digest and a clock make of texts. -/
structure SamplingEnv where
  /-- `toolbox.refs`: the catalog of the run. -/
  refs : List (String × CatalogRef)
  runId : String
  /-- The digest of a query, by which its reads are known. -/
  queryDigest : Json → String
  /-- The digest of a semantic key and a generation. -/
  sampleDigest : String → Nat → String
  /-- The digest of a request, a reason and the messages of the answers. -/
  grantFingerprint : SampledRequest → Option String → List String → String
  /-- The digest of a request and the digest of its grant. -/
  callFingerprint : SampledRequest → Json → String
  /-- The digest of an answer. -/
  answerFingerprint : Json → String
  /-- `datetime.fromisoformat`, in microseconds. -/
  instant : String → Option ℤ

/-- The digest tells queries apart. -/
def SamplingEnv.TellsApart (env : SamplingEnv) : Prop := Function.Injective env.queryDigest

/-- `validate_request`, before the lines of a log are set: the boundary, and the contract of the
tool. -/
def validateRequest (env : SamplingEnv) (request : SampledRequest) :
    Except Raised CatalogRef := do
  let ref ← rowOr (env.refs.lookup request.resourceRef)
    ⟨"ToolBoundaryError", none, some "TOOL_RESOURCE_NOT_ALLOWED"⟩
  raiseIf (ref.kind ≠ request.tool.kind)
    ⟨"ToolBoundaryError", none, some "TOOL_RESOURCE_NOT_ALLOWED"⟩
  raiseIf (request.valid = false) ⟨"ValidationError", none, none⟩
  pure ref

/-- The request that is executed: whatever lines a request of logs asks for, it gets `LOG_LINES`. -/
def SampledRequest.executed (request : SampledRequest) : SampledRequest :=
  if request.tool = .podLogs then { request with tailLines := some logLines } else request

/-- What the query of a request says. -/
def queryOf (request : ToolRequest) (ref : ToolRef) : Json :=
  .obj [("tool", .str request.tool.value), ("uid", .str ref.uid),
    ("namespace", .str ref.namespaceName),
    ("container", if request.tool = .podLogs then ref.container else .null),
    ("previous", .bool request.previous)]

/-- `query_key`. -/
def queryKey (env : SamplingEnv) (request : SampledRequest) : Except Raised String := do
  let ref ← validateRequest env request
  pure (env.queryDigest (queryOf request.toToolRequest ref.toToolRef))

/-! ### Grants -/

/-- Why a read is permitted. -/
inductive Basis
  | initial
  | logWindowExpansion
  | change (messageId : String)
  | stale (requestId : String)
  deriving DecidableEq, Inhabited

/-- The text of a basis. -/
def Basis.value : Basis → String
  | .initial => "initial"
  | .logWindowExpansion => "log_window_expansion"
  | .change messageId => "change:" ++ messageId
  | .stale requestId => "stale:" ++ requestId

structure Grant where
  semanticKey : String
  generation : Nat
  basis : Basis
  queryKey : String
  deriving DecidableEq, Inhabited

/-- The grant as it is saved. -/
def Grant.json (g : Grant) : Json :=
  .obj [("basis", .str g.basis.value), ("generation", .num g.generation),
    ("query_key", .str g.queryKey), ("semantic_key", .str g.semanticKey)]

structure SavedGrant where
  fingerprint : String
  grant : Grant
  deriving DecidableEq, Inhabited

/-- The answer of a person to a question. -/
structure UserAnswer where
  questionId : String
  version : Nat
  messageId : String
  text : String
  skip : Bool
  changedResourceRefs : List String
  deriving DecidableEq, Inhabited

/-- An answer that was accepted. -/
structure AcceptedAnswer extends UserAnswer where
  acceptedAt : ℤ
  slot : String
  evidenceRevision : String
  deriving DecidableEq, Inhabited

/-- The receipt of an answer. -/
structure AnswerReceipt where
  fingerprint : String
  answer : AcceptedAnswer
  deriving DecidableEq, Inhabited

/-- The budget of a run, with what the investigation saves in it. -/
structure Sampling where
  budget : RunBudget
  /-- `sampling_grants`, by the requests they were made for. -/
  grants : List (String × SavedGrant)
  /-- `investigation_answers`, by their questions. -/
  answers : List (String × AnswerReceipt)
  /-- What each grant was asked for, and when. Nothing reads this but the statements below. -/
  asked : List (String × SampledRequest × ℤ)
  deriving DecidableEq, Inhabited

/-- The record that a run starts with. -/
def Sampling.initial (policy : BudgetPolicy) : Sampling := ⟨.initial policy, [], [], []⟩

/-! ### The reads of a key -/

/-- The calls of the tools, in order. -/
def RunBudget.toolCalls (b : RunBudget) : List Call :=
  (b.calls.map Prod.snd).filter fun c => c.kind = "tool"

/-- The reads of a semantic key, in order. -/
def RunBudget.reads (b : RunBudget) (semanticKey : String) : List Call :=
  b.toolCalls.filter fun c => c.metadata.hasText "semantic_key" semanticKey

/-- `call["metadata"].get("sample_generation", 0)`. -/
def Call.generation (c : Call) : Nat := (c.metadata.get "sample_generation").toInt.toNat

/-- The lines that a read was made with. -/
def Call.tailLines (c : Call) : Option Nat :=
  match (c.metadata.get "request").get "tail_lines" with
  | .num n => some n.toNat
  | _ => none

/-- The result of a call, if it has one that says something. -/
def Call.result (c : Call) : Option Json := (c.settled.bind (·.result)).filter (·.truthy)

/-- The call was answered, without an error and with a known coverage. -/
def Call.sampled (c : Call) : Bool :=
  c.result.any fun result => !result.flag "error_code" && !result.hasText "coverage" "unknown"

/-- When a sample was collected. -/
def collectedAt (env : SamplingEnv) (c : Call) : Option ℤ :=
  c.result.bind fun result => match result.get "collected_at" with
    | .str text => env.instant text
    | _ => none

/-- `max(prior, key=…)`: the first of the reads with the largest generation. -/
def latest : List Call → Option Call
  | [] => none
  | c :: rest => match latest rest with
    | some d => if c.generation < d.generation then some d else some c
    | none => some c

/-- `can_expand_logs`. -/
def canExpandLogs (prior : List Call) (request : SampledRequest) : Bool :=
  request.tool = .podLogs && !prior.isEmpty &&
    (request.tailLines.any fun lines => prior.all fun c => c.tailLines.any (· < lines)) &&
    prior.all Call.sampled &&
    !prior.any (·.metadata.hasText "sampling_basis" Basis.logWindowExpansion.value)

/-! ### Operations -/

/-- The answers that confirm a change of the resource of a request since a time. -/
def confirmations (receipts : List (String × AnswerReceipt)) (request : SampledRequest)
    (answers : List AcceptedAnswer) (collected : ℤ) : List AcceptedAnswer :=
  answers.filter fun a => a.slot = "changes" && !a.skip &&
    request.resourceRef ∈ a.changedResourceRefs && collected < a.acceptedAt &&
    (receipts.lookup a.questionId).any (·.answer = a)

/-- The basis on which a sample that was collected is read again. -/
def resampleBasis (s : Sampling) (request : SampledRequest) (reason : Option String)
    (answers : List AcceptedAnswer) (now collected : ℤ) (last : Call) (expansion : Bool) :
    Except Raised Basis :=
  if expansion then pure .logWindowExpansion
  else if reason = some "user_change" then do
    let answer ← rowOr (confirmations s.answers request answers collected).getLast?
      (valueError "NO_CONFIRMED_CHANGE_FOR_QUERY")
    pure (.change answer.messageId)
  else if reason = some "stale" then do
    raiseIf (now - collected < request.tool.freshnessSeconds * 1000000)
      (valueError "SAMPLE_STILL_FRESH")
    let requestId ← rowOr last.requestId ⟨"KeyError", none, none⟩
    pure (.stale requestId)
  else throw (valueError "RESAMPLE_REASON_REQUIRED")

/-- The generation and the basis of a read after the last one. -/
def resample (env : SamplingEnv) (s : Sampling) (semanticKey : String) (request : SampledRequest)
    (reason : Option String) (answers : List AcceptedAnswer) (now : ℤ) (last : Call) :
    Except Raised (Nat × Basis) := do
  raiseIf (last.result = none) ⟨"IncompleteRequest", none, some "REQUEST_OUTCOME_UNKNOWN"⟩
  raiseIf (last.sampled = false) (valueError "FAILED_SAMPLE_REQUIRES_NEW_RUN")
  raiseIf (request.previous = true ∧
      (reason = none && canExpandLogs (s.budget.reads semanticKey) request) = false)
    (valueError "HISTORICAL_LOG_RESAMPLE_NOT_ALLOWED")
  let collected ← rowOr (collectedAt env last) (valueError "Invalid isoformat string")
  let basis ← resampleBasis s request reason answers now collected last
    (reason = none && canExpandLogs (s.budget.reads semanticKey) request)
  raiseIf (s.grants.any fun g => g.2.grant.semanticKey = semanticKey && g.2.grant.basis = basis)
    (valueError "RESAMPLE_BASIS_ALREADY_USED")
  pure (last.generation + 1, basis)

/-- The generation and the basis of a request. -/
def nextSample (env : SamplingEnv) (s : Sampling) (semanticKey : String) (request : SampledRequest)
    (reason : Option String) (answers : List AcceptedAnswer) (now : ℤ) :
    Except Raised (Nat × Basis) :=
  match latest (s.budget.reads semanticKey) with
  | some last => resample env s semanticKey request reason answers now last
  | none => do
    raiseIf (reason.isSome = true) (valueError "RESAMPLE_REQUIRES_PRIOR_SAMPLE")
    pure (0, .initial)

/-- The query key of a generation. -/
def sampleKey (env : SamplingEnv) (semanticKey : String) (generation : Nat) : String :=
  if generation = 0 then semanticKey else env.sampleDigest semanticKey generation

/-- `authorize_sample`, at a time. -/
def authorizeSample (env : SamplingEnv) (request : SampledRequest) (requestId : String)
    (reason : Option String) (answers : List AcceptedAnswer) (now : ℤ) (s : Sampling) :
    Except Raised (Grant × Sampling) := do
  let semanticKey ← queryKey env request
  let fingerprint := env.grantFingerprint request reason (answers.map (·.messageId))
  match s.grants.lookup requestId with
  | some saved =>
    raiseIf (saved.fingerprint ≠ fingerprint) (valueError "SAMPLING_INPUT_CHANGED")
    pure (saved.grant, s)
  | none =>
    let sample ← nextSample env s semanticKey request reason answers now
    let grant : Grant := ⟨semanticKey, sample.1, sample.2, sampleKey env semanticKey sample.1⟩
    pure (grant, { s with
      grants := s.grants ++ [(requestId, ⟨fingerprint, grant⟩)]
      asked := s.asked ++ [(requestId, request, now)] })

/-- The metadata of a call. -/
def callMetadata (request : SampledRequest) (evidenceHash : String) (grant : Grant) : Json :=
  .obj [("request", .obj [("tool", .str request.tool.value),
      ("resource_ref", .str request.resourceRef), ("previous", .bool request.previous),
      ("tail_lines", request.tailLines.elim .null fun n => .num n)]),
    ("evidence_hash", .str evidenceHash), ("semantic_key", .str grant.semanticKey),
    ("sample_generation", .num grant.generation), ("sampling_basis", .str grant.basis.value)]

/-- `call`, as far as its reservation: the grant must be the saved one, for what is asked. -/
def toolReservation (env : SamplingEnv) (request : SampledRequest) (requestId : String)
    (sampling : Grant) (evidenceHash : String) (keepTokens : ℤ) (keepSeconds : ℚ) (s : Sampling) :
    Except Raised Reservation := do
  let semanticKey ← queryKey env request
  let saved ← rowOr (s.grants.lookup requestId) (valueError "SAMPLING_GRANT_INVALID")
  raiseIf (saved.grant ≠ sampling ∨ saved.grant.semanticKey ≠ semanticKey)
    (valueError "SAMPLING_GRANT_INVALID")
  pure {
    kind := "tool"
    seconds := 15
    extra := true
    tokens := 0
    key := some sampling.queryKey
    metadata := callMetadata request.executed evidenceHash sampling
    requestId := some requestId
    fingerprint := some (env.callFingerprint request.executed sampling.json)
    decisionKey := none
    keepTokens := keepTokens
    keepSeconds := keepSeconds }

/-- A question of the investigation, as far as its answer is checked against it. -/
structure SlotQuestion where
  questionId : String
  version : Nat
  runId : String
  slot : String
  evidenceRevision : String
  /-- The references of `change_candidates`. -/
  changeCandidates : List String
  deriving DecidableEq, Inhabited

/-- `Answer.model_validate`. -/
def UserAnswer.valid (a : UserAnswer) : Bool :=
  1 ≤ a.version && a.version ≤ 2 && 1 ≤ a.messageId.length && a.messageId.length ≤ 100 &&
    a.text.length ≤ 2000 && a.changedResourceRefs.length ≤ 20 && a.changedResourceRefs.Nodup &&
    if a.skip then a.text.toList.all isSpace && a.changedResourceRefs.isEmpty
    else !a.text.toList.all isSpace

/-- `answer.model_dump()`. -/
def UserAnswer.json (a : UserAnswer) : Json :=
  .obj [("question_id", .str a.questionId), ("version", .num a.version),
    ("message_id", .str a.messageId), ("text", .str a.text), ("skip", .bool a.skip),
    ("changed_resource_refs", .arr (a.changedResourceRefs.map .str))]

/-- `accept_answer`, at a time. -/
def acceptAnswer (env : SamplingEnv) (question : SlotQuestion) (answer : UserAnswer) (now : ℤ)
    (s : Sampling) : Except Raised (AcceptedAnswer × Sampling) := do
  raiseIf (question.runId ≠ env.runId) (valueError "QUESTION_RUN_MISMATCH")
  raiseIf (answer.valid = false) ⟨"ValidationError", none, none⟩
  raiseIf (answer.questionId ≠ question.questionId ∨ answer.version ≠ question.version)
    (valueError "STALE_QUESTION_ANSWER")
  raiseIf ((answer.changedResourceRefs.all (· ∈ question.changeCandidates)) = false)
    (valueError "ANSWER_RESOURCE_NOT_ALLOWED")
  match s.answers.lookup answer.questionId with
  | some old =>
    raiseIf (old.fingerprint ≠ env.answerFingerprint answer.json)
      (valueError "QUESTION_ALREADY_ANSWERED")
    pure (old.answer, s)
  | none =>
    raiseIf ((s.answers.any fun r => r.2.answer.messageId = answer.messageId) = true)
      (valueError "ANSWER_MESSAGE_ALREADY_USED")
    let saved : AcceptedAnswer := ⟨answer, now, question.slot, question.evidenceRevision⟩
    pure (saved, { s with
      answers := s.answers ++ [(answer.questionId, ⟨env.answerFingerprint answer.json, saved⟩)] })

/-! ### Runs -/

/-- What happens in the investigation of a run, in any order: a worker may crash after each of
these, and do any of them again. -/
inductive SamplingEvent
  | authorize (request : SampledRequest) (requestId : String) (reason : Option String)
      (answers : List AcceptedAnswer) (now : ℤ)
  | call (request : SampledRequest) (requestId : String) (sampling : Grant)
      (evidenceHash : String) (keepTokens : ℤ) (keepSeconds : ℚ) (ticket : String)
  | accept (question : SlotQuestion) (answer : UserAnswer) (now : ℤ)
  /-- Any operation on the budget but the reservation of a call of a tool. -/
  | other (e : BudgetEvent)
  deriving DecidableEq

/-- Whether an operation reserves a call of a tool. -/
def BudgetEvent.isTool : BudgetEvent → Bool
  | .reserve r _ => r.kind = "tool"
  | _ => false

/-- What an event does to the investigation of a run. What raises changes nothing, but for what
the budget notes. A call carries a request identifier. -/
def Sampling.next (env : SamplingEnv) (s : Sampling) : SamplingEvent → Option Sampling
  | .authorize request requestId reason answers now =>
    some ((authorizeSample env request requestId reason answers now s).toOption.elim s Prod.snd)
  | .call request requestId sampling evidenceHash keepTokens keepSeconds ticket =>
    if requestId = "" then none
    else match toolReservation env request requestId sampling evidenceHash keepTokens keepSeconds s with
      | .ok r => (s.budget.next (.reserve r ticket)).map fun b => { s with budget := b }
      | .error _ => some s
  | .accept question answer now =>
    some ((acceptAnswer env question answer now s).toOption.elim s Prod.snd)
  | .other e => if e.isTool then none else (s.budget.next e).map fun b => { s with budget := b }

/-! ### Justified reads -/

/-- What a repeated read rests on: `asked` is what its grant was asked for, and when, and
`earlier` are the reads of its key before it. -/
def Holds (env : SamplingEnv) (s : Sampling) (earlier : List Call)
    (asked : SampledRequest × ℤ) : Basis → Prop
  | .initial => False
  -- The lines that are asked for, and not those that are read.
  | .logWindowExpansion => ∃ lines ∈ asked.1.tailLines, ∀ c ∈ earlier, ∃ n ∈ c.tailLines, n < lines
  | .change messageId => ∃ previous ∈ earlier.getLast?, ∃ collected ∈ collectedAt env previous,
      ∃ receipt ∈ s.answers, receipt.2.answer.messageId = messageId ∧
        receipt.2.answer.slot = "changes" ∧ receipt.2.answer.skip = false ∧
        asked.1.resourceRef ∈ receipt.2.answer.changedResourceRefs ∧
        collected < receipt.2.answer.acceptedAt
  | .stale requestId => ∃ previous ∈ earlier.getLast?, ∃ collected ∈ collectedAt env previous,
      previous.requestId = some requestId ∧
        asked.1.tool.freshnessSeconds * 1000000 ≤ asked.2 - collected

section Metadata

variable {request : SampledRequest} {hash : String} {grant : Grant} {key : String}

theorem hasText_callMetadata :
    (callMetadata request hash grant).hasText "semantic_key" key = true ↔
      grant.semanticKey = key := by
  simp [callMetadata, Json.hasText, Json.get?, Json.lookup_cons_ite]

theorem generation_of_metadata {c : Call} (h : c.metadata = callMetadata request hash grant) :
    c.generation = grant.generation := by
  rw [Call.generation, h]
  simp [callMetadata, Json.get, Json.get?, Json.lookup_cons_ite, Json.toInt]

end Metadata

/-! ### What an operation does to the calls -/

/-- A call is settled once, and does not change otherwise. -/
def Call.Advances (c d : Call) : Prop :=
  d = c ∨ (c.settled = none ∧ ∃ settled, d = { c with settled := some settled })

section Calls

variable {b b' : RunBudget} {c d : Call} {xs ys : List Call}

theorem Call.Advances.refl (c : Call) : c.Advances c := Or.inl rfl

theorem Call.Advances.metadata (h : c.Advances d) : d.metadata = c.metadata := by
  rcases h with rfl | ⟨-, settled, rfl⟩ <;> rfl

theorem Call.Advances.requestId (h : c.Advances d) : d.requestId = c.requestId := by
  rcases h with rfl | ⟨-, settled, rfl⟩ <;> rfl

theorem Call.Advances.kind (h : c.Advances d) : d.kind = c.kind := by
  rcases h with rfl | ⟨-, settled, rfl⟩ <;> rfl

theorem Call.Advances.generation (h : c.Advances d) : d.generation = c.generation := by
  rw [Call.generation, h.metadata, Call.generation]

/-- **A sample that was collected stays as it is.** -/
theorem Call.Advances.eq_of_sampled (h : c.Advances d) (hsampled : c.sampled = true) : d = c := by
  rcases h with rfl | ⟨hnone, -⟩
  · rfl
  · simp [Call.sampled, Call.result, hnone] at hsampled

theorem advances_refl : ∀ xs : List Call, xs.Forall₂ Call.Advances xs
  | [] => .nil
  | c :: xs => .cons (.refl c) (advances_refl xs)

theorem eq_of_advances (h : xs.Forall₂ Call.Advances ys) (hsampled : ∀ c ∈ xs, c.sampled = true) :
    ys = xs := by
  induction h with
  | nil => rfl
  | cons hcd _ ih =>
    rw [hcd.eq_of_sampled (hsampled _ List.mem_cons_self),
      ih fun c hc => hsampled c (List.mem_cons_of_mem _ hc)]

/-- The calls that are selected by what does not change. -/
theorem advances_filter {p : Call → Bool} (hp : ∀ c d : Call, c.Advances d → p d = p c)
    (h : xs.Forall₂ Call.Advances ys) : (xs.filter p).Forall₂ Call.Advances (ys.filter p) := by
  induction h with
  | nil => exact .nil
  | @cons c d _ _ hcd _ ih =>
    rw [List.filter_cons, List.filter_cons, hp c d hcd]
    split
    · exact .cons hcd ih
    · exact ih

theorem toolCalls_granted (r : Reservation) (ticket : String) (b : RunBudget) :
    (r.granted ticket b).toolCalls = b.toolCalls ++ if r.kind = "tool" then [r.call] else [] := by
  show ((b.calls ++ [(ticket, r.call)]).map Prod.snd).filter _ = _
  rw [List.map_append, List.filter_append]
  congr 1
  by_cases h : r.kind = "tool" <;> simp [h, Reservation.call]

/-- A settlement changes one call, and only if it was not settled. -/
theorem toolCalls_charged {policy : BudgetPolicy} (h : Accounts policy b) {s : Settlement}
    {call : Call} (hcall : b.calls.lookup s.ticket = some call) (hopen : call.settled = none) :
    b.toolCalls.Forall₂ Call.Advances (s.charged call b).toolCalls := by
  refine advances_filter (fun c d hcd => by rw [hcd.kind]) ?_
  rw [calls_charged, update, List.map_map, List.forall₂_map_left_iff, List.forall₂_map_right_iff,
    List.forall₂_same]
  rintro ⟨ticket, c⟩ hmem
  rw [Function.comp_apply]
  split
  · rename_i hticket
    have hlookup := lookup_of_mem h.tickets hmem
    rw [show ticket = s.ticket from hticket] at hlookup
    have hsame : call = c := Option.some.inj (hcall.symm.trans hlookup)
    exact Or.inr ⟨hsame ▸ hopen, _, rfl⟩
  · exact Or.inl rfl

/-- **What an operation does to the calls of the tools**: it settles some of them, or reserves a
call. -/
theorem toolCalls_cases {policy : BudgetPolicy} (h : Accounts policy b) {e : BudgetEvent}
    (he : b.next e = some b') :
    (b.toolCalls.Forall₂ Call.Advances b'.toolCalls ∧ b'.tools = b.tools) ∨
      ∃ r ticket, e = .reserve r ticket ∧ r.kind = "tool" ∧ r.refusal b = none ∧
        b' = r.granted ticket b := by
  cases e with
  | reserve r ticket =>
    simp only [RunBudget.next, Option.ite_none_right_eq_some, Option.some.injEq] at he
    obtain ⟨-, rfl⟩ := he
    rcases reserve_cases r ticket b with hsame | ⟨reason, hrefused⟩ | ⟨-, hr, hgranted⟩
    · rw [hsame]
      exact Or.inl ⟨advances_refl _, rfl⟩
    · rw [hrefused]
      exact Or.inl ⟨advances_refl _, rfl⟩
    · rw [hgranted]
      by_cases hkind : r.kind = "tool"
      · exact Or.inr ⟨r, ticket, rfl, hkind, hr, rfl⟩
      · refine Or.inl ⟨?_, if_neg hkind⟩
        rw [toolCalls_granted, if_neg hkind, List.append_nil]
        exact advances_refl _
  | settle s =>
    obtain rfl := Option.some.inj he
    rcases settle_cases s b with hsame | ⟨call, hcall, hopen, hcharged⟩
    · rw [hsame]
      exact Or.inl ⟨advances_refl _, rfl⟩
    · rw [hcharged]
      exact Or.inl ⟨toolCalls_charged h hcall hopen, rfl⟩
  | decision key =>
    obtain rfl := Option.some.inj he
    unfold decision
    split
    · exact Or.inl ⟨advances_refl _, rfl⟩
    · split <;> exact Or.inl ⟨advances_refl _, rfl⟩
  | activity ticket =>
    simp only [RunBudget.next, Option.ite_none_right_eq_some, Option.some.injEq] at he
    obtain ⟨-, rfl⟩ := he
    refine Or.inl ⟨?_, rfl⟩
    have hcalls : (IncidentAgent.activity ticket b).toolCalls = b.toolCalls := by
      show ((b.calls ++ [(ticket, overhead)]).map Prod.snd).filter _ = _
      rw [List.map_append, List.filter_append]
      simp [overhead, RunBudget.toolCalls]
    rw [hcalls]
    exact advances_refl _
  | deny reason =>
    obtain rfl := Option.some.inj he
    exact Or.inl ⟨advances_refl _, rfl⟩
  | beforeWrite required =>
    obtain rfl := Option.some.inj he
    unfold beforeWrite
    split <;> exact Or.inl ⟨advances_refl _, rfl⟩

theorem mem_reads {key : String} : c ∈ b.reads key ↔
    c ∈ b.toolCalls ∧ c.metadata.hasText "semantic_key" key = true :=
  List.mem_filter

theorem reads_advances {key : String} (h : b.toolCalls.Forall₂ Call.Advances b'.toolCalls) :
    (b.reads key).Forall₂ Call.Advances (b'.reads key) :=
  advances_filter (fun c d hcd => by rw [hcd.metadata]) h

end Calls

/-! ### What is granted -/

section Grants

variable {env : SamplingEnv} {s s' : Sampling} {request : SampledRequest} {requestId : String}
  {reason : Option String} {answers : List AcceptedAnswer} {now collected : ℤ} {last : Call}
  {semanticKey : String} {grant : Grant}

theorem latest_eq_none {calls : List Call} (h : latest calls = none) : calls = [] := by
  cases calls with
  | nil => rfl
  | cons c rest =>
    rw [latest] at h
    cases hrest : latest rest with
    | none => simp [hrest] at h
    | some d =>
      rw [hrest] at h
      simp only at h
      split at h <;> cases h

theorem latest_spec {calls : List Call} {d : Call} (h : latest calls = some d) :
    d ∈ calls ∧ ∀ c ∈ calls, c.generation ≤ d.generation := by
  induction calls generalizing d with
  | nil => cases h
  | cons c rest ih =>
    rw [latest] at h
    cases hrest : latest rest with
    | none =>
      simp only [hrest, Option.some.injEq] at h
      rw [latest_eq_none hrest, h]
      simp
    | some e =>
      obtain ⟨hmem, hle⟩ := ih hrest
      simp only [hrest] at h
      split at h <;> rename_i hlt <;> obtain rfl := Option.some.inj h
      · refine ⟨List.mem_cons_of_mem _ hmem, ?_⟩
        rintro x (_ | ⟨_, hx⟩)
        · omega
        · exact hle x hx
      · refine ⟨List.mem_cons_self, ?_⟩
        rintro x (_ | ⟨_, hx⟩)
        · exact le_rfl
        · have := hle x hx
          omega

/-- **When the generations are counted, the latest read is the last.** -/
theorem getLast?_of_latest {calls : List Call} {d : Call}
    (hcounted : calls.map Call.generation = List.range calls.length)
    (h : latest calls = some d) : calls.getLast? = some d ∧ d.generation + 1 = calls.length := by
  obtain ⟨hmem, hle⟩ := latest_spec h
  obtain ⟨before, after, rfl⟩ := List.append_of_mem hmem
  have hgen : d.generation = before.length := by
    have hget := congrArg (fun l => l[before.length]?) hcounted
    simpa using hget
  cases after using List.reverseRecOn with
  | nil => simp [hgen]
  | append_singleton rest e =>
    exfalso
    have he := hle e (by simp)
    have hget := congrArg (fun l => l[before.length + (rest.length + 1)]?) hcounted
    have hgene : e.generation = before.length + (rest.length + 1) := by
      simpa [List.getElem?_append, List.getElem?_cons] using hget
    omega

/-- What an authorization does: it gives the saved grant again, or makes one. -/
theorem authorizeSample_eq_ok
    (h : authorizeSample env request requestId reason answers now s = .ok (grant, s')) :
    (∃ saved, s.grants.lookup requestId = some saved ∧ grant = saved.grant ∧ s' = s) ∨
      ∃ sample fingerprint, s.grants.lookup requestId = none ∧
        queryKey env request = .ok grant.semanticKey ∧
        nextSample env s grant.semanticKey request reason answers now = .ok sample ∧
        grant = ⟨grant.semanticKey, sample.1, sample.2,
          sampleKey env grant.semanticKey sample.1⟩ ∧
        s' = { s with
          grants := s.grants ++ [(requestId, ⟨fingerprint, grant⟩)]
          asked := s.asked ++ [(requestId, request, now)] } := by
  simp only [authorizeSample, bind_eq_ok] at h
  obtain ⟨semanticKey, hkey, h⟩ := h
  cases hsaved : s.grants.lookup requestId with
  | some saved =>
    simp only [hsaved, bind_eq_ok, raiseIf_eq_ok, pure_eq_ok, Prod.mk.injEq] at h
    obtain ⟨-, -, rfl, rfl⟩ := h
    exact Or.inl ⟨saved, rfl, rfl, rfl⟩
  | none =>
    simp only [hsaved, bind_eq_ok, pure_eq_ok, Prod.mk.injEq] at h
    obtain ⟨sample, hsample, rfl, rfl⟩ := h
    exact Or.inr ⟨sample, _, rfl, hkey, hsample, rfl, rfl⟩

/-- What is read again rests on what was read. -/
theorem holds_of_resampleBasis {expansion : Bool} {basis : Basis} {reads : List Call}
    (hexpansion : expansion = true → canExpandLogs reads request = true)
    (hlast : reads.getLast? = some last) (hcollected : collectedAt env last = some collected)
    (h : resampleBasis s request reason answers now collected last expansion = .ok basis) :
    Holds env s reads (request, now) basis ∧
      (expansion = true → basis = .logWindowExpansion) := by
  unfold resampleBasis at h
  split at h
  · rename_i hexp
    obtain rfl := pure_eq_ok.1 h
    refine ⟨?_, fun _ => rfl⟩
    have hcan := hexpansion hexp
    simp only [canExpandLogs, Bool.and_eq_true, Option.any_eq_true, List.all_eq_true,
      decide_eq_true_eq] at hcan
    obtain ⟨⟨⟨-, lines, hlines, hall⟩, -⟩, -⟩ := hcan
    exact ⟨lines, hlines, hall⟩
  · rename_i hexp
    refine ⟨?_, fun h => absurd h hexp⟩
    split at h
    · simp only [bind_eq_ok, rowOr_eq_ok, pure_eq_ok] at h
      obtain ⟨answer, hanswer, rfl⟩ := h
      have hmem := List.mem_of_getLast? hanswer
      simp only [confirmations, List.mem_filter, Bool.and_eq_true, decide_eq_true_eq,
        Option.any_eq_true, Bool.not_eq_true'] at hmem
      obtain ⟨-, ⟨⟨⟨hslot, hskip⟩, hnamed⟩, hafter⟩, receipt, hreceipt, rfl⟩ := hmem
      exact ⟨last, hlast, collected, hcollected, _, mem_of_lookup hreceipt, rfl, hslot, hskip,
        hnamed, hafter⟩
    · split at h
      · simp only [bind_eq_ok, raiseIf_eq_ok, rowOr_eq_ok, pure_eq_ok, not_lt] at h
        obtain ⟨-, hage, id, hid, rfl⟩ := h
        exact ⟨last, hlast, collected, hcollected, hid, hage⟩
      · cases h

/-- **What a grant of a later generation says**: the last read was collected, and the grant has a
basis of its own. -/
theorem nextSample_later {sample : ℕ × Basis}
    (hcounted : (s.budget.reads semanticKey).map Call.generation =
      List.range (s.budget.reads semanticKey).length)
    (h : nextSample env s semanticKey request reason answers now = .ok sample) :
    (sample = (0, .initial) ∧ s.budget.reads semanticKey = []) ∨
      (sample.1 = (s.budget.reads semanticKey).length ∧
        (∃ last, (s.budget.reads semanticKey).getLast? = some last ∧ last.sampled = true) ∧
        Holds env s (s.budget.reads semanticKey) (request, now) sample.2 ∧
        (request.previous = true → sample.2 = .logWindowExpansion) ∧
        ∀ g ∈ s.grants, g.2.grant.semanticKey = semanticKey → g.2.grant.basis ≠ sample.2) := by
  unfold nextSample at h
  cases hlast : latest (s.budget.reads semanticKey) with
  | none =>
    simp only [hlast, bind_eq_ok, raiseIf_eq_ok, pure_eq_ok] at h
    obtain ⟨-, -, rfl⟩ := h
    exact Or.inl ⟨rfl, latest_eq_none hlast⟩
  | some last =>
    obtain ⟨hgetLast, hgeneration⟩ := getLast?_of_latest hcounted hlast
    simp only [hlast, resample, bind_eq_ok, raiseIf_eq_ok, rowOr_eq_ok, pure_eq_ok] at h
    obtain ⟨-, -, -, hsampled, -, hprevious, collected, hcollected, basis, hbasis, -, hunused,
      rfl⟩ := h
    obtain ⟨hholds, hexpands⟩ := holds_of_resampleBasis
      (fun he => (Bool.and_eq_true_iff.1 he).2) hgetLast hcollected hbasis
    refine Or.inr ⟨hgeneration, ⟨last, hgetLast, by simpa using hsampled⟩, hholds, fun hp => ?_,
      fun g hg hkey hsame => hunused ?_⟩
    · exact hexpands (by simpa [hp] using hprevious)
    · exact List.any_eq_true.2 ⟨g, hg, by simp [hkey, hsame]⟩

/-- What a reservation of a tool is made with. -/
theorem toolReservation_eq_ok {sampling : Grant} {hash : String} {keepTokens : ℤ}
    {keepSeconds : ℚ} {r : Reservation}
    (h : toolReservation env request requestId sampling hash keepTokens keepSeconds s = .ok r) :
    ∃ saved, s.grants.lookup requestId = some saved ∧ saved.grant = sampling ∧
      queryKey env request = .ok sampling.semanticKey ∧ r.kind = "tool" ∧
      r.key = some sampling.queryKey ∧ r.requestId = some requestId ∧
      r.metadata = callMetadata request.executed hash sampling := by
  simp only [toolReservation, bind_eq_ok, rowOr_eq_ok, raiseIf_eq_ok, pure_eq_ok, not_or,
    not_not] at h
  obtain ⟨semanticKey, hkey, saved, hsaved, -, ⟨rfl, hsame⟩, rfl⟩ := h
  exact ⟨saved, hsaved, rfl, by rw [hkey, hsame], rfl, rfl, rfl, rfl⟩

end Grants

/-! ### The invariant -/

/-- The investigation of a run after a while: what was saved stays, and so do the samples that
were collected. -/
structure Sampling.Later (s s' : Sampling) : Prop where
  grants : ∀ id saved, s.grants.lookup id = some saved → s'.grants.lookup id = some saved
  asked : ∀ id asked, s.asked.lookup id = some asked → s'.asked.lookup id = some asked
  answers : s.answers ⊆ s'.answers
  reads : ∀ key, ∃ now more, (s.budget.reads key).Forall₂ Call.Advances now ∧
    s'.budget.reads key = now ++ more

/-- A grant, for what it was asked. -/
structure Granted (env : SamplingEnv) (s : Sampling) (grant : Grant)
    (asked : SampledRequest × ℤ) : Prop where
  asks : queryKey env asked.1 = .ok grant.semanticKey
  key : grant.queryKey = sampleKey env grant.semanticKey grant.generation
  count : grant.generation ≤ (s.budget.reads grant.semanticKey).length
  sampled : ∀ c ∈ (s.budget.reads grant.semanticKey).take grant.generation, c.sampled = true
  later : 0 < grant.generation →
    Holds env s ((s.budget.reads grant.semanticKey).take grant.generation) asked grant.basis ∧
      (asked.1.previous = true → grant.basis = .logWindowExpansion)

/-- A call was reserved under a query key, with a grant for it. -/
def MadeWith (env : SamplingEnv) (s : Sampling) (key : String) (c : Call) : Prop :=
  ∃ requestId saved request hash, c.requestId = some requestId ∧
    s.grants.lookup requestId = some saved ∧ saved.grant.queryKey = key ∧
    queryKey env request = .ok saved.grant.semanticKey ∧
    c.metadata = callMetadata request.executed hash saved.grant

/-- **The invariant of the samples.** -/
structure Sampling.Sound (env : SamplingEnv) (policy : BudgetPolicy) (s : Sampling) : Prop where
  accounts : Accounts policy s.budget
  ids : s.asked.map Prod.fst = s.grants.map Prod.fst
  granted : ∀ id saved, s.grants.lookup id = some saved →
    ∃ asked, s.asked.lookup id = some asked ∧ Granted env s saved.grant asked
  bases : ∀ g ∈ s.grants, ∀ h ∈ s.grants, g.2.grant.semanticKey = h.2.grant.semanticKey →
    g.2.grant.basis = h.2.grant.basis → g.2.grant.basis ≠ .initial → g = h
  calls : List.Forall₂ (MadeWith env s) s.budget.tools s.budget.toolCalls
  counted : ∀ key, (s.budget.reads key).map Call.generation =
    List.range (s.budget.reads key).length

section Invariant

variable {env : SamplingEnv} {policy : BudgetPolicy} {s s' : Sampling} {b' : RunBudget}
  {grant : Grant} {asked : SampledRequest × ℤ} {key : String} {c d : Call}
  {earlier : List Call} {basis : Basis}

theorem Sampling.Later.refl (s : Sampling) : s.Later s :=
  ⟨fun _ _ h => h, fun _ _ h => h, fun _ h => h,
    fun _ => ⟨_, [], advances_refl _, (List.append_nil _).symm⟩⟩

theorem advances_trans {xs ys zs : List Call} (h : xs.Forall₂ Call.Advances ys)
    (h' : ys.Forall₂ Call.Advances zs) : xs.Forall₂ Call.Advances zs := by
  induction h generalizing zs with
  | nil =>
    cases h'
    exact .nil
  | cons hcd _ ih =>
    obtain _ | ⟨hde, hrest⟩ := h'
    refine .cons ?_ (ih hrest)
    rcases hcd with rfl | ⟨hnone, settled, rfl⟩
    · exact hde
    · rcases hde with rfl | ⟨hsome, -⟩
      · exact Or.inr ⟨hnone, settled, rfl⟩
      · cases hsome

theorem Sampling.Later.trans {s'' : Sampling} (h : s.Later s') (h' : s'.Later s'') :
    s.Later s'' := by
  refine ⟨fun id saved hs => h'.grants id saved (h.grants id saved hs),
    fun id asked hs => h'.asked id asked (h.asked id asked hs),
    fun r hr => h'.answers (h.answers hr), fun key => ?_⟩
  obtain ⟨now, more, hnow, hreads⟩ := h.reads key
  obtain ⟨now', more', hnow', hreads'⟩ := h'.reads key
  rw [hreads] at hnow'
  have hfirst := List.forall₂_take now.length hnow'
  rw [List.take_left] at hfirst
  exact ⟨now'.take now.length, now'.drop now.length ++ more', advances_trans hnow hfirst,
    by rw [hreads', ← List.append_assoc, List.take_append_drop]⟩

/-- The first reads, when they were collected, are the first reads ever after. -/
theorem Sampling.Later.take (h : s.Later s') {n : ℕ} (hn : n ≤ (s.budget.reads key).length)
    (hsampled : ∀ c ∈ (s.budget.reads key).take n, c.sampled = true) :
    (s'.budget.reads key).take n = (s.budget.reads key).take n ∧
      n ≤ (s'.budget.reads key).length := by
  obtain ⟨now, more, hnow, hreads⟩ := h.reads key
  have hlength := hnow.length_eq
  rw [hreads, List.take_append_of_le_length (hlength ▸ hn), List.length_append]
  exact ⟨eq_of_advances (List.forall₂_take n hnow) hsampled, by omega⟩

theorem Holds.mono (h : Holds env s earlier asked basis) (hlater : s.Later s') :
    Holds env s' earlier asked basis := by
  cases basis with
  | initial => exact h
  | logWindowExpansion => exact h
  | stale requestId => exact h
  | change messageId =>
    obtain ⟨previous, hprevious, collected, hcollected, receipt, hreceipt, hrest⟩ := h
    exact ⟨previous, hprevious, collected, hcollected, receipt, hlater.answers hreceipt, hrest⟩

theorem Granted.mono (h : Granted env s grant asked) (hlater : s.Later s') :
    Granted env s' grant asked := by
  obtain ⟨htake, hcount⟩ := hlater.take h.count h.sampled
  refine ⟨h.asks, h.key, hcount, ?_, fun hpos => ?_⟩
  · rw [htake]
    exact h.sampled
  · rw [htake]
    exact ⟨(h.later hpos).1.mono hlater, (h.later hpos).2⟩

theorem MadeWith.mono (h : MadeWith env s key c) (hlater : s.Later s') (hcd : c.Advances d) :
    MadeWith env s' key d := by
  obtain ⟨id, saved, request, hash, hid, hsaved, hkey, hquery, hmetadata⟩ := h
  exact ⟨id, saved, request, hash, hcd.requestId.trans hid, hlater.grants id saved hsaved, hkey,
    hquery, hcd.metadata.trans hmetadata⟩

theorem madeWith_mono {keys : List String} {xs ys : List Call} (hlater : s.Later s')
    (h : List.Forall₂ (MadeWith env s) keys xs) (hxy : xs.Forall₂ Call.Advances ys) :
    List.Forall₂ (MadeWith env s') keys ys := by
  induction h generalizing ys with
  | nil =>
    cases hxy
    exact .nil
  | cons hmade _ ih =>
    obtain _ | ⟨hcd, hrest⟩ := hxy
    exact .cons (hmade.mono hlater hcd) (ih hrest)

/-- Each call of a tool has a query key, and a grant. -/
theorem exists_madeWith {keys : List String} {xs : List Call}
    (h : List.Forall₂ (MadeWith env s) keys xs) (hc : c ∈ xs) :
    ∃ key ∈ keys, MadeWith env s key c := by
  induction h with
  | nil => cases hc
  | cons hmade _ ih =>
    rcases List.mem_cons.1 hc with rfl | hc
    · exact ⟨_, List.mem_cons_self, hmade⟩
    · obtain ⟨key, hkey, hmade⟩ := ih hc
      exact ⟨key, List.mem_cons_of_mem _ hkey, hmade⟩

theorem map_generation (h : earlier.Forall₂ Call.Advances ys) :
    ys.map Call.generation = earlier.map Call.generation := by
  induction h with
  | nil => rfl
  | cons hcd _ ih => rw [List.map_cons, List.map_cons, ih, hcd.generation]

/-- A read of a key, and its grant. -/
theorem Sampling.Sound.grant_of_read (h : s.Sound env policy) (hc : c ∈ s.budget.reads key) :
    ∃ requestId saved asked request hash, c.requestId = some requestId ∧
      s.grants.lookup requestId = some saved ∧ s.asked.lookup requestId = some asked ∧
      queryKey env request = .ok key ∧ c.metadata = callMetadata request.executed hash saved.grant ∧
      saved.grant.semanticKey = key ∧ saved.grant.generation = c.generation ∧
      saved.grant.queryKey ∈ s.budget.tools ∧ Granted env s saved.grant asked := by
  obtain ⟨hcall, hkey⟩ := mem_reads.1 hc
  obtain ⟨k, hk, requestId, saved, request, hash, hid, hsaved, rfl, hquery, hmetadata⟩ :=
    exists_madeWith h.calls hcall
  obtain ⟨asked, hasked, hgranted⟩ := h.granted requestId saved hsaved
  rw [hmetadata, hasText_callMetadata] at hkey
  exact ⟨requestId, saved, asked, request, hash, hid, hsaved, hasked, hkey ▸ hquery, hmetadata, hkey,
    (generation_of_metadata hmetadata).symm, hk, hgranted⟩

theorem Sampling.Sound.generation_eq (h : s.Sound env policy) {read : Call} {later : List Call}
    (hreads : s.budget.reads key = earlier ++ read :: later) : read.generation = earlier.length := by
  have hget := congrArg (fun l => l[earlier.length]?) (h.counted key)
  simpa [hreads] using hget

/-- **What was read before a read was collected.** -/
theorem Sampling.Sound.sampled_before (h : s.Sound env policy) {read : Call} {later : List Call}
    (hreads : s.budget.reads key = earlier ++ read :: later) : ∀ c ∈ earlier, c.sampled = true := by
  obtain ⟨_, saved, _, _, _, -, -, -, -, -, rfl, hgeneration, -, hgranted⟩ :=
    h.grant_of_read (show read ∈ s.budget.reads key by rw [hreads]; simp)
  have hsampled := hgranted.sampled
  rw [hreads, hgeneration, h.generation_eq hreads, List.take_left] at hsampled
  exact hsampled

/-! ### The steps -/

/-- Whatever settles calls keeps the invariant. -/
theorem Sampling.Sound.settled (h : s.Sound env policy) (haccounts : Accounts policy b')
    (hcalls : s.budget.toolCalls.Forall₂ Call.Advances b'.toolCalls)
    (htools : b'.tools = s.budget.tools) :
    s.Later { s with budget := b' } ∧ Sampling.Sound env policy { s with budget := b' } := by
  have hlater : s.Later { s with budget := b' } :=
    ⟨fun _ _ h => h, fun _ _ h => h, fun _ h => h,
      fun _ => ⟨_, [], reads_advances hcalls, (List.append_nil _).symm⟩⟩
  refine ⟨hlater, haccounts, h.ids, fun id saved hsaved => ?_, h.bases, ?_, fun key => ?_⟩
  · obtain ⟨asked, hasked, hgranted⟩ := h.granted id saved hsaved
    exact ⟨asked, hasked, hgranted.mono hlater⟩
  · show List.Forall₂ _ b'.tools b'.toolCalls
    rw [htools]
    exact madeWith_mono hlater h.calls hcalls
  · show (b'.reads key).map _ = List.range (b'.reads key).length
    rw [map_generation (reads_advances hcalls), ← (reads_advances hcalls).length_eq]
    exact h.counted key

/-- **A grant that is new** is one of the next generation, or of the first. -/
theorem Sampling.Sound.authorize (h : s.Sound env policy) {request : SampledRequest}
    {requestId : String} {reason : Option String} {answers : List AcceptedAnswer} {now : ℤ}
    (hok : authorizeSample env request requestId reason answers now s = .ok (grant, s')) :
    s.Later s' ∧ s'.Sound env policy := by
  rcases authorizeSample_eq_ok hok with ⟨-, -, -, hsame⟩ |
    ⟨sample, fingerprint, hnone, hquery, hsample, hgrant, hnew⟩
  · rw [hsame]
    exact ⟨.refl s, h⟩
  have hasked : s.asked.lookup requestId = none := by
    rw [lookup_eq_none_iff, h.ids, ← lookup_eq_none_iff]
    exact hnone
  have hgrants : s'.grants = s.grants ++ [(requestId, ⟨fingerprint, grant⟩)] := by rw [hnew]
  have hbudget : s'.budget = s.budget := by rw [hnew]
  have haskeds : s'.asked = s.asked ++ [(requestId, request, now)] := by rw [hnew]
  have hlater : s.Later s' := by
    refine ⟨fun id saved hsaved => ?_, fun id asked hid => ?_, ?_, fun key => ?_⟩
    · rw [hgrants, lookup_append, hsaved, Option.some_or]
    · rw [haskeds, lookup_append, hid, Option.some_or]
    · rw [hnew]
      exact List.Subset.refl _
    · rw [hbudget]
      exact (Sampling.Later.refl s).reads key
  have hmade : Granted env s grant (request, now) ∧ (grant.basis ≠ .initial →
      ∀ g ∈ s.grants, g.2.grant.semanticKey = grant.semanticKey → g.2.grant.basis ≠ grant.basis) := by
    have hgeneration : grant.generation = sample.1 := by rw [hgrant]
    have hbasis : grant.basis = sample.2 := by rw [hgrant]
    have hkey : grant.queryKey = sampleKey env grant.semanticKey grant.generation := by
      rw [hgeneration]
      exact congrArg Grant.queryKey hgrant
    rcases nextSample_later (h.counted _) hsample with
      ⟨hfirst, -⟩ | ⟨hlength, ⟨last, hlast, hsampled⟩, hholds, hprevious, hunused⟩
    · rw [hfirst] at hgeneration hbasis
      refine ⟨⟨hquery, hkey, by omega, fun c hc => ?_, fun hpos => by omega⟩, fun hne => ?_⟩
      · rw [hgeneration] at hc
        cases hc
      · exact absurd hbasis hne
    · have htake : (s.budget.reads grant.semanticKey).take grant.generation =
          s.budget.reads grant.semanticKey := List.take_of_length_le (by omega)
      refine ⟨⟨hquery, hkey, by omega, ?_, fun _ => ?_⟩, fun _ => ?_⟩
      · rw [htake]
        obtain ⟨earlier, hreads⟩ := List.getLast?_eq_some_iff.1 hlast
        rw [hreads]
        intro c hc
        rcases List.mem_append.1 hc with hc | hc
        · exact h.sampled_before hreads c hc
        · rw [List.mem_singleton.1 hc]
          exact hsampled
      · rw [htake, hbasis]
        exact ⟨hholds, hprevious⟩
      · rw [hbasis]
        exact hunused
  obtain ⟨hgranted, hunused⟩ := hmade
  refine ⟨hlater, ?_⟩
  constructor
  · rw [hbudget]
    exact h.accounts
  · rw [haskeds, hgrants, List.map_append, List.map_append, h.ids]
    rfl
  · intro id saved hsaved
    rw [hgrants, lookup_append] at hsaved
    rcases Option.or_eq_some_iff.1 hsaved with hold | ⟨-, hlookup⟩
    · obtain ⟨asked, hid, hold⟩ := h.granted id saved hold
      exact ⟨asked, hlater.asked id asked hid, hold.mono hlater⟩
    · rw [lookup_cons] at hlookup
      by_cases hid : id = requestId
      · rw [if_pos hid, Option.some.injEq] at hlookup
        subst hlookup hid
        refine ⟨(request, now), ?_, hgranted.mono hlater⟩
        rw [haskeds, lookup_append, hasked, lookup_cons, if_pos rfl]
        rfl
      · rw [if_neg hid] at hlookup
        cases hlookup
  · intro g hg g' hg' hkey hbasis hne
    rw [hgrants, List.mem_append, List.mem_singleton] at hg hg'
    rcases hg with hg | rfl <;> rcases hg' with hg' | rfl
    · exact h.bases g hg g' hg' hkey hbasis hne
    · exact absurd hbasis (hunused (hbasis ▸ hne) g hg hkey)
    · exact absurd hbasis.symm (hunused hne g' hg' hkey.symm)
    · rfl
  · rw [hbudget]
    exact madeWith_mono hlater h.calls (advances_refl _)
  · rw [hbudget]
    exact h.counted

/-- **A read that is reserved** is the next of its key. -/
theorem Sampling.Sound.reserved (h : s.Sound env policy) {request : SampledRequest}
    {requestId hash ticket : String} {sampling : Grant} {keepTokens : ℤ} {keepSeconds : ℚ}
    {r : Reservation} (hid : requestId ≠ "")
    (hr : toolReservation env request requestId sampling hash keepTokens keepSeconds s = .ok r)
    (haccounts : Accounts policy (r.granted ticket s.budget)) (hrefusal : r.refusal s.budget = none) :
    s.Later { s with budget := r.granted ticket s.budget } ∧
      Sampling.Sound env policy { s with budget := r.granted ticket s.budget } := by
  obtain ⟨saved, hsaved, rfl, hquery, hkind, hkey, hrequestId, hmetadata⟩ := toolReservation_eq_ok hr
  obtain ⟨asked, -, hgranted⟩ := h.granted requestId saved hsaved
  have hcalls : (r.granted ticket s.budget).toolCalls = s.budget.toolCalls ++ [r.call] := by
    rw [toolCalls_granted, if_pos hkind]
  have htools : (r.granted ticket s.budget).tools = s.budget.tools ++ [saved.grant.queryKey] := by
    show (if r.kind = "tool" then _ else _) = _
    rw [if_pos hkind, hkey]
    rfl
  have hcall : r.call.metadata = callMetadata request.executed hash saved.grant := hmetadata
  have hreads : ∀ key, (r.granted ticket s.budget).reads key = s.budget.reads key ++
      if saved.grant.semanticKey = key then [r.call] else [] := by
    intro key
    rw [RunBudget.reads, hcalls, List.filter_append]
    congr 1
    rw [List.filter_singleton, hcall]
    by_cases hsame : saved.grant.semanticKey = key
    · rw [if_pos hsame, hasText_callMetadata.2 hsame]
      rfl
    · rw [if_neg hsame, Bool.eq_false_of_not_eq_true (hasText_callMetadata.not.2 hsame)]
      rfl
  have hlater : s.Later { s with budget := r.granted ticket s.budget } :=
    ⟨fun _ _ h => h, fun _ _ h => h, fun _ h => h,
      fun key => ⟨_, _, advances_refl _, hreads key⟩⟩
  refine ⟨hlater, haccounts, h.ids, fun id saved hsaved => ?_, h.bases, ?_, fun key => ?_⟩
  · obtain ⟨asked, hasked, hgranted⟩ := h.granted id saved hsaved
    exact ⟨asked, hasked, hgranted.mono hlater⟩
  · show List.Forall₂ _ (r.granted ticket s.budget).tools (r.granted ticket s.budget).toolCalls
    rw [htools, hcalls]
    refine List.rel_append (madeWith_mono hlater h.calls (advances_refl _)) (.cons ?_ .nil)
    refine ⟨requestId, saved, request, hash, ?_, hsaved, rfl, hquery, hcall⟩
    show r.requestId.filter (· ≠ "") = _
    simp [hrequestId, hid]
  · show ((r.granted ticket s.budget).reads key).map _ = List.range (List.length _)
    rw [hreads key]
    split
    · rename_i hsame
      subst hsame
      rw [List.map_append, List.length_append, h.counted, List.length_singleton, List.range_succ,
        List.map_singleton, generation_of_metadata hcall]
      -- A read of the generation of the grant has its query key, which is refused.
      have hlt : ¬ saved.grant.generation < (s.budget.reads saved.grant.semanticKey).length := by
        intro hlt
        obtain ⟨_, other, _, _, _, -, -, -, -, -, hother, hgeneration, htool, hmade⟩ :=
          h.grant_of_read (List.getElem_mem hlt)
        refine (within_of_refusal hrefusal).2.2 hkind saved.grant.queryKey hkey ?_
        have hget := congrArg (fun l => l[saved.grant.generation]?)
          (h.counted saved.grant.semanticKey)
        simp only [List.getElem?_map, List.getElem?_eq_getElem hlt, Option.map_some,
          List.getElem?_range hlt, Option.some.injEq] at hget
        rw [hmade.key, hother, hgeneration, hget, ← hgranted.key] at htool
        exact htool
      have hcount := hgranted.count
      rw [show saved.grant.generation = (s.budget.reads saved.grant.semanticKey).length by omega]
    · rw [List.append_nil]
      exact h.counted key

theorem Sampling.Sound.accept (h : s.Sound env policy) {question : SlotQuestion}
    {answer : UserAnswer} {now : ℤ} {accepted : AcceptedAnswer}
    (hok : acceptAnswer env question answer now s = .ok (accepted, s')) :
    s.Later s' ∧ s'.Sound env policy := by
  have hcases : s' = s ∨ ∃ receipt, s' = { s with answers := s.answers ++ [receipt] } := by
    simp only [acceptAnswer, bind_eq_ok, raiseIf_eq_ok] at hok
    obtain ⟨-, -, -, -, -, -, -, -, hok⟩ := hok
    cases hold : s.answers.lookup answer.questionId with
    | some old =>
      simp only [hold, bind_eq_ok, raiseIf_eq_ok, pure_eq_ok, Prod.mk.injEq] at hok
      obtain ⟨-, -, -, rfl⟩ := hok
      exact Or.inl rfl
    | none =>
      simp only [hold, bind_eq_ok, raiseIf_eq_ok, pure_eq_ok, Prod.mk.injEq] at hok
      obtain ⟨-, -, -, rfl⟩ := hok
      exact Or.inr ⟨_, rfl⟩
  rcases hcases with rfl | ⟨receipt, rfl⟩
  · exact ⟨.refl _, h⟩
  · have hlater : s.Later { s with answers := s.answers ++ [receipt] } :=
      ⟨fun _ _ h => h, fun _ _ h => h, List.subset_append_left _ _,
        (Sampling.Later.refl s).reads⟩
    refine ⟨hlater, h.accounts, h.ids, fun id saved hsaved => ?_, h.bases,
      madeWith_mono hlater h.calls (advances_refl _), h.counted⟩
    obtain ⟨asked, hasked, hgranted⟩ := h.granted id saved hsaved
    exact ⟨asked, hasked, hgranted.mono hlater⟩

/-- **Each event keeps the invariant**, and what was saved. -/
theorem Sampling.Sound.next (h : s.Sound env policy) {e : SamplingEvent}
    (he : s.next env e = some s') : s.Later s' ∧ s'.Sound env policy := by
  cases e with
  | authorize request requestId reason answers now =>
    obtain rfl := Option.some.inj he
    cases hok : authorizeSample env request requestId reason answers now s with
    | error e => exact ⟨.refl s, h⟩
    | ok out => exact h.authorize hok
  | call request requestId sampling hash keepTokens keepSeconds ticket =>
    simp only [Sampling.next] at he
    split at he
    · cases he
    · rename_i hid
      cases hr : toolReservation env request requestId sampling hash keepTokens keepSeconds s with
      | error e =>
        simp only [hr, Option.some.injEq] at he
        exact he ▸ ⟨.refl s, h⟩
      | ok r =>
        simp only [hr] at he
        obtain ⟨b', hb, rfl⟩ := Option.map_eq_some_iff.1 he
        have haccounts := h.accounts.next hb
        rcases toolCalls_cases h.accounts hb with ⟨hcalls, htools⟩ | ⟨_, _, heq, -, hrefusal, rfl⟩
        · exact h.settled haccounts hcalls htools
        · cases heq
          exact h.reserved hid hr haccounts hrefusal
  | accept question answer now =>
    obtain rfl := Option.some.inj he
    cases hok : acceptAnswer env question answer now s with
    | error e => exact ⟨.refl s, h⟩
    | ok out => exact h.accept hok
  | other e =>
    simp only [Sampling.next] at he
    split at he
    · cases he
    · rename_i hother
      obtain ⟨b', hb, rfl⟩ := Option.map_eq_some_iff.1 he
      rcases toolCalls_cases h.accounts hb with ⟨hcalls, htools⟩ | ⟨r, ticket, rfl, hkind, -⟩
      · exact h.settled (h.accounts.next hb) hcalls htools
      · exact absurd (by simpa [BudgetEvent.isTool] using hkind) hother

theorem Sampling.Sound.initial (env : SamplingEnv) (policy : BudgetPolicy) :
    Sampling.Sound env policy (.initial policy) :=
  ⟨.initial policy, rfl, fun _ _ h => (by cases h), fun _ h => (by cases h), .nil, fun _ => rfl⟩

theorem Sampling.Sound.run (h : s.Sound env policy) {events : List SamplingEvent}
    (hrun : Transition.run (Sampling.next env) s events = some s') :
    s.Later s' ∧ s'.Sound env policy :=
  Run.invariant (P := fun s' => s.Later s' ∧ s'.Sound env policy)
    (fun _ _ _ hs he => ⟨hs.1.trans (hs.2.next he).1, (hs.2.next he).2⟩) ⟨.refl s, h⟩ hrun

end Invariant

/-! ### All reads -/

section Justified

variable {env : SamplingEnv} {policy : BudgetPolicy} {s : Sampling}

end Justified

/-- The reference of a container of a pod. -/
def podRef : String := "ref-aaaaaaaaaaaaaaaaaaaaaaaa"

/-- A run with one pod. -/
def podEnv : SamplingEnv where
  refs := [(podRef, ⟨⟨"pod", "uid-1", "agent-demo", "web", "web", .str "app"⟩, "pod"⟩)]
  runId := "run"
  queryDigest := Json.text
  sampleDigest key generation := key ++ String.ofList (List.replicate generation '+')
  grantFingerprint _ _ _ := "request"
  callFingerprint _ _ := "call"
  answerFingerprint _ := "answer"
  instant text := if text = "2026-01-01T00:00:00+00:00" then some 0 else none

end IncidentAgent
