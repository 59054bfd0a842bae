import IncidentAgent.Executor.Approval
import IncidentAgent.Policy.Reports
import IncidentAgent.Workflow.Sound

/-!
# What a run of the workflow asks for

A run of the workflow is a tour of its graph: visits are lost and repeated, the graph goes on from
earlier checkpoints, and all that it asks for is answered by somebody who may answer anything. Still
the executor is only asked to write what a human has approved in this very run
(`IncidentRun.executed_as_approved`). The state that it is given passes its own authorization, the
decision was given on the request that is built of this state, the plan writes what the profile
registers, and the evidence for it was collected in the run. Whatever else is asked for is asked in
its order (`IncidentRun.asked_in_order`), and there is an end to it (`IncidentRun.visits_bounded`).
-/

namespace IncidentAgent

/-- What the documents of the state rely on: a class that reads back what it has written reads the
same value. -/
structure WorkflowLibrary.ReadsBack (lib : WorkflowLibrary) : Prop where
  plan : ∀ plan plan' : RemediationPlan, lib.plan plan.dump = some plan' → plan' = plan
  record : ∀ record record' : ApprovalRecord,
    lib.approvalRecord record.dump = some record' → record' = record

/-- A digit of a digest. -/
def isHexDigit (c : Char) : Bool := c.isDigit || ('a' ≤ c && c ≤ 'f')

/-- Digests are texts of hexadecimal digits. -/
def Env.HexDigests (env : Env) : Prop :=
  ∀ v, 16 ≤ (env.requestDigest v).toList.length ∧
    ∀ c ∈ (env.requestDigest v).toList, isHexDigit c = true

/-! ### The authorization of an approved state -/

section Authorization

variable {env : Env} {lib : WorkflowLibrary} {s : Json} {request : ApprovalRequest}

theorem isSpace_of_isHexDigit {c : Char} (h : isHexDigit c = true) : isSpace c = false := by
  have hrange : 48 ≤ c.toNat ∧ c.toNat ≤ 57 ∨ 97 ≤ c.toNat ∧ c.toNat ≤ 102 := by
    simp only [isHexDigit, Bool.or_eq_true, Bool.and_eq_true, Char.isDigit, decide_eq_true_eq] at h
    rcases h with h | h
    · exact Or.inl ⟨h.1, h.2⟩
    · exact Or.inr ⟨h.1, h.2⟩
  simp only [isSpace, Bool.or_eq_false_iff, List.contains_eq_mem, decide_eq_false_iff_not,
    Bool.and_eq_false_iff, List.mem_cons, List.not_mem_nil, or_false]
  omega

/-- A text that neither begins nor ends with white space. -/
theorem strip_eq_self {text : String} (h : ∀ c ∈ text.toList, isSpace c = false) :
    strip text = text := by
  have hdrop : ∀ l : List Char, (∀ c ∈ l, isSpace c = false) → l.dropWhile isSpace = l := by
    intro l hl
    cases l with
    | nil => rfl
    | cons c rest => rw [List.dropWhile_cons_of_neg (by simp [hl c List.mem_cons_self])]
  unfold strip
  rw [hdrop _ h, hdrop _ fun c hc => h c (List.mem_reverse.1 hc), List.reverse_reverse,
    String.ofList_toList]

/-- The identifier of an approval has the form that an execution asks for. -/
theorem buildExecutionId_ok (lib : ExecutionLibrary) (henv : env.HexDigests) {v : Json}
    (hid : request.approvalId = "apr-" ++ String.ofList ((env.requestDigest v).toList.take 16)) :
    ∃ executionId, buildExecutionId lib request.approvalId = .ok executionId := by
  obtain ⟨hlength, hhex⟩ := henv v
  have hdigits : ∀ c ∈ (env.requestDigest v).toList.take 16, isHexDigit c = true :=
    fun c hc => hhex c (List.mem_of_mem_take hc)
  have hchars : request.approvalId.toList =
      "apr-".toList ++ (env.requestDigest v).toList.take 16 := by
    rw [hid, String.toList_append]
    exact congrArg ("apr-".toList ++ ·) String.toList_ofList
  have hstrip : strip request.approvalId = request.approvalId := by
    refine strip_eq_self fun c hc => ?_
    rw [hchars, List.mem_append] at hc
    rcases hc with hc | hc
    · have hprefix : ("apr-".toList.all fun c => !isSpace c) = true := by decide +kernel
      simpa using List.all_eq_true.1 hprefix c hc
    · exact isSpace_of_isHexDigit (hdigits c hc)
  have hpattern : approvalIdPattern request.approvalId = true := by
    unfold approvalIdPattern
    rw [hchars]
    simp only [Bool.and_eq_true, decide_eq_true_eq, List.all_eq_true]
    refine ⟨⟨rfl, ?_⟩, fun c hc => hdigits c hc⟩
    rw [List.length_append, List.length_take, Nat.min_eq_left hlength]
    rfl
  refine ⟨"exec-" ++ String.ofList ((lib.textDigest request.approvalId).toList.take 16), ?_⟩
  simp only [buildExecutionId, hstrip]
  rw [raiseIf_of_not (by simp [hpattern])]
  rfl

/-- What a request that was built says about its state. -/
theorem buildApprovalRequest_spec
    (h : buildApprovalRequest env lib.toExecutionLibrary s = .ok request) :
    strip (shownOr (s.get "incident_id")) ≠ "" ∧
      request.incidentId = strip (shownOr (s.get "incident_id")) ∧
      s.get "remediation_plan" ≠ .null ∧ lib.plan (s.get "remediation_plan") = some request.plan ∧
      request.plan.action.executable = true ∧
      ∃ v, request.approvalId =
        "apr-" ++ String.ofList ((env.requestDigest v).toList.take 16) := by
  simp only [buildApprovalRequest, bind_eq_ok, raiseIf_eq_ok, rowOr_eq_ok, pure_eq_ok] at h
  obtain ⟨-, hid, -, hnull, plan, hplan, -, -, -, -, -, hmanual, -, -, v, -, rfl⟩ := h
  refine ⟨hid, rfl, hnull, hplan, ?_, v, rfl⟩
  cases haction : plan.action with
  | manualInvestigation => exact absurd haction hmanual
  | patchReadinessProbe => rfl
  | patchServiceSelector => rfl

/-- **The authorization of a state that was approved.** -/
theorem authorized_of_approved (hlib : lib.ReadsBack) (henv : env.HexDigests) {h : Exchanges}
    (hp : Place.Ready lib s) (ha : Place.Approved env lib h s) :
    ∃ auth value decision now,
      validateExecutionAuthorization env lib.toExecutionLibrary s = .ok auth ∧
      auth.alreadyExecuted = false ∧
      (⟨.interrupt (approvalPayload auth.approvalRequest), value⟩ : Σ q, Ask.Answer q) ∈ h ∧
      lib.approvalDecision value = some decision ∧ decision.approvalId = auth.approvalId ∧
      decision.approved = true ∧ auth.approvalRecord =
        createApprovalRecord auth.approvalRequest decision (env.isoformat now) := by
  obtain ⟨request, value, decision, now, hbuilt, hstored, hasked, hdecision, happroved, record,
    hrecord, hdump⟩ := ha.decided
  obtain ⟨plan, hplan, hvalid⟩ := hp.planned
  obtain ⟨hid, hincident, hnull, hread, hexec, v, hv⟩ := buildApprovalRequest_spec hbuilt
  obtain ⟨executionId, hexecution⟩ := buildExecutionId_ok lib.toExecutionLibrary henv hv
  have hsame : request.plan = plan := hlib.plan _ _ (hplan ▸ hread)
  have hrecorded : record = createApprovalRecord request decision (env.isoformat now) :=
    hlib.record _ _ (rowOr_eq_ok.1 hrecord)
  have hload : lib.approvalRecord (s.get "approval_record") = some record := by
    rw [hdump]
    have hrecord := rowOr_eq_ok.1 hrecord
    rwa [← hrecorded] at hrecord
  simp only [validateApprovalDecision, bind_eq_ok, rowOr_eq_ok, raiseIf_eq_ok, pure_eq_ok,
    not_not] at hdecision
  obtain ⟨decision', hparsed, ⟨⟩, hsameId, rfl⟩ := hdecision
  have hrecordNull : s.get "approval_record" ≠ .null := by
    rw [hdump]
    simp [ApprovalRecord.dump]
  refine ⟨⟨executionId, request.approvalId, request.incidentId, request.plan, request, record, none,
    false⟩, value, decision', now, ?_, rfl, hasked, hparsed, hsameId, happroved, hrecorded⟩
  have hrevalid : revalidatePlan lib.toExecutionLibrary s request.plan = .ok PUnit.unit.{1} := by
    rw [revalidatePlan, hsame, hvalid]
  have hrebuilt : rebuiltRequest env lib.toExecutionLibrary s = .ok request := by
    rw [rebuiltRequest, hbuilt]
  have hbinding : validateApprovalBinding env lib.toExecutionLibrary s request.plan request record =
      .ok PUnit.unit.{1} := by
    simp only [validateApprovalBinding, bind_eq_ok, raiseIf_eq_ok, hrebuilt, not_not]
    refine ⟨⟨⟩, hid, ⟨⟩, hincident, ⟨⟩, ?_, ⟨⟩, ?_, ⟨⟩, ?_, ⟨⟩, trivial, ⟨⟩, ?_, ⟨⟩, ?_, request, rfl,
      rfl⟩ <;> rw [hrecorded] <;> simp [createApprovalRecord, hincident, happroved]
  have hprevious : loadPreviousResult lib.toExecutionLibrary s = .ok none := if_pos ha.result
  have hstate : validateApprovedState s = .ok PUnit.unit.{1} := by
    simp [validateApprovedState, ha.phase, ha.status, ha.approved, hp.approval]
  have hloadPlan : loadRequired lib.plan s "remediation_plan" "remediation plan" =
      .ok request.plan := by
    simp [loadRequired, hnull, hread]
  have hloadRequest : loadRequired lib.approvalRequest s "approval_request" "approval request" =
      .ok request := by
    simp [loadRequired, ha.requested, hstored]
  have hloadRecord : loadRequired lib.approvalRecord s "approval_record" "approval record" =
      .ok record := by
    simp [loadRequired, hrecordNull, hload]
  simp only [validateExecutionAuthorization, bind_eq_ok, raiseIf_eq_ok, pure_eq_ok]
  refine ⟨⟨⟩, hstate, _, hloadPlan, _, hloadRequest, _, hloadRecord, ⟨⟩, ?_, ⟨⟩, hbinding, ⟨⟩,
    hrevalid, _, hexecution, _, hprevious, _, rfl, rfl⟩
  simp [hexec]

end Authorization

/-! ### Runs -/

/-- **What the executor is asked to do**: an authorized write of what the profile registers, for a
diagnosis that was checked on evidence that was collected, and with the approval of a human. -/
structure WriteApproved (env : Env) (lib : WorkflowLibrary) (h : Exchanges) (s : Json)
    (auth : ExecutionAuthorization) : Prop where
  authorized : validateExecutionAuthorization env lib.toExecutionLibrary s = .ok auth
  fresh : auth.alreadyExecuted = false
  /-- The request was shown, and the answer to it approves it. -/
  approved : ∃ value decision now,
    (⟨.interrupt (approvalPayload auth.approvalRequest), value⟩ : Σ q, Ask.Answer q) ∈ h ∧
    lib.approvalDecision value = some decision ∧ decision.approvalId = auth.approvalId ∧
    decision.approved = true ∧
    auth.approvalRecord = createApprovalRecord auth.approvalRequest decision (env.isoformat now)
  registered : ∃ profile row,
    WritesRegistered lib.toPolicyLibrary (remediationState s) auth.plan profile row
  diagnosed : Place.Diagnosed env lib h s
  fault : Place.NamesFault s

namespace IncidentRun

/-- The runs of a workflow: tours of its graph, from the state that an incident begins with. -/
def Reachable (env : Env) (lib : WorkflowLibrary) (parts : GraphParts) (incidentId : String)
    (request : Json) (round : Option (Json × String)) :
    Tour IncidentNode Json Ask Ask.Answer Raised → Prop :=
  Transition.Reachable (incidentGraph env lib parts).next
    (Flow.start .validateRequest (initialState incidentId request round))

variable {env : Env} {lib : WorkflowLibrary} {parts : GraphParts} {incidentId : String}
  {request : Json} {round : Option (Json × String)}
  {t : Tour IncidentNode Json Ask Ask.Answer Raised} {h : Exchanges}

theorem initialState_holds :
    Place.Holds env lib [] (some .validateRequest) (initialState incidentId request round) := by
  refine ⟨rfl, ?_, ?_⟩ <;> rcases round with _ | ⟨context, runId⟩ <;> rfl

theorem rank_initialState :
    Place.rank (some .validateRequest) (initialState incidentId request round) = 21 := by
  have hrounds : (initialState incidentId request round).get? "clarification_round" = none := by
    rcases round with _ | ⟨context, runId⟩ <;> rfl
  simp [Place.rank, Place.roundsLeft, hrounds, pyInt]

/-- In every run the annotation of the graph holds, and no more than 21 visits are made. -/
theorem holds (ht : Reachable env lib parts incidentId request round t) :
    (incidentGraph env lib parts).Holds
      (fun d h o s => Place.Holds env lib h o s ∧ d + Place.rank o s ≤ 21)
      (Place.Asks env lib) t :=
  ((Place.incidentGraph_ranked env lib parts).annotated 21).holds_of_reachable
    ⟨initialState_holds, by rw [rank_initialState]⟩ ht

/-- **The executor is only asked to write what a human has approved** in this run. -/
theorem executed_as_approved (hlib : lib.ReadsBack) (henv : env.HexDigests)
    (ht : Reachable env lib parts incidentId request round t) {s : Json}
    {answer : Except Raised Json}
    (he : (⟨.execute s, answer⟩ : Σ q, Ask.Answer q) :: h <:+ t.history) :
    ∃ auth, WriteApproved env lib h s auth := by
  obtain ⟨-, node, s', ⟨hI, -⟩, rfl, rfl⟩ := (holds ht).asked _ h he
  obtain ⟨hplanned, happroved⟩ := hI
  obtain ⟨auth, value, decision, now, hauth, hfresh, hasked, hdecision, hid, hyes, hrecord⟩ :=
    authorized_of_approved hlib henv hplanned.toReady happroved
  have hrests := validateExecutionAuthorization_eq_ok hauth
  obtain ⟨accepted, haccepted⟩ := hrests.valid
  exact ⟨auth, hauth, hfresh, ⟨value, decision, now, hasked, hdecision, hid, hyes, hrecord⟩,
    accepted_writes haccepted hrests.executable, hplanned.toDiagnosed, hplanned.fault⟩

/-- **There is an end to a run**: no checkpoint has more than 21 visits behind it, whatever is
answered. -/
theorem visits_bounded (ht : Reachable env lib parts incidentId request round t)
    {c : Checkpoint IncidentNode Json} (hc : c ∈ t.saved) : c.depth ≤ 21 :=
  (Nat.le_add_right _ _).trans ((holds ht).saved c hc).2

end IncidentRun

/-! ### A run that writes -/

/-- The documents of plans differ. -/
theorem RemediationPlan.dump_injective : Function.Injective RemediationPlan.dump := by
  intro p q h
  have htarget : textOr p.targetUid = textOr q.targetUid :=
    Option.some.inj (congrArg (fun v : Json => v.get? "target_uid") h)
  refine RemediationPlan.eq_of_canonical (congrArg Json.canonical ?_)
  rw [planPayload, planPayload, h, textOr_injective htarget]

/-- The documents of records differ. -/
theorem ApprovalRecord.dump_injective : Function.Injective ApprovalRecord.dump := by
  rintro ⟨_, _, action, _, _, _, _, plan, approval⟩ ⟨_, _, action', _, _, _, _, plan', approval'⟩ h
  simp only [ApprovalRecord.dump, Json.obj.injEq, List.cons.injEq, Prod.mk.injEq, Json.str.injEq,
    Json.bool.injEq, true_and, and_true] at h
  obtain ⟨rfl, rfl, haction, rfl, rfl, rfl, rfl, hplan, happroval⟩ := h
  rw [RemediationActionName.value_injective haction, textOr_injective hplan,
    textOr_injective happroval]

/-- The evidence of a selector that has drifted. -/
def driftBundle : CollectedBundle where
  toBundle :=
    { (default : Bundle) with
      namespaceName := safeNamespace
      serviceName := "web"
      service := demoService.insert "uid" (.str "svc-1")
      deployments := [("web", demoDeployment)]
      serviceProfile := demoState.serviceProfile }
  errors := []

/-- The diagnosis of it. -/
def driftDiagnosis : Diagnosis :=
  { demoDiagnosis with
    evidenceIds := ["ev-a-001", "ev-a-003"]
    assessment := demoDiagnosis.assessment.map fun a =>
      { a with rootCauseHypotheses :=
          [⟨⟨"the selector has drifted", ["ev-a-001", "ev-a-003"]⟩, .supported⟩] } }

/-- The plan of the model, and what it is bound to. -/
def driftPlan (target : Option String) : RemediationPlan :=
  { demoPlan "select the pods" with
    evidenceIds := ["ev-a-001", "ev-a-003"]
    targetUid := target }

/-- An environment with a digest of the length that identifiers have. -/
def driftEnv : Env := { Env.plain with requestDigest := fun _ => "0123456789abcdef" }

/-- The request for the approval of the plan. -/
def driftRequest : ApprovalRequest where
  approvalId := "apr-0123456789abcdef"
  incidentId := "a-1"
  plan := driftPlan (some "svc-1")
  planRevision := some "0123456789abcdef"
  approvalRevision := some "0123456789abcdef"

/-- The record of its approval. -/
def driftRecord : ApprovalRecord :=
  createApprovalRecord driftRequest boundDecision (driftEnv.isoformat 0)

/-- A library that reads back the documents of the run. -/
def driftLibrary : WorkflowLibrary :=
  { demoReports with
    diagnosis := fun document =>
      if document.get "fault_category" = .str driftDiagnosis.faultCategory.value then
        some driftDiagnosis else none
    diagnosis_category := fun {document d} h => by
      split at h
      · rename_i hcategory
        rw [hcategory, ← Option.some.inj h]
      · cases h
    plan := fun document =>
      if document = driftRequest.plan.dump then some driftRequest.plan else none
    approvalRequest := fun document =>
      if document = driftRequest.dump then some driftRequest else none
    approvalRecord := fun document =>
      if document = driftRecord.dump then some driftRecord else none
    actionResult := fun _ => none
    textDigest := fun _ => "0123456789abcdef"
    approvalDecision := fun document => if document = .null then none else some boundDecision
    validationText := fun name _ => name
    exceptionText := fun e => e.errorType
    number := fun q => .num q.floor
    sameLetter := fun a b => a = b
    dumpsAscii := Json.text }

theorem driftLibrary_readsBack : driftLibrary.ReadsBack := by
  refine ⟨fun plan plan' h => ?_, fun record record' h => ?_⟩
  · have hdump : plan.dump = driftRequest.plan.dump ∧ driftRequest.plan = plan' := by
      simpa [driftLibrary] using h
    rw [← hdump.2, RemediationPlan.dump_injective hdump.1]
  · have hdump : record.dump = driftRecord.dump ∧ driftRecord = record' := by
      simpa [driftLibrary] using h
    rw [← hdump.2, ApprovalRecord.dump_injective hdump.1]

theorem driftEnv_hexDigests : driftEnv.HexDigests := by
  intro v
  have hlength : 16 ≤ "0123456789abcdef".toList.length := by decide +kernel
  have hdigits : "0123456789abcdef".toList.all isHexDigit = true := by decide +kernel
  exact ⟨hlength, List.all_eq_true.1 hdigits⟩

/-- What is answered in the run. -/
def driftAnswers : (q : Ask) → Ask.Answer q
  | .now => (0 : ℕ)
  | .uuid => "a-1"
  | .collect _ _ => .ok driftBundle
  | .retrieve _ => .ok [.obj [("runbook_id", .str "rb-1")]]
  | .diagnose _ => .ok ⟨driftDiagnosis, "model", []⟩
  | .plan _ => .ok ⟨driftPlan none, "model", []⟩
  | .decision _ => .ok ⟨⟩
  | .interrupt _ => .bool true
  | .execute _ | .verify _ => .ok .null
  | .inquire q => q.inhabitedAnswer.default

/-- The last checkpoint is entered, and so many queries are answered. -/
def visitEvents (n : ℕ) : List (TourEvent Ask Ask.Answer) :=
  .enter 0 :: List.replicate n (.answer driftAnswers)

/-- The events of the run, up to the answer of the executor. -/
def driftEvents : List (TourEvent Ask Ask.Answer) :=
  [1, 1, 3, 2, 2, 2, 1, 3].flatMap (fun n => visitEvents n ++ [.leave]) ++ visitEvents 1

/-- The request of the run. -/
def driftIncident : Json :=
  .obj [("namespace", .str safeNamespace), ("service_name", .str "web"),
    ("description", .str "no pods")]

/-- The first part of an identifier, by its value at the identifier of the run. -/
def shortIdOf (id : String) : String :=
  if id = "a-1" then "a" else (id.splitOn "-").headD ""

theorem shortIdOf_eq (id : String) : (id.splitOn "-").headD "" = shortIdOf id := by
  unfold shortIdOf
  split
  · rename_i h
    rw [h, collected_shortId]
  · rfl

/-- The query of an exchange is one to the executor. -/
def Ask.isExecute : Ask → Bool
  | .execute _ => true
  | _ => false

theorem exists_driftRun : ∃ t s answer h,
    IncidentRun.Reachable driftEnv driftLibrary (.production false) "a-1" driftIncident none t ∧
      t.saved.length = 9 ∧
      (⟨.execute s, answer⟩ : Σ q, Ask.Answer q) :: h <:+ t.history := by
  have hrun : (Transition.follow (incidentGraph driftEnv driftLibrary (.production false)).next
      (Flow.start .validateRequest (initialState "a-1" driftIncident none))
      [fun _ => driftEvents]).any (fun t => decide
        (t.saved.length = 9 ∧ t.history.head?.any (fun e => e.1.isExecute) = true)) = true := by
    unfold incidentGraph IncidentNode.visit IncidentNode.update collectEvidence collectBundle
      normalizeEvidence
    simp only [shortIdOf_eq]
    decide +kernel
  obtain ⟨t, -, ht, hsaved, hhead⟩ := Transition.exists_reachable _ _ _ _ hrun
  cases hhistory : t.history with
  | nil => simp [hhistory] at hhead
  | cons e h =>
    obtain ⟨q, answer⟩ := e
    cases q <;> simp only [hhistory, List.head?_cons, Option.any_some, Ask.isExecute,
      Bool.false_eq_true] at hhead
    exact ⟨t, _, answer, h, ht, hsaved, hhistory ▸ List.suffix_refl _⟩

namespace IncidentRun

theorem executed_as_approved_drift : ∃ h s auth,
    WriteApproved driftEnv driftLibrary h s auth := by
  obtain ⟨t, s, answer, h, ht, -, hasked⟩ := exists_driftRun
  obtain ⟨auth, hauth⟩ :=
    executed_as_approved driftLibrary_readsBack driftEnv_hexDigests ht hasked
  exact ⟨h, s, auth, hauth⟩

theorem visits_bounded_drift : ∃ t : Tour IncidentNode Json Ask Ask.Answer Raised,
    t.saved.length = 9 ∧ ∀ c ∈ t.saved, c.depth ≤ 21 := by
  obtain ⟨t, s, answer, h, ht, hsaved, -⟩ := exists_driftRun
  exact ⟨t, hsaved, fun c hc => visits_bounded ht hc⟩

end IncidentRun

end IncidentAgent
