import IncidentAgent.System.Fencing
import IncidentAgent.System.Retries
import IncidentAgent.Worker.Interactions

/-!
# What a worker does with a lease

`Worker.execute`: a lease of an interaction runs its handler and publishes what it returns. A lease
of a diagnosis first reconciles the write of the run, then reads the checkpoint, decides what to do
with it, runs the graph and publishes the state that it ends in. Whatever raises is handled: a
transient error schedules a retry as long as the count of attempts allows one, and a retry that the
store refuses for the sake of a write becomes a reconciliation.

Two arguments bound the retries. The store counts: between two resets of the base of a run no
more leases than the limit may work on it (`Sys.Counted.working_le`). The worker keeps to the
lease: under one that may only recover it never works (`execute_recovers`).
-/

namespace IncidentAgent

/-- What a worker is configured with, and how it reads the columns of a row as documents. -/
structure Desk where
  env : Env
  /-- `settings.max_attempts`. -/
  maxAttempts : Nat
  documents : Run → RecoveryLease
  saved : Operation → SavedOperation
  /-- The question that a state asks, as far as it asks one. -/
  question : Json → Option Question

namespace Worker

variable (desk : Desk) (lease : Lease)

/-! ### Publishing a result -/

/-- `_finish`. -/
def finishRun (status : RunStatus) (args : FinishArgs) : WorkerProg Unit := do
  unlost
  store (.finish lease status args)

/-- The arguments of a result that is an error. -/
def errorArgs (code : String) : FinishArgs := { (default : FinishArgs) with errorCode := some code }

/-- `_complete_interaction`. -/
def completeInteraction (publication : Publication) : WorkerProg Unit := do
  unlost
  store (.complete lease publication.output publication.assistant publication.investigate)

/-! ### Reconciling a write -/

/-- `LedgerExecutor.reconcile`. -/
def reconcile (operation : Operation) : WorkerProg Bool := do
  let read ← Act.attempt (ask (.readTarget operation))
  match read with
  | .error _ => do
    store (.record lease .manualRequired
      ⟨none, none, none, some "RECONCILIATION_READ_FAILED", .notEstablished⟩)
    pure false
  | .ok observed => do
    let confirmed := operation.attribution = .confirmed ∧
      operation.responseSnapshot = some observed ∧
      observed.configuration = operation.targetSnapshot.configuration ∧
      observed.uid = operation.beforeSnapshot.uid ∧ operation.result.isSome
    if confirmed then do
      store (.record lease .reconciled ⟨none, some observed, none, none, .confirmed⟩)
      pure true
    else do
      store (.record lease .manualRequired
        ⟨none, some observed, none, some "OPERATION_MANUAL_REQUIRED", .notEstablished⟩)
      pure false

/-- The operation is to be reconciled: its outcome is unknown, or another lease has saved it. -/
def toReconcile (recovering : Bool) (o : Operation) : Bool :=
  o.state.uncertain || (recovering && (o.state = .succeeded || o.state = .reconciled) &&
    o.leaseEpoch != lease.row.leaseEpoch)

/-- The reconciliation, which does not confirm anything when it raises. -/
def reconciled (operation : Operation) : WorkerProg Bool :=
  tryCatch (reconcile lease operation) fun fault =>
    if fault.error = .leaseLost then throw fault
    else do
      store (.record lease .manualRequired
        ⟨none, none, none, some "RECONCILIATION_READ_FAILED", .notEstablished⟩)
      pure false

/-- `_reconcile_pending`: whether the run has been published as reconciling. -/
def reconcilePending (recovering : Bool) : WorkerProg Bool := do
  let operation ← ask .operation
  match operation with
  | none => pure false
  | some o =>
    if toReconcile lease recovering o then do
      store (.assertOwned lease)
      let confirmed ← reconciled lease o
      if confirmed = false ∨ o.state.uncertain = true then do
        finishRun lease .reconciling (errorArgs "OPERATION_MANUAL_REQUIRED")
        pure true
      else pure false
    else pure false

/-! ### Running the graph -/

/-- `[m["message_id"] for m in messages]`. -/
def messageIds (messages : Json) : Except Halt (List String) := do
  let items ← elements messages
  items.mapM fun m => do
    let id ← entry m "message_id"
    pure (shown id)

/-- The messages that a state has adopted: those of its round, and the answers. -/
def adoptedMessageIds (values : Json) : Except Halt (List String) := do
  let round := (values.get? "round_context").getD (.obj [])
  raiseIf (round.isObject = false) (.raised "AttributeError")
  let messages ← messageIds ((round.get? "messages").getD (.arr []))
  let answers ← messageIds ((values.get? "clarification_answers").getD (.arr []))
  pure (messages ++ answers)

/-- What is published of the state that a graph has ended in. -/
def projection (snapshot : Snapshot) (decision : RecoveryDecision) : Except Halt FinishArgs := do
  let values := orEmpty snapshot.values
  let adopted ← adoptedMessageIds values
  pure {
    phase := some (if (values.get "phase").truthy then shown (values.get "phase") else "failed")
    errorCode := decision.errorCode
    retrySeconds := none
    outputSnapshot := if snapshot.values.truthy then some snapshot.values else none
    question := desk.question (values.get "question")
    adoptedMessageIds := some adopted }

/-- `classify(lease, snapshot, self._operation(lease))`. -/
def classified (snapshot : Snapshot) : WorkerProg RecoveryDecision := do
  let operation ← ask .operation
  Act.ofExcept ((classify desk.env (desk.documents lease.row) snapshot
    (operation.map desk.saved)).mapError WorkerFault.of)

/-- `_project`. -/
def project (snapshot : Snapshot) : WorkerProg Unit := do
  let done ← reconcilePending lease false
  if done then pure ()
  else do
    let decision ← classified desk lease snapshot
    if decision.action ≠ .stop then finishRun lease .failed (errorArgs "INCOMPLETE_WORKFLOW")
    else do
      let args ← read (projection desk snapshot decision)
      finishRun lease (decision.status.getD .failed) args

/-- `answer_for_investigation(payload, question)`. -/
def answerForInvestigation (payload question : Json) : Except Halt Json := do
  let questions ← entry question "questions"
  let first ← rowOr questions.items.head? (.raised "IndexError")
  let slot ← entry first "slot"
  let questionId ← entry payload "question_id"
  let version ← entry payload "version"
  let messageId ← entry payload "message_id"
  let skip ← entry payload "skip"
  let answers ← entry payload "answers"
  let text ← if skip.truthy then pure (.str "") else entry answers slot.toText
  pure (.obj [("question_id", questionId), ("version", version), ("message_id", messageId),
    ("text", text), ("skip", skip),
    ("changed_resource_refs", (payload.get? "changed_resource_refs").getD (.arr []))])

/-- What the graph is invoked with, once an answer has been accepted by its ledger. -/
def graphInput (snapshot : Snapshot) (action : RecoveryAction) : WorkerProg GraphInput :=
  let row := desk.documents lease.row
  match action with
  | .resumeUser =>
    if row.workflowVersion = investigationWorkflow then do
      let question ← read (entry snapshot.values "question")
      let answer ← read (answerForInvestigation row.answerPayload question)
      let accepted ← ask (.acceptAnswer answer question)
      pure (.resume accepted)
    else pure (.resume row.answerPayload)
  | .resume => do
    let decision ← read (entry row.approvalPayload "decision")
    pure (.resume decision)
  | .continued => pure .continued
  | _ => pure (.initial row.incidentId row.inputPayload
      (if row.workflowVersion ∈ roundWorkflows then some (row.contextSnapshot, row.runId)
        else none))

/-- The graph is run on as it was decided, and the state that it ends in is published. -/
def runGraph (snapshot : Snapshot) (action : RecoveryAction) : WorkerProg Unit := do
  store (.assertOwned lease)
  let input ← graphInput desk lease snapshot action
  activity (ask (.invoke input))
  let ended ← reading (ask .getState)
  reading (project desk lease ended)

/-- What is done with the graph of a run, once it is open. -/
def advance : WorkerProg Unit := do
  store (.assertOwned lease)
  let snapshot ← reading (ask .getState)
  let decision ← classified desk lease snapshot
  if decision.action = .stop then project desk lease snapshot
  else if lease.recoveryOnly then finishRun lease .failed (errorArgs "ATTEMPTS_EXHAUSTED")
  else runGraph desk lease snapshot decision.action

/-! ### Executing a lease -/

/-- A lease of an interaction. -/
def executeHandler : WorkerProg Unit := do
  let publication ← activity (
    if lease.row.workflowVersion = delayedWorkflow then executeDelayedRecheck desk.env lease
    else executeInteraction desk.env lease)
  completeInteraction lease publication

/-- A lease of a diagnosis. -/
def executeDiagnosis : WorkerProg Unit := do
  let done ← reconcilePending lease true
  if done then pure ()
  else match checkInput desk.env (desk.documents lease.row) with
    | .error _ => finishRun lease .failed (errorArgs "UNSUPPORTED_OR_CORRUPT_INPUT")
    | .ok _ => Act.within (ask .openGraph) (fun _ _ => ask .closeGraph) (advance desk lease)

/-- The handler of an error: a retry, if one is allowed, or a failure. -/
def recover (fault : WorkerFault) : WorkerProg Unit := do
  let done ← reconcilePending lease false
  if done then pure ()
  else if fault.error.transient ∧
      lease.row.attempt - lease.row.attemptBase < desk.maxAttempts then
    finishRun lease .retryScheduled { errorArgs "DEPENDENCY_TEMPORARY" with
      retrySeconds := some (if lease.row.attempt = 1 then 5 else 15) }
  else
    finishRun lease .failed (errorArgs (if fault.error.transient then "ATTEMPTS_EXHAUSTED"
      else if fault.reading then "CHECKPOINT_UNREADABLE" else "WORKER_FAILED"))

/-- The errors of the handler: only the refusal of a retry is answered. -/
def settle (fault : WorkerFault) : WorkerProg Unit :=
  if fault.error = .unsafeRetry then
    tryCatch (finishRun lease .reconciling (errorArgs "WRITE_REQUIRES_RECONCILIATION"))
      fun _ => pure ()
  else pure ()

/-- **`Worker.execute`.** -/
def execute : WorkerProg Unit :=
  tryCatch (if lease.row.runKind = .interaction then executeHandler desk lease
      else executeDiagnosis desk lease)
    fun fault =>
      if fault.error = .leaseLost then pure ()
      else tryCatch (recover desk lease fault) (settle lease)

/-! ### A lease that may only recover -/

section Recovers

variable {desk : Desk} {lease : Lease}

theorem finishRun_avoids {status : RunStatus} {args : FinishArgs} :
    (finishRun lease status args).Avoids WorkerQuery.Works :=
  Act.avoids_bind (avoids_unlost id) fun _ => avoids_store id

theorem reconcile_avoids {operation : Operation} :
    (reconcile lease operation).Avoids WorkerQuery.Works := by
  refine Act.avoids_bind (Act.avoids_attempt (avoids_ask id)) fun read => ?_
  cases read with
  | error fault => exact Act.avoids_bind (avoids_store id) fun _ => Act.avoids_pure _
  | ok observed =>
    exact Act.avoids_ite (fun _ => Act.avoids_bind (avoids_store id) fun _ => Act.avoids_pure _)
      fun _ => Act.avoids_bind (avoids_store id) fun _ => Act.avoids_pure _

/-- A reconciliation reads the target and records what it finds. -/
theorem reconcilePending_avoids {recovering : Bool} :
    (reconcilePending lease recovering).Avoids WorkerQuery.Works := by
  refine Act.avoids_bind (avoids_ask id) fun operation => ?_
  cases operation with
  | none => exact Act.avoids_pure _
  | some o =>
    refine Act.avoids_ite (fun _ => ?_) fun _ => Act.avoids_pure _
    refine Act.avoids_bind (avoids_store id) fun _ => Act.avoids_bind ?_ fun _ => ?_
    · refine Act.avoids_tryCatch reconcile_avoids fun fault => ?_
      exact Act.avoids_ite (fun _ => Act.avoids_throw _) fun _ =>
        Act.avoids_bind (avoids_store id) fun _ => Act.avoids_pure _
    · exact Act.avoids_ite (fun _ => Act.avoids_bind finishRun_avoids fun _ => Act.avoids_pure _)
        fun _ => Act.avoids_pure _

theorem classified_avoids {snapshot : Snapshot} :
    (classified desk lease snapshot).Avoids WorkerQuery.Works :=
  Act.avoids_bind (avoids_ask id) fun _ => Act.avoids_ofExcept _

theorem project_avoids {snapshot : Snapshot} :
    (project desk lease snapshot).Avoids WorkerQuery.Works := by
  refine Act.avoids_bind reconcilePending_avoids fun _ => ?_
  refine Act.avoids_ite (fun _ => Act.avoids_pure _) fun _ => ?_
  refine Act.avoids_bind classified_avoids fun _ => ?_
  exact Act.avoids_ite (fun _ => finishRun_avoids) fun _ =>
    Act.avoids_bind (avoids_read _) fun _ => finishRun_avoids

/-- The handler of an error publishes, whatever the lease. -/
theorem recover_avoids {fault : WorkerFault} :
    (recover desk lease fault).Avoids WorkerQuery.Works := by
  refine Act.avoids_bind reconcilePending_avoids fun _ => ?_
  exact Act.avoids_ite (fun _ => Act.avoids_pure _) fun _ =>
    Act.avoids_ite (fun _ => finishRun_avoids) fun _ => finishRun_avoids

/-- **An open graph is not run** under a lease that may only recover. -/
theorem advance_recovers (hrecovers : lease.recoveryOnly = true) :
    (advance desk lease).Avoids WorkerQuery.Works := by
  refine Act.avoids_bind (avoids_store id) fun _ => ?_
  refine Act.avoids_bind (avoids_reading (avoids_ask id)) fun _ => ?_
  refine Act.avoids_bind classified_avoids fun _ => ?_
  refine Act.avoids_ite (fun _ => project_avoids) fun _ => ?_
  rw [if_pos hrecovers]
  exact finishRun_avoids

/-- **A lease that may only recover never works**: whatever it is answered, and wherever it is
lost, it has not run the graph, called a model or sampled the cluster. -/
theorem execute_recovers (hrecovers : lease.recoveryOnly = true) :
    (execute desk lease).Avoids WorkerQuery.Works := by
  refine Act.avoids_tryCatch (Act.avoids_ite (fun _ => ?_) fun _ => ?_) fun fault => ?_
  · refine Act.avoids_bind (avoids_activity id (fun _ => id) ?_) fun _ =>
      Act.avoids_bind (avoids_unlost id) fun _ => avoids_store id
    exact Act.avoids_ite (fun _ => executeDelayedRecheck_recovers hrecovers)
      fun _ => executeInteraction_recovers hrecovers
  · refine Act.avoids_bind reconcilePending_avoids fun _ => ?_
    refine Act.avoids_ite (fun _ => Act.avoids_pure _) fun _ => ?_
    cases checkInput desk.env (desk.documents lease.row) with
    | error halt => exact finishRun_avoids
    | ok u =>
      exact Act.avoids_within (avoids_ask id) (fun _ _ => avoids_ask id)
        (advance_recovers hrecovers)
  · refine Act.avoids_ite (fun _ => Act.avoids_pure _) fun _ => ?_
    refine Act.avoids_tryCatch recover_avoids fun _ => Act.avoids_ite (fun _ => ?_)
      fun _ => Act.avoids_pure _
    exact Act.avoids_tryCatch finishRun_avoids fun _ => Act.avoids_pure _

end Recovers

end Worker

/-! ### Retries are bounded -/

namespace Sys

variable {σ : Type} {desk : Desk} {s : Sys σ}

/-- **Retries are bounded** in a state of the system whose workers are configured in one way. -/
structure RetriesBounded (desk : Desk) (s : Sys σ) : Prop where
  /-- The attempts since the last reset stay within the limit. -/
  attempts : ∀ r ∈ s.db.runs, r.attemptBase ≤ r.attempt ∧
    r.attempt - r.attemptBase ≤ desk.maxAttempts
  /-- Of the leases of a run that were granted with one base, no more than the limit ever run the
  graph, call a model or sample the cluster, wherever each of them is lost. -/
  started : ∀ runId base started, List.Sublist started s.leases →
    (∀ lease ∈ started, lease.row.runId = runId ∧ lease.row.attemptBase = base ∧
      ¬ (Worker.execute desk lease).Avoids WorkerQuery.Works) →
    started.length ≤ desk.maxAttempts
  /-- A lease is one that may work only if its count was below the limit. -/
  counted : ∀ lease ∈ s.leases, lease.recoveryOnly = false →
    lease.row.attemptBase < lease.row.attempt ∧
      lease.row.attempt - lease.row.attemptBase ≤ desk.maxAttempts
  /-- Any further lease only publishes what is saved, reconciles, or fails the run. -/
  further : ∀ lease ∈ s.leases, lease.recoveryOnly = true →
    (Worker.execute desk lease).Avoids WorkerQuery.Works
  /-- The base of a run is reset by an accepted approval or answer, and by nothing else. -/
  resets : ∀ request response s', s.Commits desk.env request response s' →
    ∀ r ∈ s.db.runs, ∀ r' ∈ s'.db.runs, r'.runId = r.runId → r'.attemptBase ≠ r.attemptBase →
      (∃ runId decision binding, request = .queueApproval runId decision binding) ∨
        ∃ incidentId runId body, request = .answer incidentId runId body
  /-- No run waits for a retry that has an operation beyond prepared or rejected. -/
  spared : ∀ r ∈ s.db.runs, r.status = .retryScheduled → ∀ o ∈ s.db.operations,
    o.runId = r.runId → o.state = .prepared ∨ o.state = .rejected

/-- The leases of a run and a base that may work are counted. -/
theorem Counted.started_le (h : s.Counted desk.env desk.maxAttempts) {runId : String} {base : Nat}
    {started : List Lease} (hsub : List.Sublist started s.leases)
    (hstarted : ∀ lease ∈ started, lease.row.runId = runId ∧ lease.row.attemptBase = base ∧
      ¬ (Worker.execute desk lease).Avoids WorkerQuery.Works) :
    started.length ≤ desk.maxAttempts := by
  have hworking : ∀ lease ∈ started, (lease.row.runId = runId && lease.row.attemptBase = base &&
      !lease.recoveryOnly) = true := by
    intro lease hlease
    obtain ⟨hid, hbase, hworks⟩ := hstarted lease hlease
    have hfalse : lease.recoveryOnly = false := by
      cases hrecovers : lease.recoveryOnly with
      | false => rfl
      | true => exact absurd (Worker.execute_recovers hrecovers) hworks
    simp [hid, hbase, hfalse]
  calc started.length
      = (started.filter fun lease => lease.row.runId = runId &&
          lease.row.attemptBase = base && !lease.recoveryOnly).length := by
        rw [List.filter_eq_self.2 hworking]
    _ ≤ (s.working runId base).length := (hsub.filter _).length_le
    _ ≤ desk.maxAttempts := h.working_le runId base

theorem resets_cases {request : Request} (h : request.resets = true) :
    (∃ runId decision binding, request = .queueApproval runId decision binding) ∨
      ∃ incidentId runId body, request = .answer incidentId runId body := by
  cases request with
  | queueApproval runId decision binding => exact Or.inl ⟨runId, decision, binding, rfl⟩
  | answer incidentId runId body => exact Or.inr ⟨incidentId, runId, body, rfl⟩
  | _ => cases h

/-- **Retries are bounded in every state**, whatever crashes, expires or is claimed again. -/
theorem Reachable.retriesBounded
    (h : Transition.Reachable (limited desk.env desk.maxAttempts) (start σ) s) :
    s.RetriesBounded desk := by
  have hcounted := counted_of_reachable h
  refine
    { attempts := fun r hr => ⟨hcounted.based r hr, ?_⟩
      started := fun runId base started hsub hstarted => hcounted.started_le hsub hstarted
      counted := fun lease hlease hworks => ?_
      further := fun lease _ hrecovers => Worker.execute_recovers hrecovers
      resets := ?_
      spared := fun r hr hstatus o ho hrun => ?_ }
  · have hbounded := hcounted.bounded r hr
    omega
  · obtain ⟨hlow, hhigh⟩ := hcounted.counted lease hlease hworks
    omega
  · intro request response s' hc r hr r' hr' hid hne
    cases hresets : request.resets with
    | true => exact resets_cases hresets
    | false =>
      obtain ⟨index, asked, draw, skipped, t, hnext, -⟩ := id hc
      have hs' := (hcounted.sound.step hnext).1
      exact absurd (hcounted.sound.base_kept hc hresets hs' hr hr' hid) hne
  · have hspared := hcounted.spared r hr hstatus o ho hrun
    cases hstate : o.state with
    | prepared => exact Or.inl rfl
    | rejected => exact Or.inr rfl
    | _ =>
      rw [hstate] at hspared
      cases hspared

/-- A worker that claims with three attempts. -/
def demoDesk : Desk where
  env := .plain
  maxAttempts := 3
  documents r := {
    runId := r.runId
    incidentId := r.incidentId
    workflowVersion := r.workflowVersion
    inputPayload := r.inputPayload
    inputSha256 := r.inputSha256
    contextSnapshot := r.contextSnapshot.getD .null
    contextSha256 := r.contextSha256
    checkpointStarted := r.checkpointStarted
    approvalPayload := .null
    answerPayload := .null
    lastError := r.lastError.elim .null fun code => .obj [("code", .str code)] }
  saved o := ⟨o.state, .null⟩
  question _ := none

/-- The first three leases expire, and the run is claimed once more. -/
def exhausted : List (Sys σ → List (Event σ)) :=
  takenOver ++ takenOver ++ takenOver

theorem retriesBounded_exhausted : ∃ s : Sys Unit,
    s.leases.map (fun lease => (lease.row.attempt, lease.recoveryOnly)) =
      [(3, true), (3, false), (2, false), (1, false)] ∧ s.RetriesBounded demoDesk := by
  obtain ⟨s, -, hs, hleases⟩ := Transition.exists_reachable (limited .plain 3) (start Unit)
    (opening ++ exhausted)
    (fun s => s.leases.map (fun lease => (lease.row.attempt, lease.recoveryOnly)) =
      [(3, true), (3, false), (2, false), (1, false)])
    (by decide +kernel)
  exact ⟨s, hleases, @Reachable.retriesBounded Unit demoDesk s hs⟩

end Sys

end IncidentAgent
