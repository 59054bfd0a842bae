import IncidentAgent.Investigation.Endings

/-!
# Batches

A decision to collect has a batch of requests. The budget grants all of them before the first one is
read, and then they are read one after another (`collectBatch`). What the tools return is added to the
observations, and told to the model with the step. A batch ends early when the target of a reference
has changed under it, or when something is refused: what was observed is kept, and the investigation
is handed over.

`Batch.Allows` lists what a batch may ask for: a read is one that a request of the batch may make of
its reference, under a grant, after the call was reserved (`keeps_collectBatch`). With what a catalog
is bound to, this confines a batch to the registered Service and Deployment and to what belongs to
them, in the namespace that is allowed (`collectBatch_confined`).
-/

namespace IncidentAgent

/-! ### States -/

/-- What `collect` reads of the state of an investigation. -/
structure Batch where
  workflowVersion : String
  baseline : Baseline
  observations : List SavedRow
  history : List StepRecord
  step : ℕ
  requests : List SampledRequest
  resampleReason : Option String
  answers : List AcceptedAnswer
  deriving DecidableEq, Inhabited

/-- `(request, request_id, sampling)`: a request under its grant. -/
structure GrantedRequest where
  request : SampledRequest
  requestId : String
  grant : Grant
  deriving DecidableEq, Inhabited

/-- What `collect` updates. -/
inductive BatchUpdate
  | investigating (observations : List SavedRow) (history : List StepRecord)
  | finished (observations : List SavedRow) (output : Output)
  deriving DecidableEq

/-- `update["observations"]`. -/
def BatchUpdate.observations : BatchUpdate → List SavedRow
  | .investigating observations _ | .finished observations _ => observations

/-- `f"{prefix}:tool:{state['step']}:{index}"`. -/
def toolRequestId (step index : ℕ) : String :=
  "6b2:tool:" ++ toString step ++ ":" ++ toString index

/-- `authorize_sample(budget, toolbox, request, …)`. -/
def Ports.authorize (request : SampledRequest) (requestId : String) (reason : Option String)
    (answers : List AcceptedAnswer) : Node Grant := do
  let answer ← Act.call (Ask.inquire (.authorize request requestId reason answers))
  Act.ofExcept answer

/-! ### Collecting -/

/-- `scheduled`, from the request of an index on. -/
def scheduleBatch (batch : Batch) : ℕ → List SampledRequest → Node (List GrantedRequest)
  | _, [] => pure []
  | index, request :: rest => do
    let grant ← Ports.authorize request (toolRequestId batch.step index) batch.resampleReason
      batch.answers
    let later ← scheduleBatch batch (index + 1) rest
    pure (⟨request, toolRequestId batch.step index, grant⟩ :: later)

/-- What a tool has brought, as it is told. -/
def GrantedRequest.told (s : GrantedRequest) (result : CallResult) (rows : List SavedRow) :
    StepResult where
  tool := s.request.tool
  coverage := result.coverage
  errorCode := result.errorCode
  evidenceIds := rows.map fun row => row.evidenceId
  sampling := s.grant

/-- `history[-1]["results"] = results`. -/
def recordResults (history : List StepRecord) (results : List StepResult) :
    Except Raised (List StepRecord) :=
  (rowOr history.getLast? ⟨"IndexError", none, none⟩).map fun last =>
    history.dropLast ++ [{ last with results := some results }]

section

variable (lib : InvestigationLibrary) (scope : RunScope)

/-- The investigation is handed over, with what was observed. -/
def handOver (batch : Batch) (observations : List SavedRow) (code : String) : Node BatchUpdate := do
  let output ← Act.ofExcept
    (handoff lib (batch.baseline.current lib.sampling.instant observations) code [])
  pure (.finished observations output)

/-- `except (BudgetExceeded, IncompleteRequest, ValueError)`. -/
def interruptBatch (batch : Batch) (observations : List SavedRow) (e : Raised) :
    Node BatchUpdate :=
  if e.isInterruption then
    handOver lib batch observations (String.ofList ((lib.errorText e).toList.take 200))
  else throw e

/-- One request is called, and its result is adapted to rows. -/
def collectRequest (refs : Catalog) (s : GrantedRequest) : Node (CallResult × List SavedRow) := do
  let result ← callTool lib scope refs s.request s.requestId s.grant
  let ref ← Act.ofExcept (rowOr (refs.lookup s.request.resourceRef) keyError)
  pure (result, adaptRows lib.evidenceDigest result.toToolResult s.request.toToolRequest
    ref.toToolRef)

/-- The requests that are left, after the observations and the results so far. -/
def readBatch (refs : Catalog) (batch : Batch) :
    List GrantedRequest → List SavedRow → List StepResult → Node BatchUpdate
  | [], observations, results => do
    let history ← Act.ofExcept (recordResults batch.history results)
    pure (.investigating observations history)
  | s :: rest, observations, results => do
    let outcome ← Act.attempt (collectRequest lib scope refs s)
    match outcome with
    -- What was observed before the error is kept, the results of the step are not.
    | .error e => interruptBatch lib batch observations e
    | .ok one =>
      if one.1.targetChanged then
        handOver lib batch (addRows observations one.2) (one.1.errorCode.getD "")
      else readBatch refs batch rest (addRows observations one.2) (results ++ [s.told one.1 one.2])

/-- `collect`. -/
def collectBatch (refs : Catalog) (batch : Batch) : Node BatchUpdate := do
  Act.ofExcept (raiseIf (batch.workflowVersion ≠ investigationWorkflow)
    (valueError "INVESTIGATION_WORKFLOW_VERSION_CHANGED"))
  let scheduled ← Act.attempt (scheduleBatch batch 0 batch.requests)
  match scheduled with
  | .error e => interruptBatch lib batch batch.observations e
  | .ok granted => readBatch lib scope refs batch granted batch.observations []

end

/-! ### What a batch may ask for -/

namespace Batch

variable (batch : Batch)

/-- A request of the batch, under the grant that the budget has given to it. -/
structure Grants (h : Exchanges) (s : GrantedRequest) : Prop where
  requested : ∃ index, batch.requests[index]? = some s.request ∧
    s.requestId = toolRequestId batch.step index
  granted : (⟨.inquire (.authorize s.request s.requestId batch.resampleReason batch.answers),
    .ok s.grant⟩ : Σ q, Ask.Answer q) ∈ h

/-- Every request of the batch has its grant. -/
def AllGranted (h : Exchanges) : Prop :=
  ∀ index request, batch.requests[index]? = some request →
    ∃ s, batch.Grants h s ∧ s.request = request ∧ s.requestId = toolRequestId batch.step index

/-- The budget has reserved the call of a request, which was not made before. -/
def Reserved (h : Exchanges) (s : GrantedRequest) : Prop :=
  (⟨.inquire (.reserveTool s.request.executed s.requestId s.grant), .ok none⟩ :
    Σ q, Ask.Answer q) ∈ h

/-- **What a batch may ask for**, with the references of a catalog. -/
inductive Allows (refs : Catalog) (h : Exchanges) : Ask → Prop
  | authorize {index : ℕ} {request : SampledRequest}
      (requested : batch.requests[index]? = some request) :
    Allows refs h (.inquire (.authorize request (toolRequestId batch.step index)
      batch.resampleReason batch.answers))
  /-- No call is reserved before all requests have their grants. -/
  | reserve {s : GrantedRequest} (all : batch.AllGranted h) (granted : batch.Grants h s) :
    Allows refs h (.inquire (.reserveTool s.request.executed s.requestId s.grant))
  /-- What is read is read for a granted request that was reserved. -/
  | read {s : GrantedRequest} {ref : BoundRef} {r : ClusterRead} (all : batch.AllGranted h)
      (granted : batch.Grants h s) (reserved : Reserved h s) (refers : s.request.Refers refs ref)
      (reads : ReadsFor s.request.executed ref r) : Allows refs h (.inquire (.read r))
  | collectedAt : Allows refs h (.inquire .collectedAt)
  | settle {s : GrantedRequest} {result : CallResult} (granted : batch.Grants h s)
      (reserved : Reserved h s) : Allows refs h (.inquire (.settleTool s.requestId result))

/-- A row is adapted from the result that the budget has for a granted request. -/
def Observed (lib : InvestigationLibrary) (refs : Catalog) (h : Exchanges) (row : SavedRow) : Prop :=
  ∃ s result ref, batch.Grants h s ∧ Called h s.request s.requestId result ∧
    s.request.Refers refs ref ∧ row ∈ adaptRows lib.evidenceDigest result.toToolResult
      s.request.toToolRequest ref.toToolRef

/-- Every row was there before, or was observed for the batch. -/
def Accounted (lib : InvestigationLibrary) (refs : Catalog) (h : Exchanges) (rows : List SavedRow) :
    Prop :=
  ∀ row ∈ rows, row ∈ batch.observations ∨ batch.Observed lib refs h row

/-- What an update of a batch is: what it adds was observed, and it ends with a handover only. -/
structure Updates (lib : InvestigationLibrary) (refs : Catalog) (h : Exchanges) (u : BatchUpdate) :
    Prop where
  observed : batch.Accounted lib refs h u.observations
  ended : ∀ observations output, u = .finished observations output →
    ∃ code facts ids failures, output = .handoff code facts ids failures

end Batch

section

variable {lib : InvestigationLibrary} {scope : RunScope} {refs : Catalog} {batch : Batch}
  {h h' : Exchanges} {s : GrantedRequest} {observations : List SavedRow}

theorem Batch.Grants.later (hs : batch.Grants h s) (hh : h <:+ h') : batch.Grants h' s :=
  ⟨hs.requested, hh.subset hs.granted⟩

theorem Batch.AllGranted.later (hall : batch.AllGranted h) (hh : h <:+ h') : batch.AllGranted h' := by
  intro index request hrequest
  obtain ⟨s, hs, hsame⟩ := hall index request hrequest
  exact ⟨s, hs.later hh, hsame⟩

theorem Batch.Observed.later {row : SavedRow} (ho : batch.Observed lib refs h row) (hh : h <:+ h') :
    batch.Observed lib refs h' row := by
  obtain ⟨s, result, ref, hs, hcalled, hrefers, hrow⟩ := ho
  exact ⟨s, result, ref, hs.later hh, hcalled.later hh, hrefers, hrow⟩

theorem Batch.Accounted.later (ha : batch.Accounted lib refs h observations) (hh : h <:+ h') :
    batch.Accounted lib refs h' observations := fun row hrow =>
  (ha row hrow).imp_right fun ho => ho.later hh

/-- Rows that were observed may be added. -/
theorem Batch.Accounted.add {rows : List SavedRow} (ha : batch.Accounted lib refs h observations)
    (hrows : ∀ row ∈ rows, batch.Observed lib refs h row) :
    batch.Accounted lib refs h (addRows observations rows) := fun row hrow =>
  (mem_addRows hrow).elim (ha row) fun hnew => Or.inr (hrows row hnew)

/-- All requests are granted when they are scheduled. -/
theorem keeps_scheduleBatch {requests : List SampledRequest} {index : ℕ}
    (hrequests : batch.requests.drop index = requests) :
    (scheduleBatch batch index requests).Keeps (batch.Allows refs)
      (fun granted h' => (∀ s ∈ granted, batch.Grants h' s) ∧
        ∀ i request, requests[i]? = some request → ∃ s ∈ granted, s.request = request ∧
          s.requestId = toolRequestId batch.step (index + i)) h := by
  induction requests generalizing index h with
  | nil =>
    refine Act.keeps_pure ⟨fun s hs => (List.not_mem_nil hs).elim, fun i request hi => ?_⟩
    simp at hi
  | cons request rest ih =>
    have hrequest : batch.requests[index]? = some request := by
      rw [← Nat.add_zero index, ← List.getElem?_drop, hrequests]
      rfl
    have hrest : batch.requests.drop (index + 1) = rest := by
      rw [← List.tail_drop, hrequests, List.tail_cons]
    refine Act.keeps_bind (Act.keeps_answer (.authorize hrequest) ?_)
    rintro _ grant rfl
    refine Act.keeps_bind ((ih hrest).suffix.mono fun later h₁ hlater => Act.keeps_pure ⟨?_, ?_⟩)
    · intro s hs
      rcases List.mem_cons.1 hs with rfl | hs
      · exact ⟨⟨index, hrequest, rfl⟩, hlater.1.subset List.mem_cons_self⟩
      · exact hlater.2.1 s hs
    · intro i asked hi
      cases i with
      | zero => exact ⟨_, List.mem_cons_self, Option.some.inj hi, rfl⟩
      | succ i =>
        obtain ⟨s, hs, hsame, hid⟩ := hlater.2.2 i asked hi
        refine ⟨s, List.mem_cons_of_mem _ hs, hsame, ?_⟩
        rw [hid, Nat.add_assoc, Nat.add_comm 1 i]

/-- A granted request is called within the rule of its batch. -/
theorem keeps_collectRequest (hall : batch.AllGranted h) (hs : batch.Grants h s) :
    (collectRequest lib scope refs s).Keeps (batch.Allows refs)
      (fun one h' => ∀ row ∈ one.2, batch.Observed lib refs h' row) h := by
  refine Act.keeps_bind ((keeps_callTool (.reserve hall hs) ?_).suffix.mono
    fun result h₁ hcalled => ?_)
  · intro ref hrefers h' hlater
    have hh := (List.suffix_cons _ _).trans hlater
    have hreserved : Batch.Reserved h' s := hlater.subset List.mem_cons_self
    exact ⟨fun r hr => .read (hall.later hh) (hs.later hh) hreserved hrefers hr, .collectedAt,
      fun result => .settle (hs.later hh) hreserved⟩
  · refine Act.keeps_bind (Act.keeps_ofExcept fun ref href => Act.keeps_pure fun row hrow => ?_)
    obtain ⟨hlater, hresult, ref', hrefers⟩ := hcalled
    obtain rfl := Option.some.inj (hrefers.known.symm.trans (rowOr_eq_ok.1 href))
    exact ⟨s, result, ref', hs.later hlater, hresult, hrefers, hrow⟩

theorem handoff_eq_ok {current : Current} {code : String} {failures : List Json} {output : Output}
    (ho : handoff lib current code failures = .ok output) :
    ∃ code facts ids failures, output = .handoff code facts ids failures := by
  simp only [handoff, bind_eq_ok, pure_eq_ok] at ho
  obtain ⟨facts, -, rfl⟩ := ho
  exact ⟨_, _, _, _, rfl⟩

theorem Batch.Accounted.updates {output : Output} (ha : batch.Accounted lib refs h observations)
    (ho : ∃ code facts ids failures, output = .handoff code facts ids failures) :
    batch.Updates lib refs h (.finished observations output) := by
  refine ⟨ha, ?_⟩
  rintro _ _ ⟨⟩
  exact ho

theorem keeps_handOver {code : String} {rule : Exchanges → Ask → Prop}
    (ha : batch.Accounted lib refs h observations) :
    (handOver lib batch observations code).Keeps rule
      (fun update h' => batch.Updates lib refs h' update) h :=
  Act.keeps_bind (Act.keeps_ofExcept fun _ ho => Act.keeps_pure (ha.updates (handoff_eq_ok ho)))

theorem keeps_interruptBatch {e : Raised} {rule : Exchanges → Ask → Prop}
    (ha : batch.Accounted lib refs h observations) :
    (interruptBatch lib batch observations e).Keeps rule
      (fun update h' => batch.Updates lib refs h' update) h :=
  Act.keeps_ite (fun _ => keeps_handOver ha) fun _ => Act.keeps_throw e

/-- Whatever is left of a batch keeps to its rule, and observes only for it. -/
theorem keeps_readBatch {granted : List GrantedRequest} {results : List StepResult}
    (hall : batch.AllGranted h) (hgranted : ∀ s ∈ granted, batch.Grants h s)
    (hrows : batch.Accounted lib refs h observations) :
    (readBatch lib scope refs batch granted observations results).Keeps (batch.Allows refs)
      (fun update h' => batch.Updates lib refs h' update) h := by
  -- Over the requests that are left: the observations so far are accounted for.
  induction granted generalizing observations results h with
  | nil =>
    refine Act.keeps_bind (Act.keeps_ofExcept fun history _ => Act.keeps_pure ⟨hrows, ?_⟩)
    rintro _ _ ⟨⟩
  | cons s rest ih =>
    refine Act.keeps_bind (Act.keeps_attempt ?_ fun e h' hh =>
      keeps_interruptBatch (hrows.later hh))
    refine (keeps_collectRequest hall (hgranted s List.mem_cons_self)).suffix.mono ?_
    intro one h₁ hone
    have hadded := (hrows.later hone.1).add hone.2
    refine Act.keeps_ite (fun _ => keeps_handOver hadded) fun _ => ?_
    exact ih (hall.later hone.1)
      (fun s' hs' => (hgranted s' (List.mem_cons_of_mem _ hs')).later hone.1) hadded

/-- **A batch keeps to its rule**, and what it observes was observed for one of its requests. -/
theorem keeps_collectBatch :
    (collectBatch lib scope refs batch).Keeps (batch.Allows refs)
      (fun update h' => batch.Updates lib refs h' update) h := by
  have hbefore : ∀ h', batch.Accounted lib refs h' batch.observations := fun _ _ => Or.inl
  refine Act.keeps_bind (Act.keeps_ofExcept fun _ _ => ?_)
  refine Act.keeps_bind (Act.keeps_attempt ?_ fun e h' _ =>
    keeps_interruptBatch (hbefore h'))
  refine (keeps_scheduleBatch rfl).mono fun granted h₁ hgranted => ?_
  refine keeps_readBatch ?_ hgranted.1 (hbefore h₁)
  -- The grants are those of the requests, counted from the first one.
  intro index request hrequest
  obtain ⟨s, hs, hsame, hid⟩ := hgranted.2 index request hrequest
  exact ⟨s, hgranted.1 s hs, hsame, by rw [hid, Nat.zero_add]⟩

end

/-! ### Confinement -/

namespace Batch

variable (batch : Batch) (lib : InvestigationLibrary) (scope : RunScope)

/-- What is asked for by a process that opens its tools for a batch. -/
inductive Asks (h : Exchanges) : Ask → Prop
  | baseline : Asks h (.inquire .baseline)
  | references (refs : Catalog) : Asks h (.inquire (.references refs))
  | batch {refs : Catalog} {q : Ask} (opened : Opened lib scope h refs)
      (allowed : batch.Allows refs h q) : Asks h q

/-- **A read is confined** to what belongs to the registered Service and Deployment, as the baseline
shows them, and to what its request may read of it. -/
structure Confined (h : Exchanges) (r : ClusterRead) : Prop where
  namespaceName : r.namespaceName = safeNamespace
  all : batch.AllGranted h
  bound : ∃ baseline s ref,
    (⟨.inquire .baseline, .ok baseline⟩ : Σ q, Ask.Answer q) ∈ h ∧ batch.Grants h s ∧
    Reserved h s ∧ Bound lib.toLibrary baseline.state.toPolicyState ref ∧
    ref.kind = s.request.tool.kind ∧ ReadsFor s.request.executed ref r

end Batch

section

variable {batch : Batch} {lib : InvestigationLibrary} {scope : RunScope} {h : Exchanges}

theorem Batch.Asks.confined {r : ClusterRead} (hasks : batch.Asks lib scope h (.inquire (.read r))) :
    batch.Confined lib h r := by
  cases hasks with
  | batch opened allowed =>
    cases allowed with
    | read all granted reserved refers reads =>
      obtain ⟨baseline, hgiven, hcatalog⟩ := opened.opened
      have hbound := catalog_bound hcatalog refers.known
      exact ⟨reads.namespaceName.trans hbound.allowed, all, baseline, _, _, hgiven, granted,
        reserved, hbound, refers.kind, reads⟩

/-- A process opens its tools, and collects a batch. -/
theorem keeps_openedBatch :
    (openToolbox lib scope >>= fun refs => collectBatch lib scope refs batch).Keeps
      (batch.Asks lib scope) (fun update h' => h <:+ h' ∧ ∃ refs, Opened lib scope h' refs ∧
        batch.Updates lib refs h' update) h := by
  refine Act.Keeps.suffix (Act.keeps_bind ((keeps_openToolbox (fun _ => .baseline) fun _ refs =>
    .references refs).mono fun refs h₁ hopened => ?_))
  have hbatch : (collectBatch lib scope refs batch).Keeps (batch.Asks lib scope)
      (fun update h' => batch.Updates lib refs h' update) h₁ :=
    keeps_collectBatch.allow fun h' q hh hq => .batch (hopened.2.later hh) hq
  exact hbatch.suffix.mono fun update h' hupdate =>
    ⟨refs, hopened.2.later hupdate.1, hupdate.2⟩

/-- **A batch is confined**: in every run of a process that opens its tools and collects a batch,
whatever it is answered, only the tools and the budget are asked, every read is confined, and every
row that is added was observed for a granted request. -/
theorem collectBatch_confined (lib : InvestigationLibrary) (scope : RunScope) (batch : Batch)
    (h : Exchanges) :
    (openToolbox lib scope >>= fun refs => collectBatch lib scope refs batch).Keeps
      (fun h q => batch.Asks lib scope h q ∧
        ∀ r, q = .inquire (.read r) → batch.Confined lib h r)
      (fun update h' => ∃ refs, Opened lib scope h' refs ∧
        batch.Accounted lib refs h' update.observations) h := by
  have hrun : (openToolbox lib scope >>= fun refs => collectBatch lib scope refs batch).Keeps
      (batch.Asks lib scope) (fun update h' => ∃ refs, Opened lib scope h' refs ∧
        batch.Accounted lib refs h' update.observations) h :=
    keeps_openedBatch.mono fun update h' hupdate =>
      hupdate.2.imp fun refs hrefs => ⟨hrefs.1, hrefs.2.observed⟩
  refine hrun.allow fun h' q _ hasks => ⟨hasks, ?_⟩
  rintro r rfl
  exact hasks.confined

end

end IncidentAgent
