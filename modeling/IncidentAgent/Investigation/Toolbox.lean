import IncidentAgent.Investigation.Decisions

/-!
# The tools of an investigation

A tool reads for a request that names a reference. The request is checked against the catalog, the
budget is asked for the call, and then the identities of the reference are read before and after what
is read for the request, so that nothing is observed of an object that was replaced in between. What
is read is redacted, and an error is a result too (`callTool`).

`ReadsFor` lists what may be read for a request about a reference. A call of a tool reads nothing
else, whatever it is answered, and its result is the one that the budget has (`keeps_callTool`).
-/

namespace IncidentAgent

/-! ### Ports -/

namespace Ports

/-- `toolbox.state`. -/
def baseline : Node Baseline := do
  let answer ← Act.call (Ask.inquire .baseline)
  Act.ofExcept answer

/-- `budget.references(refs)`. -/
def references (refs : Catalog) : Node PUnit := do
  let answer ← Act.call (Ask.inquire (.references refs))
  Act.ofExcept answer

/-- `budget.reserve("tool", …)`, with the result of a call that was made before. -/
def reserveTool (request : SampledRequest) (requestId : String) (grant : Grant) :
    Node (Option CallResult) := do
  let answer ← Act.call (Ask.inquire (.reserveTool request requestId grant))
  Act.ofExcept answer

/-- A read of the cluster. -/
def read (r : ClusterRead) : Node Json := do
  let answer ← Act.call (Ask.inquire (.read r))
  Act.ofExcept answer

/-- `datetime.now(UTC).isoformat()`. -/
def collectedAt : Node String := Act.call (Ask.inquire .collectedAt)

/-- `budget.settle(ticket, …)`. -/
def settleTool (requestId : String) (result : CallResult) : Node PUnit := do
  let answer ← Act.call (Ask.inquire (.settleTool requestId result))
  Act.ofExcept answer

end Ports

section

variable (lib : InvestigationLibrary) (scope : RunScope)

/-- `ReadOnlyToolbox(clients, budget, state)`: the catalog of the baseline. -/
def openToolbox : Node Catalog := do
  let baseline ← Ports.baseline
  let refs ← Act.ofExcept
    (catalog lib.toLibrary lib.refDigest baseline.state.toPolicyState scope.runId)
  Ports.references refs
  pure refs

/-! ### Identities -/

/-- The owner that a resource has to have. -/
def validateOwned (ref : BoundRef) (expected resource : Json) : Except Raised PUnit :=
  let metadata := resource.get "metadata"
  raiseIf (¬ (metadata.hasText "uid" ref.uid ∧
      ∃ owner ∈ (metadata.get "ownerReferences").items, owner.get "uid" = expected))
    (valueError "RESOURCE_OWNERSHIP_CHANGED")

/-- The owners of the resource of a reference are what they were. -/
def validateOwner (ref : BoundRef) : Node PUnit :=
  if ref.kind = "pod" then do
    let chain ← Ports.read (.podOwner ref.namespaceName ref.name)
    Act.ofExcept (raiseIf (¬ (chain.hasText "pod_uid" ref.uid ∧
        chain.get "deployment_uid" = ref.deploymentUid ∧
        chain.get "replica_set_uid" = ref.replicaSetUid)) (valueError "POD_OWNERSHIP_CHANGED"))
  else if ref.kind = "replica_set" then do
    let resource ← Ports.read (.replicaSet ref.namespaceName ref.name)
    Act.ofExcept (validateOwned ref ref.deploymentUid resource)
  else if ref.kind = "endpoint_slice" then do
    let resource ← Ports.read (.endpointSlice ref.namespaceName ref.name)
    Act.ofExcept (validateOwned ref ref.serviceUid resource)
  else pure ⟨⟩

/-- `validate_live`: the Service and the Deployment, if they are those of the reference. -/
def validateLive (ref : BoundRef) : Node (Json × Json) := do
  let profile ← Ports.read (.profile ref.namespaceName ref.service)
  Act.ofExcept (raiseIf (Json.str (lib.digest profile) ≠ ref.profileDigest)
    (valueError "PROFILE_CHANGED"))
  let service ← Ports.read (.service ref.namespaceName ref.service)
  let deployment ← Ports.read (.deployment ref.namespaceName ref.deployment)
  Act.ofExcept (raiseIf (¬ (service.get "uid" = ref.serviceUid ∧
      deployment.get "uid" = ref.deploymentUid ∧ deployment.get "generation" = ref.generation))
    (valueError "TARGET_CHANGED"))
  validateOwner ref
  pure (service, deployment)

/-! ### Reads -/

/-- A Deployment without the command lines of its containers. -/
def withoutCommands (deployment : Json) : Json :=
  deployment.insert "containers" (.arr ((deployment.get "containers").items.map fun container =>
    .obj (container.members.filter fun m => m.1 ∉ ["command", "args"])))

/-- An event, as it is told. -/
def eventView (event : Json) : Json :=
  .obj [("reason", event.get "reason"), ("message", event.get "message"), ("type", event.get "type")]

/-- An endpoint, as it is told. -/
def endpointView (endpoint : Json) : Json :=
  .obj [("addresses", endpoint.get "addresses"), ("conditions", endpoint.get "conditions"),
    ("target_uid", (endpoint.get "targetRef").get "uid")]

/-- `read`: a value, and whether it is only a part of what there is. -/
def readTool (request : SampledRequest) (ref : BoundRef) (service deployment : Json) :
    Node (Json × Bool) :=
  match request.tool with
  | .resourceSummary =>
    pure (.obj [("service", service), ("deployment", withoutCommands deployment)], false)
  | .deployment => pure (withoutCommands deployment, false)
  | .registeredBusiness => do
    let checks ← Ports.read (.businessChecks ref.namespaceName ref.name ref.deployment)
    pure (checks, checks.items.any fun check =>
      check.hasText "status" "unknown" || check.hasText "status" "skipped")
  | .podLogs => do
    let content ← Ports.read
      (.podLog ref.namespaceName ref.name ref.container request.previous logLines logBytes)
    let sample := sampleLogText content.toText
    pure (.str sample.1, sample.2)
  | .podEvents => do
    let events ← Ports.read (.podEvents ref.namespaceName ref.uid)
    pure (.arr (events.items.map eventView), true)
  | .replicaSet => do
    let resource ← Ports.read (.replicaSet ref.namespaceName ref.name)
    pure (.obj [("uid", (resource.get "metadata").get "uid"),
      ("replicas", (resource.get "status").get "replicas"),
      ("ready_replicas", (resource.get "status").get "readyReplicas")], false)
  | .endpointSlice => do
    let resource ← Ports.read (.endpointSlice ref.namespaceName ref.name)
    pure (.obj [("uid", (resource.get "metadata").get "uid"),
      ("endpoints", .arr ((resource.get "endpoints").items.map endpointView))], false)

/-- A read with the identities before and after it. -/
def liveRead (request : SampledRequest) (ref : BoundRef) : Node (Json × Bool) := do
  let live ← validateLive lib ref
  let value ← readTool request ref live.1 live.2
  -- The value is dropped if the target has changed while it was read.
  let _ ← validateLive lib ref
  pure value

/-! ### Calls -/

/-- The result of a call that has not read anything. -/
def nothingRead (requestId collectedAt : String) : CallResult where
  requestId := requestId
  collectedAt := collectedAt
  coverage := .unknown
  truncated := false
  errorCode := none
  text := ""
  payload := none
  payloadComplete := false
  targetChanged := false

/-- The result of a call that has read a value. The text of a log is kept as it is. -/
def valueRead (tool : InvestigationTool) (value : Json) (limited : Bool) (result : CallResult) :
    CallResult :=
  let plain := redact lib.isAlnum value
  if tool = .podLogs then
    { result with
      text := plain.toText
      payload := some plain
      truncated := limited
      coverage := .partly }
  else
    { result with
      text := lib.outputText plain
      truncated := limited && tool ≠ .podEvents
      coverage := if limited then .partly else .observed
      payload := some plain
      payloadComplete := true }

/-- The errors by which a target is known to have changed. -/
def targetErrors : List String :=
  ["PROFILE_CHANGED", "TARGET_CHANGED", "POD_OWNERSHIP_CHANGED", "RESOURCE_OWNERSHIP_CHANGED",
    "REPLICASET_RECREATED_DURING_COLLECTION"]

/-- The result of a call that has raised. -/
def raisedRead (e : Raised) (result : CallResult) : CallResult :=
  { result with
    errorCode := some (if e.status = some 401 ∨ e.status = some 403 then "ACCESS_DENIED"
      else "TOOL_READ_FAILED_OR_TARGET_CHANGED")
    targetChanged := e.isRejection && lib.errorText e ∈ targetErrors }

/-- The result of a call, by what came of the read. -/
def resultOf (tool : InvestigationTool) (result : CallResult) :
    Except Raised (Json × Bool) → CallResult
  | .ok value => valueRead lib tool value.1 value.2 result
  | .error e => raisedRead lib e result

/-- A call that the budget does not have yet. -/
def freshCall (request : SampledRequest) (ref : BoundRef) (requestId : String) :
    Node CallResult := do
  let now ← Ports.collectedAt
  -- A read that has failed is settled too, so that it is not paid for again.
  let outcome ← Act.attempt (liveRead lib request ref)
  let result := resultOf lib request.tool (nothingRead requestId now) outcome
  Ports.settleTool requestId result
  pure result

/-- The reference of a request, if it is one of the catalog and of the kind of its tool. -/
def resolveRequest (refs : Catalog) (request : SampledRequest) : Except Raised BoundRef := do
  let _ ← validateRequest (lib.sampling.within refs scope.runId) request
  rowOr (refs.lookup request.resourceRef) (boundaryError "TOOL_RESOURCE_NOT_ALLOWED")

/-- `call`. -/
def callTool (refs : Catalog) (request : SampledRequest) (requestId : String) (grant : Grant) :
    Node CallResult := do
  let ref ← Act.ofExcept (resolveRequest lib scope refs request)
  let saved ← Ports.reserveTool request.executed requestId grant
  match saved with
  | some result => pure result
  | none => freshCall lib request.executed ref requestId

end

/-! ### What a tool may read -/

/-- **What may be read for a request about a reference**: the objects that the reference is bound to,
and its own one with the tool of the request. -/
inductive ReadsFor (request : SampledRequest) (ref : BoundRef) : ClusterRead → Prop
  | profile : ReadsFor request ref (.profile ref.namespaceName ref.service)
  | service : ReadsFor request ref (.service ref.namespaceName ref.service)
  | deployment : ReadsFor request ref (.deployment ref.namespaceName ref.deployment)
  | podOwner (kind : ref.kind = "pod") : ReadsFor request ref (.podOwner ref.namespaceName ref.name)
  | replicaSet (kind : ref.kind = "replica_set") :
    ReadsFor request ref (.replicaSet ref.namespaceName ref.name)
  | endpointSlice (kind : ref.kind = "endpoint_slice") :
    ReadsFor request ref (.endpointSlice ref.namespaceName ref.name)
  | podLog (tool : request.tool = .podLogs) :
    ReadsFor request ref
      (.podLog ref.namespaceName ref.name ref.container request.previous logLines logBytes)
  | podEvents (tool : request.tool = .podEvents) :
    ReadsFor request ref (.podEvents ref.namespaceName ref.uid)
  | businessChecks (tool : request.tool = .registeredBusiness) :
    ReadsFor request ref (.businessChecks ref.namespaceName ref.name ref.deployment)

/-- A toolbox that was opened: its catalog is the one of a baseline that was given. -/
structure Opened (lib : InvestigationLibrary) (scope : RunScope) (h : Exchanges) (refs : Catalog) :
    Prop where
  opened : ∃ baseline, (⟨.inquire .baseline, .ok baseline⟩ : Σ q, Ask.Answer q) ∈ h ∧
    catalog lib.toLibrary lib.refDigest baseline.state.toPolicyState scope.runId = .ok refs

/-- The budget has a result for a call: it was saved, or it is settled with it. -/
structure Called (h : Exchanges) (request : SampledRequest) (requestId : String)
    (result : CallResult) : Prop where
  called : (∃ grant, (⟨.inquire (.reserveTool request.executed requestId grant), .ok (some result)⟩ :
      Σ q, Ask.Answer q) ∈ h) ∨
    (⟨.inquire (.settleTool requestId result), .ok ⟨⟩⟩ : Σ q, Ask.Answer q) ∈ h

section

variable {lib : InvestigationLibrary} {scope : RunScope} {rule : Exchanges → Ask → Prop}
  {h h' : Exchanges} {request : SampledRequest} {ref : BoundRef} {refs : Catalog}

theorem Opened.later (ho : Opened lib scope h refs) (hh : h <:+ h') : Opened lib scope h' refs := by
  obtain ⟨baseline, hgiven, hcatalog⟩ := ho.opened
  exact ⟨baseline, hh.subset hgiven, hcatalog⟩

theorem Called.later {requestId : String} {result : CallResult}
    (hc : Called h request requestId result) (hh : h <:+ h') :
    Called h' request requestId result := by
  rcases hc.called with ⟨grant, hsaved⟩ | hsettled
  · exact ⟨Or.inl ⟨grant, hh.subset hsaved⟩⟩
  · exact ⟨Or.inr (hh.subset hsettled)⟩

/-- What is read for a reference is in its namespace. -/
theorem ReadsFor.namespaceName {r : ClusterRead} (hr : ReadsFor request ref r) :
    r.namespaceName = ref.namespaceName := by
  cases hr <;> rfl

theorem keeps_openToolbox (hbaseline : ∀ h, rule h (.inquire .baseline))
    (hreferences : ∀ h refs, rule h (.inquire (.references refs))) :
    (openToolbox lib scope).Keeps rule (fun refs h' => h <:+ h' ∧ Opened lib scope h' refs) h := by
  refine Act.Keeps.suffix (Act.keeps_bind (Act.keeps_answer (hbaseline h) ?_))
  rintro _ baseline rfl
  refine Act.keeps_bind (Act.keeps_ofExcept fun refs hrefs => Act.keeps_bind ?_)
  refine Act.keeps_answer (hreferences _ refs) ?_
  rintro _ ⟨⟩ rfl
  exact Act.keeps_pure ⟨baseline, List.mem_cons_of_mem _ List.mem_cons_self, hrefs⟩

section Reads

variable (hread : ∀ h r, ReadsFor request ref r → rule h (.inquire (.read r)))

include hread

/-- A read that is allowed, whatever is made of it. -/
theorem keeps_read {α : Type} {r : ClusterRead} (hr : ReadsFor request ref r) {f : Json → Node α}
    {post : α → Exchanges → Prop} (hf : ∀ v h', (f v).Keeps rule post h') :
    (Ports.read r >>= f).Keeps rule post h := by
  refine Act.keeps_bind (Act.keeps_answer (hread h r hr) ?_)
  rintro _ v rfl
  exact hf v _

theorem keeps_validateOwner : (validateOwner ref).Keeps rule (fun _ _ => True) h := by
  have hcheck : ∀ (x : Except Raised PUnit) (h' : Exchanges),
      (Act.ofExcept x : Node PUnit).Keeps rule (fun _ _ => True) h' :=
    fun x h' => Act.keeps_ofExcept fun _ _ => trivial
  refine Act.keeps_ite (fun hpod => keeps_read hread (.podOwner hpod) fun _ _ => hcheck _ _)
    fun _ => ?_
  refine Act.keeps_ite (fun hset => keeps_read hread (.replicaSet hset) fun _ _ => hcheck _ _)
    fun _ => ?_
  exact Act.keeps_ite (fun hslice => keeps_read hread (.endpointSlice hslice) fun _ _ => hcheck _ _)
    fun _ => Act.keeps_pure trivial

theorem keeps_validateLive : (validateLive lib ref).Keeps rule (fun _ _ => True) h := by
  refine keeps_read hread .profile fun profile h₁ => ?_
  refine Act.keeps_bind (Act.keeps_ofExcept fun _ _ => ?_)
  refine keeps_read hread .service fun service h₂ => ?_
  refine keeps_read hread .deployment fun deployment h₃ => ?_
  refine Act.keeps_bind (Act.keeps_ofExcept fun _ _ => ?_)
  exact Act.keeps_bind ((keeps_validateOwner hread).mono fun _ _ _ => Act.keeps_pure trivial)

/-- A tool reads the object of its reference, of the kind that it is for. -/
theorem keeps_readTool (hkind : ref.kind = request.tool.kind) (service deployment : Json) :
    (readTool request ref service deployment).Keeps rule (fun _ _ => True) h := by
  unfold readTool
  cases htool : request.tool with
  -- These two are made of what `validateLive` has read.
  | resourceSummary | deployment => exact Act.keeps_pure trivial
  | registeredBusiness =>
    exact keeps_read hread (.businessChecks htool) fun _ _ => Act.keeps_pure trivial
  | podLogs => exact keeps_read hread (.podLog htool) fun _ _ => Act.keeps_pure trivial
  | podEvents => exact keeps_read hread (.podEvents htool) fun _ _ => Act.keeps_pure trivial
  | replicaSet =>
    rw [htool] at hkind
    exact keeps_read hread (.replicaSet hkind) fun _ _ => Act.keeps_pure trivial
  | endpointSlice =>
    rw [htool] at hkind
    exact keeps_read hread (.endpointSlice hkind) fun _ _ => Act.keeps_pure trivial

theorem keeps_liveRead (hkind : ref.kind = request.tool.kind) :
    (liveRead lib request ref).Keeps rule (fun _ _ => True) h := by
  refine Act.keeps_bind ((keeps_validateLive hread).mono fun live h₁ _ => ?_)
  refine Act.keeps_bind ((keeps_readTool hread hkind live.1 live.2).mono fun value h₂ _ => ?_)
  exact Act.keeps_bind ((keeps_validateLive hread).mono fun _ _ _ => Act.keeps_pure trivial)

/-- A call that is made anew reads what it may, and is settled with its result. -/
theorem keeps_freshCall (hkind : ref.kind = request.tool.kind) {requestId : String}
    (hnow : ∀ h, rule h (.inquire .collectedAt))
    (hsettle : ∀ h result, rule h (.inquire (.settleTool requestId result))) :
    (freshCall lib request ref requestId).Keeps rule (fun result h' =>
      (⟨.inquire (.settleTool requestId result), .ok ⟨⟩⟩ : Σ q, Ask.Answer q) ∈ h') h := by
  refine Act.keeps_bind (Act.keeps_call (hnow h) fun now => ?_)
  have hsettled : ∀ outcome h', (Ports.settleTool requestId
      (resultOf lib request.tool (nothingRead requestId now) outcome) >>= fun _ =>
        pure (resultOf lib request.tool (nothingRead requestId now) outcome)).Keeps rule
      (fun result h' =>
        (⟨.inquire (.settleTool requestId result), .ok ⟨⟩⟩ : Σ q, Ask.Answer q) ∈ h') h' := by
    intro outcome h'
    refine Act.keeps_bind (Act.keeps_answer (hsettle h' _) ?_)
    rintro _ ⟨⟩ rfl
    exact Act.keeps_pure List.mem_cons_self
  refine Act.keeps_bind (Act.keeps_attempt ?_ fun e h' _ => hsettled _ _)
  exact (keeps_liveRead hread hkind).mono fun value h' _ => hsettled _ _

end Reads

/-- A request that is bound refers to the catalog. -/
theorem resolveRequest_eq_ok (h : resolveRequest lib scope refs request = .ok ref) :
    request.Refers refs ref := by
  simp only [resolveRequest, bind_eq_ok, rowOr_eq_ok] at h
  obtain ⟨_, hvalid, hknown⟩ := h
  obtain ⟨bound, hrefers, -⟩ := refers_of_validateRequest hvalid
  obtain rfl := Option.some.inj (hrefers.known.symm.trans hknown)
  exact hrefers

/-- **A call of a tool reads only what its request may read**, after the budget has reserved it, and
its result is one that the budget has. -/
theorem keeps_callTool {requestId : String} {grant : Grant}
    (hreserve : rule h (.inquire (.reserveTool request.executed requestId grant)))
    (hmade : ∀ ref, request.Refers refs ref → ∀ h',
      (⟨.inquire (.reserveTool request.executed requestId grant), .ok none⟩ :: h : Exchanges) <:+
        h' →
      (∀ r, ReadsFor request.executed ref r → rule h' (.inquire (.read r))) ∧
        rule h' (.inquire .collectedAt) ∧
        ∀ result, rule h' (.inquire (.settleTool requestId result))) :
    (callTool lib scope refs request requestId grant).Keeps rule
      (fun result h' => Called h' request requestId result ∧ ∃ ref, request.Refers refs ref) h := by
  refine Act.keeps_bind (Act.keeps_ofExcept fun ref hbound => ?_)
  have hrefers := resolveRequest_eq_ok hbound
  refine Act.keeps_bind (Act.keeps_answer hreserve ?_)
  rintro _ saved rfl
  cases saved with
  | some result => exact Act.keeps_pure ⟨⟨Or.inl ⟨grant, List.mem_cons_self⟩⟩, ref, hrefers⟩
  | none =>
    have hkind : ref.kind = request.executed.tool.kind := by rw [executed_tool, hrefers.kind]
    -- What is asked from here on is asked after the reservation.
    refine Act.Keeps.onward ((keeps_freshCall (fun h' r hr hh => (hmade ref hrefers h' hh).1 r hr)
      hkind (fun h' hh => (hmade ref hrefers h' hh).2.1) fun h' result hh =>
        (hmade ref hrefers h' hh).2.2 result).mono fun result h' hsettled => ?_)
    exact ⟨⟨Or.inr hsettled⟩, ref, hrefers⟩

end

end IncidentAgent
