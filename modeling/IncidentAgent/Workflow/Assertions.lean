import IncidentAgent.Workflow.Graph

/-!
# What the workflow has established

Each place of the graph comes with what the nodes before it have established: the request is about
the one namespace that is allowed, the evidence is what a collection has returned, the diagnosis has
passed its checks on that evidence, the plan is valid for both, and a human was shown this very plan
and has approved it. None of these is recorded in the state as such; they are assertions about it
(`Place.Holds`), and they stay true because no later node touches what they are about
(`Json.SameOn`).
-/

namespace IncidentAgent

/-! ### Members that stay -/

/-- The state has the same members under some keys. -/
def Json.SameOn (keys : List String) (s s' : Json) : Prop := ∀ k ∈ keys, s'.get? k = s.get? k

theorem Json.SameOn.get {keys : List String} {s s' : Json} (h : s.SameOn keys s') {k : String}
    (hk : k ∈ keys) : s'.get k = s.get k := by
  rw [Json.get, Json.get, h k hk]

theorem Json.SameOn.refl (keys : List String) (s : Json) : s.SameOn keys s := fun _ _ => rfl

theorem Json.SameOn.trans {keys : List String} {s s' s'' : Json} (h : s.SameOn keys s')
    (h' : s'.SameOn keys s'') : s.SameOn keys s'' := fun k hk => (h' k hk).trans (h k hk)

theorem Json.SameOn.mono {keys keys' : List String} {s s' : Json} (h : s.SameOn keys s')
    (hkeys : keys' ⊆ keys) : s.SameOn keys' s' := fun k hk => h k (hkeys hk)

/-- The members that a collection is recorded in. -/
def collectionKeys : List String := ["incident_id", "request", "service_profile", "evidence"]

/-- The members that a diagnosis is checked on. -/
def checkKeys : List String := ["request", "service_profile", "evidence", "retrieved_runbooks"]

/-- The members that decide what may be written: they are set before a plan is approved. -/
def basisKeys : List String :=
  ["incident_id", "request", "run_id", "service_profile", "evidence", "retrieved_runbooks",
    "diagnosis", "remediation_plan", "requires_approval"]

theorem collectionKeys_subset : collectionKeys ⊆ basisKeys := by simp [collectionKeys, basisKeys]

theorem checkKeys_subset : checkKeys ⊆ basisKeys := by simp [checkKeys, basisKeys]

/-- An update leaves alone what it does not set. -/
theorem sameOn_merge {keys : List String} {s : Json} {u : Update} (hs : s.isObject = true)
    (hgrow : "errors" ∉ keys ∧ "trace" ∉ keys) (hu : ∀ m ∈ u.members, m.1 ∉ keys) :
    s.SameOn keys (merge s u) := by
  intro k hk
  rw [get?_merge hs (fun he => hgrow.1 (he ▸ hk)) (fun he => hgrow.2 (he ▸ hk))]
  have hnone : u.members.reverse.lookup k = none := by
    refine List.lookup_eq_none_iff.2 fun m hm => bne_iff_ne.2 fun he => ?_
    exact hu m (List.mem_reverse.1 hm) (he ▸ hk)
  rw [hnone]
  rfl

/-- The state that a policy reads, by the members that it is made of. -/
theorem remediationState_sameOn {s s' : Json} (h : s.SameOn checkKeys s')
    (hdiagnosis : s'.get "diagnosis" = s.get "diagnosis") :
    remediationState s' = remediationState s := by
  unfold remediationState
  rw [h.get (k := "request") (by simp [checkKeys]),
    h.get (k := "service_profile") (by simp [checkKeys]),
    h.get (k := "evidence") (by simp [checkKeys]),
    h.get (k := "retrieved_runbooks") (by simp [checkKeys]), hdiagnosis]

section SameOn

variable {env : Env} {lib : ExecutionLibrary} {s s' : Json} (h : s.SameOn basisKeys s')

include h

theorem fingerprintPayload_sameOn (incidentId : String) (plan : RemediationPlan) :
    fingerprintPayload s' incidentId plan = fingerprintPayload s incidentId plan := by
  unfold fingerprintPayload
  rw [h.get (k := "request") (by simp [basisKeys]), h.get (k := "run_id") (by simp [basisKeys]),
    h.get (k := "service_profile") (by simp [basisKeys]),
    h.get (k := "diagnosis") (by simp [basisKeys]), h "diagnosis" (by simp [basisKeys]),
    h "evidence" (by simp [basisKeys])]

/-- A request is built of the members that stay. -/
theorem buildApprovalRequest_sameOn :
    buildApprovalRequest env lib s' = buildApprovalRequest env lib s := by
  unfold buildApprovalRequest
  simp only [h.get (k := "incident_id") (by simp [basisKeys]),
    h.get (k := "remediation_plan") (by simp [basisKeys]),
    h.get (k := "requires_approval") (by simp [basisKeys]), fingerprintPayload_sameOn h]

end SameOn

/-! ### Assertions -/

namespace Place

section

variable (env : Env) (lib : WorkflowLibrary)

/-- A state in which nothing has been decided and nothing was executed. -/
structure Undecided (s : Json) : Prop where
  object : s.isObject = true
  record : s.get "approval_record" = .null
  result : s.get "action_result" = .null

/-- The request is about the namespace that is allowed. -/
structure Requested (s : Json) : Prop where
  allowed : (s.get "request").get "namespace" = .str safeNamespace

/-- **The evidence is what a collection has returned** for the service of the request. -/
structure Collected (h : Exchanges) (s : Json) : Prop extends Requested s where
  collected : ∃ request bundle id now, incidentRequest (s.get "request") = some request ∧
    (⟨.collect safeNamespace request.serviceName, .ok bundle⟩ : Σ q, Ask.Answer q) ∈ h ∧
    s.get "incident_id" = .str id ∧
    s.get "evidence" = .arr ((normalizeEvidence id (env.isoformat now) bundle.toBundle).map
      EvidenceRow.dump) ∧
    normalizeEvidence id (env.isoformat now) bundle.toBundle ≠ [] ∧
    s.get "service_profile" = bundle.serviceProfile

/-- A diagnosis has passed the checks of the program in a state. -/
structure Checked (d : Diagnosis) (s : Json) : Prop where
  references : validateDiagnosisReferences lib.toReportLibrary d (remediationState s) = .ok ⟨⟩
  assessment : validateDiagnosisAssessment lib.toPolicyLibrary d
    (remediationState s).toPolicyState = .ok ⟨⟩

/-- **The diagnosis of the state has passed its checks** on the evidence of the state. -/
structure Diagnosed (h : Exchanges) (s : Json) : Prop extends Collected env h s where
  diagnosed : ∃ d : Diagnosis, s.get "diagnosis" = d.dump lib ∧ Checked lib d s

/-- The diagnosis names a fault. -/
def NamesFault (s : Json) : Prop :=
  (s.get "diagnosis").get "fault_category" ≠ .str "unknown" ∧
    (s.get "diagnosis").get "fault_category" ≠ .str "no_fault_detected"

/-- **The plan of the state is valid** for its diagnosis and its evidence, and needs an approval. -/
structure Ready (s : Json) : Prop where
  approval : s.get "requires_approval" = .bool true
  planned : ∃ plan : RemediationPlan, s.get "remediation_plan" = plan.dump ∧
    validateRemediationPlan lib.toPolicyLibrary plan (remediationState s) = .ok plan

/-- The plan is one for a diagnosis that names a fault. -/
structure Planned (h : Exchanges) (s : Json) : Prop extends Diagnosed env lib h s, Ready lib s where
  fault : NamesFault s

/-- The state has the request that is built of it. -/
structure Awaiting (s : Json) : Prop where
  request : ∃ request, buildApprovalRequest env lib.toExecutionLibrary s = .ok request ∧
    s.get "approval_request" = request.dump

/-- **A human has approved what the state is about**: the request that is built of the state was
shown, and the answer to it approves it. -/
structure Approved (h : Exchanges) (s : Json) : Prop where
  object : s.isObject = true
  result : s.get "action_result" = .null
  phase : s.get "phase" = .str "approval_approved"
  status : s.get "approval_status" = .str "approved"
  approved : s.get "approved" = .bool true
  requested : s.get "approval_request" ≠ .null
  decided : ∃ request value decision now,
    buildApprovalRequest env lib.toExecutionLibrary s = .ok request ∧
    lib.approvalRequest (s.get "approval_request") = some request ∧
    (⟨.interrupt (approvalPayload request), value⟩ : Σ q, Ask.Answer q) ∈ h ∧
    validateApprovalDecision lib value request = .ok decision ∧ decision.approved = true ∧
    ∃ record, constructApprovalRecord lib request decision (env.isoformat now) = .ok record ∧
      s.get "approval_record" = record.dump

/-- The executor has completed what it was asked for. -/
structure Executed (h : Exchanges) (s : Json) : Prop where
  executed : ∃ state result, (⟨.execute state, .ok result⟩ : Σ q, Ask.Answer q) ∈ h ∧
    completedAction (result.get "status") = true ∧ s.get "action_result" = result

/-- The questions that may still be asked. -/
def roundsLeft (s : Json) : ℕ :=
  (2 - (pyInt ((s.get? "clarification_round").getD (.num 0))).getD 0).toNat

/-- **What holds where the graph goes on.** -/
def Holds (h : Exchanges) : Option IncidentNode → Json → Prop
  | none, _ | some .finishFailure, _ | some .skipRemediation, _ => True
  | some .validateRequest, s => Undecided s
  | some .planCollection, s | some .collectEvidence, s | some .awaitUserInput, s =>
    Undecided s ∧ Requested s
  | some .retrieveRunbooks, s | some .diagnoseIncident, s => Undecided s ∧ Collected env h s
  | some .prepareClarification, s => Undecided s ∧ Requested s ∧
    (s.get "phase" = .str "diagnosis_completed" → Diagnosed env lib h s)
  | some .planRemediation, s => Undecided s ∧ Diagnosed env lib h s ∧ NamesFault s
  | some .prepareApproval, s => Undecided s ∧ Planned env lib h s
  | some .requestHumanApproval, s => Undecided s ∧ Planned env lib h s ∧ Awaiting env lib s
  | some .executeRemediation, s => Planned env lib h s ∧ Approved env lib h s
  | some .verifyRecovery, s => Executed h s

/-- How many visits there are at most from a place on. -/
def rank : Option IncidentNode → Json → ℕ
  | none, _ => 0
  | some .finishFailure, _ | some .skipRemediation, _ | some .verifyRecovery, _ => 1
  | some .executeRemediation, _ => 2
  | some .requestHumanApproval, _ => 3
  | some .prepareApproval, _ => 4
  | some .planRemediation, _ => 5
  | some .prepareClarification, s => 6 + 5 * roundsLeft s
  | some .diagnoseIncident, s => 7 + 5 * roundsLeft s
  | some .retrieveRunbooks, s => 8 + 5 * roundsLeft s
  | some .collectEvidence, s => 9 + 5 * roundsLeft s
  | some .awaitUserInput, s => 10 + 5 * roundsLeft s
  | some .planCollection, s => 10 + 5 * roundsLeft s
  | some .validateRequest, s => 11 + 5 * roundsLeft s

/-- **What a node may ask for**, in the state in which it is visited. -/
def Asks (node : IncidentNode) (s : Json) (_ : Exchanges) : Ask → Prop
  | .now | .uuid => True
  | .collect namespaceName _ => node = .collectEvidence ∧ namespaceName = safeNamespace
  | .retrieve query => node = .retrieveRunbooks ∧ query = buildRetrievalQuery env lib s
  | .diagnose state => node = .diagnoseIncident ∧ localDiagnosis lib s = .ok none ∧
    ∃ feedback, state = callState s feedback
  | .plan state => node = .planRemediation ∧ state = s
  | .decision _ => node = .prepareClarification
  | .interrupt payload => (node = .awaitUserInput ∧ payload = s.get "question") ∨
    node = .requestHumanApproval ∧ ∃ request, expectedRequest env lib s = .ok request ∧
      payload = approvalPayload request
  | .execute state => node = .executeRemediation ∧ state = s
  | .verify state => node = .verifyRecovery ∧ state = s
  | .inquire _ => False

end

/-! ### What is asked besides, and what is set besides -/

section Later

variable {env : Env} {lib : WorkflowLibrary} {h h' : Exchanges} {s s' : Json}

theorem Requested.sameOn (hr : Requested s) (hs : s'.get "request" = s.get "request") :
    Requested s' := ⟨by rw [hs]; exact hr.allowed⟩

theorem Collected.later (hc : Collected env h s) (hh : h <:+ h')
    (hs : s.SameOn collectionKeys s') : Collected env h' s' := by
  obtain ⟨request, bundle, id, now, hrequest, hcollect, hid, hrows, hne, hprofile⟩ := hc.collected
  have hsame : s'.get "request" = s.get "request" := hs.get (by simp [collectionKeys])
  refine ⟨hc.toRequested.sameOn hsame, request, bundle, id, now, ?_, hh.subset hcollect, ?_, ?_, hne,
    ?_⟩
  · rw [hsame, hrequest]
  · rw [hs.get (by simp [collectionKeys]), hid]
  · rw [hs.get (by simp [collectionKeys]), hrows]
  · rw [hs.get (by simp [collectionKeys]), hprofile]

/-- The checks of a diagnosis do not read the diagnosis of the state. -/
theorem Checked.sameOn {d : Diagnosis} (hd : Checked lib d s) (hs : s.SameOn checkKeys s') :
    Checked lib d s' := by
  have hevidence : (remediationState s').evidence = (remediationState s).evidence := by
    simp only [remediationState]
    rw [hs.get (by simp [checkKeys])]
  have hrunbooks : (remediationState s').retrievedRunbooks =
      (remediationState s).retrievedRunbooks := by
    simp only [remediationState]
    rw [hs.get (by simp [checkKeys])]
  have hpolicy : (remediationState s').toPolicyState = (remediationState s).toPolicyState := by
    simp only [remediationState]
    rw [hs.get (k := "request") (by simp [checkKeys]),
      hs.get (k := "service_profile") (by simp [checkKeys]),
      hs.get (k := "evidence") (by simp [checkKeys])]
  refine ⟨?_, by rw [hpolicy]; exact hd.assessment⟩
  have hreferences := hd.references
  unfold validateDiagnosisReferences at hreferences ⊢
  rw [hevidence, hrunbooks]
  exact hreferences

theorem Diagnosed.later (hd : Diagnosed env lib h s) (hh : h <:+ h')
    (hs : s.SameOn basisKeys s') : Diagnosed env lib h' s' := by
  obtain ⟨d, hdump, hchecked⟩ := hd.diagnosed
  refine ⟨hd.toCollected.later hh (hs.mono collectionKeys_subset), d, ?_,
    hchecked.sameOn (hs.mono checkKeys_subset)⟩
  rw [hs.get (by simp [basisKeys]), hdump]

theorem Ready.later (hp : Ready lib s) (hs : s.SameOn basisKeys s') : Ready lib s' := by
  obtain ⟨plan, hplan, hvalid⟩ := hp.planned
  have hdiagnosis : s'.get "diagnosis" = s.get "diagnosis" := hs.get (by simp [basisKeys])
  refine ⟨?_, plan, ?_, ?_⟩
  · rw [hs.get (by simp [basisKeys]), hp.approval]
  · rw [hs.get (by simp [basisKeys]), hplan]
  · rw [remediationState_sameOn (hs.mono checkKeys_subset) hdiagnosis, hvalid]

theorem Planned.later (hp : Planned env lib h s) (hh : h <:+ h') (hs : s.SameOn basisKeys s') :
    Planned env lib h' s' := by
  refine ⟨hp.toDiagnosed.later hh hs, hp.toReady.later hs, ?_⟩
  rw [NamesFault, hs.get (k := "diagnosis") (by simp [basisKeys])]
  exact hp.fault

theorem Approved.later (ha : Approved env lib h s) (hh : h <:+ h') : Approved env lib h' s := by
  obtain ⟨request, value, decision, now, hbuilt, hstored, hasked, hrest⟩ := ha.decided
  exact ⟨ha.object, ha.result, ha.phase, ha.status, ha.approved, ha.requested, request, value,
    decision, now, hbuilt, hstored, hh.subset hasked, hrest⟩

theorem Executed.later (he : Executed h s) (hh : h <:+ h') : Executed h' s := by
  obtain ⟨state, result, hasked, hrest⟩ := he.executed
  exact ⟨state, result, hh.subset hasked, hrest⟩

/-- What is asked besides does not harm what holds. -/
theorem Holds.mono {place : Option IncidentNode} (e : Σ q, Ask.Answer q)
    (hp : Holds env lib h place s) : Holds env lib (e :: h) place s := by
  have hh : h <:+ e :: h := List.suffix_cons e h
  have hs := Json.SameOn.refl basisKeys s
  rcases place with _ | node
  · trivial
  · cases node with
    | finishFailure | skipRemediation => trivial
    | validateRequest | planCollection | collectEvidence | awaitUserInput => exact hp
    | retrieveRunbooks | diagnoseIncident =>
      exact ⟨hp.1, hp.2.later hh (hs.mono collectionKeys_subset)⟩
    | prepareClarification =>
      exact ⟨hp.1, hp.2.1, fun hphase => (hp.2.2 hphase).later hh hs⟩
    | planRemediation => exact ⟨hp.1, hp.2.1.later hh hs, hp.2.2⟩
    | prepareApproval => exact ⟨hp.1, hp.2.later hh hs⟩
    | requestHumanApproval => exact ⟨hp.1, hp.2.1.later hh hs, hp.2.2⟩
    | executeRemediation => exact ⟨hp.1.later hh hs, hp.2.later hh⟩
    | verifyRecovery => exact hp.later hh

end Later

end Place

end IncidentAgent
