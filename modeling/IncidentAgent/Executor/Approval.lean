import IncidentAgent.Executor.Authorization
import IncidentAgent.Policy.WriteGate

/-!
# What an approval authorizes

The fingerprint of a request for approval has the members that a human was shown, some of them
only when the state has them. As far as digests tell documents apart, two fingerprints of one
digest have the same members (`SameBasis`), and an authorization is granted only where the
request can be rebuilt. So a request and its record authorize no state but the one that the
request was built on, in all that was shown (`approval_binds`).
-/

namespace IncidentAgent

/-- `create_approval_record`, at a moment. -/
def createApprovalRecord (request : ApprovalRequest) (decision : ApprovalDecision)
    (decidedAt : String) : ApprovalRecord where
  approvalId := request.approvalId
  incidentId := request.incidentId
  action := request.plan.action
  approved := decision.approved
  approver := decision.approver
  comment := decision.comment
  decidedAt := decidedAt
  planRevision := request.planRevision
  approvalRevision := request.approvalRevision

/-- A member that is not there, or `null`, or empty. -/
def Json.blank (v : Json) : Prop := v.truthy = false

/-- **Two states that a human was shown as one.** Values are compared in their canonical form,
whatever the order of the members of their objects. -/
structure SameBasis (lib : ExecutionLibrary) (s s' : Json) : Prop where
  incidentId : strip (shownOr (s'.get "incident_id")) = strip (shownOr (s.get "incident_id"))
  plan : lib.plan (s'.get "remediation_plan") = lib.plan (s.get "remediation_plan")
  runId : ((s.get "run_id").blank ∧ (s'.get "run_id").blank) ∨
    (s'.get "run_id").canonical = (s.get "run_id").canonical
  request : (s'.get "request").canonical = (s.get "request").canonical
  serviceProfile : (s'.get "service_profile").canonical = (s.get "service_profile").canonical
  diagnosis : (s'.get "diagnosis").canonical = (s.get "diagnosis").canonical
  evidence : (s'.get "evidence").canonical = (s.get "evidence").canonical

/-! ### Fingerprints -/

section Fingerprint

variable {env : Env} {lib : ExecutionLibrary} {s s' v v' : Json} {incidentId incidentId' : String}
  {plan plan' : RemediationPlan}

/-- The members of the fingerprint of a plan that has a target. -/
structure Fingerprints (s : Json) (incidentId : String) (plan : RemediationPlan) (v : Json) :
    Prop where
  incidentId : v.get? "incident_id" = some (.str incidentId)
  plan : v.get? "remediation_plan" = some (planPayload plan)
  runId : v.get? "run_id" = if (s.get "run_id").truthy then some (s.get "run_id") else none
  serviceProfile : v.get? "service_profile" =
    if s.get "service_profile" ≠ .null then some (s.get "service_profile") else none
  request : v.get? "request" = some (s.get "request")
  diagnosis : v.get? "diagnosis" = some (s.get "diagnosis")
  evidence : v.get? "evidence" = some ((s.get? "evidence").getD (.arr []))

theorem fingerprintPayload_eq_ok (hbound : present plan.targetUid = true)
    (h : fingerprintPayload s incidentId plan = .ok v) : Fingerprints s incidentId plan v := by
  simp only [fingerprintPayload, hbound, Bool.true_or, if_true, bind_eq_ok, rowOr_eq_ok,
    pure_eq_ok] at h
  obtain ⟨diagnosis, hdiagnosis, _, rfl, rfl⟩ := h
  have hget : s.get "diagnosis" = diagnosis := by
    unfold Json.get
    rw [hdiagnosis]
    rfl
  by_cases hrun : (s.get "run_id").truthy = true <;>
    by_cases hprofile : s.get "service_profile" = .null <;>
    simp only [hrun, hprofile, ne_eq, not_true_eq_false, not_false_eq_true, if_true, if_false,
      Bool.false_eq_true] <;>
    refine ⟨rfl, rfl, ?_, ?_, rfl, ?_, rfl⟩ <;>
    simp only [hrun, hprofile, hget, ne_eq, not_true_eq_false, not_false_eq_true, if_true,
      if_false, Bool.false_eq_true] <;> rfl

theorem buildApprovalRequest_eq_ok {request : ApprovalRequest}
    (h : buildApprovalRequest env lib s = .ok request)
    (hset : present request.plan.targetUid = true) :
    request.incidentId = strip (shownOr (s.get "incident_id")) ∧
      lib.plan (s.get "remediation_plan") = some request.plan ∧
      ∃ v, Fingerprints s request.incidentId request.plan v ∧
        request.approvalRevision = some (env.requestDigest v) := by
  simp only [buildApprovalRequest, bind_eq_ok, raiseIf_eq_ok, rowOr_eq_ok, pure_eq_ok] at h
  obtain ⟨-, -, -, -, plan, hplan, -, -, -, -, -, -, -, -, v, hv, rfl⟩ := h
  exact ⟨rfl, hplan, v, fingerprintPayload_eq_ok hset hv, if_pos hset⟩

/-- **Fingerprints that agree are of states that agree.** -/
theorem sameBasis_of_fingerprints (hv : Fingerprints s incidentId plan v)
    (hv' : Fingerprints s' incidentId' plan' v') (h : v.canonical = v'.canonical)
    (hid : incidentId = strip (shownOr (s.get "incident_id")))
    (hid' : incidentId' = strip (shownOr (s'.get "incident_id")))
    (hplan : lib.plan (s.get "remediation_plan") = some plan)
    (hplan' : lib.plan (s'.get "remediation_plan") = some plan')
    (hsame : plan' = plan) (hevidence : (s'.get "evidence").items ≠ []) : SameBasis lib s s' := by
  have hmember := Json.get?_of_canonical h
  refine ⟨?_, by rw [hplan, hplan', hsame], ?_, ?_, ?_, ?_, ?_⟩
  · rw [← hid, ← hid']
    exact (Json.text_of_canonical h "incident_id" hv.incidentId hv'.incidentId).symm
  · have hrun := hmember "run_id"
    rw [hv.runId, hv'.runId] at hrun
    by_cases ht : (s.get "run_id").truthy = true <;>
      by_cases ht' : (s'.get "run_id").truthy = true <;>
      simp only [ht, ht', if_true, if_false, Option.map_some, Option.map_none, Option.some.injEq,
        reduceCtorEq, Bool.false_eq_true] at hrun
    · exact Or.inr hrun.symm
    · exact Or.inl ⟨by simpa [Json.blank] using ht, by simpa [Json.blank] using ht'⟩
  · have hrequest := hmember "request"
    rw [hv.request, hv'.request] at hrequest
    exact (Option.some.inj hrequest).symm
  · have hprofile := hmember "service_profile"
    rw [hv.serviceProfile, hv'.serviceProfile] at hprofile
    by_cases ht : s.get "service_profile" = .null <;>
      by_cases ht' : s'.get "service_profile" = .null <;>
      simp only [ht, ht', ne_eq, not_true_eq_false, not_false_eq_true, if_true, if_false,
        Option.map_some, Option.map_none, Option.some.injEq, reduceCtorEq] at hprofile
    · rw [ht, ht']
    · exact hprofile.symm
  · have hdiagnosis := hmember "diagnosis"
    rw [hv.diagnosis, hv'.diagnosis] at hdiagnosis
    exact (Option.some.inj hdiagnosis).symm
  · have hrows := hmember "evidence"
    rw [hv.evidence, hv'.evidence] at hrows
    have hrows := Option.some.inj hrows
    unfold Json.get at hevidence ⊢
    cases hs' : s'.get? "evidence" with
    | none =>
      rw [hs'] at hevidence
      exact absurd rfl hevidence
    | some w' =>
      rw [hs'] at hrows hevidence
      cases hs : s.get? "evidence" with
      | some w =>
        rw [hs] at hrows
        exact hrows.symm
      | none =>
        -- A state without evidence would have the fingerprint of one whose list is empty.
        rw [hs] at hrows
        exact absurd (Json.items_of_canonical_nil hrows.symm) hevidence

end Fingerprint

/-! ### Authorizations -/

/-- **What an approval authorizes**: the state that it was given for, with a record that
approves, and with no result but the one of this very execution. -/
structure ApprovalBinds (lib : ExecutionLibrary) (s s' : Json) (request : ApprovalRequest)
    (record : ApprovalRecord) : Prop where
  basis : SameBasis lib s s'
  approved : record.approved = true
  result : ResultBelongs lib s' request

/-- A plan that is accepted has evidence to be accepted on. -/
theorem evidence_of_accepted {lib : PolicyLibrary} {plan accepted : RemediationPlan}
    {state : RemediationState} (h : validateRemediationPlan lib plan state = .ok accepted) :
    state.evidence ≠ [] := by
  simp only [validateRemediationPlan, validateTargetOf, bind_eq_ok, raiseIf_eq_ok] at h
  obtain ⟨_, -, -, -, ⟨⟩, -, -, ⟨-, -, -, -, hfound⟩, -⟩ := h
  rintro hnone
  exact hfound (by simp [findEvidence, rowsNamed, hnone])

/-- **An approval authorizes only the state that it was given for.** A request that was built on
a state whose plan has a target, and a record that was made of it, are accepted in a state only
if that state shows what the first one did. -/
theorem approval_binds {env : Env} {lib : ExecutionLibrary} (henv : env.TellsApart) {s s' : Json}
    {request : ApprovalRequest} {decision : ApprovalDecision} {decidedAt : String}
    {auth : ExecutionAuthorization} (hbuilt : buildApprovalRequest env lib s = .ok request)
    (hset : present request.plan.targetUid = true)
    (hrequest : lib.approvalRequest (s'.get "approval_request") = some request)
    (hrecord : lib.approvalRecord (s'.get "approval_record") =
      some (createApprovalRecord request decision decidedAt))
    (hauth : validateExecutionAuthorization env lib s' = .ok auth) :
    ApprovalBinds lib s s' request (createApprovalRecord request decision decidedAt) := by
  have hrests := validateExecutionAuthorization_eq_ok hauth
  have hsame : auth.approvalRequest = request := Option.some.inj (hrests.request.symm.trans hrequest)
  have hrecorded : auth.approvalRecord = createApprovalRecord request decision decidedAt :=
    Option.some.inj (hrests.record.symm.trans hrecord)
  have hrebuilt := hrests.rebuilt
  have hresult := hrests.result
  rw [hsame] at hrebuilt hresult
  obtain ⟨hid, hplan, v, hv, hrevision⟩ := buildApprovalRequest_eq_ok hbuilt hset
  obtain ⟨hid', hplan', v', hv', hrevision'⟩ := buildApprovalRequest_eq_ok hrebuilt hset
  -- The revision of the request is the digest of both fingerprints.
  have hdigest : env.requestDigest v = env.requestDigest v' :=
    Option.some.inj (hrevision.symm.trans hrevision')
  obtain ⟨accepted, haccepted⟩ := hrests.valid
  have hrows : (s'.get "evidence").items ≠ [] := by
    have hevidence := evidence_of_accepted haccepted
    rintro hnone
    exact hevidence (by simp [remediationState, hnone])
  exact ⟨sameBasis_of_fingerprints hv hv' (henv _ _ hdigest) hid hid' hplan hplan' rfl hrows,
    hrecorded ▸ hrests.approved, hresult⟩

/-! ### An approval that is used -/

/-- A plan for a Service that was observed with a UID. -/
def boundPlan : RemediationPlan := { demoPlan "select the pods" with targetUid := some "svc-1" }

/-- The evidence of a row. -/
def evidenceDocument (id kind : String) (data : Json) : Json :=
  .obj [("evidence_id", .str id), ("resource_type", .str kind), ("resource_name", .str "web"),
    ("data", data)]

/-- A state whose plan was approved. -/
def approvedState : Json :=
  .obj [("incident_id", .str "incident-1"), ("run_id", .str "run-1"),
    ("phase", .str "approval_approved"), ("requires_approval", .bool true),
    ("approval_status", .str "approved"), ("approved", .bool true),
    ("request", demoState.request), ("service_profile", demoState.serviceProfile),
    ("evidence", .arr [evidenceDocument "ev-1" "Service" (demoService.insert "uid" (.str "svc-1")),
      evidenceDocument "ev-2" "Deployment" demoDeployment]),
    ("diagnosis", demoState.diagnosis), ("retrieved_runbooks", .arr demoState.retrievedRunbooks),
    ("remediation_plan", boundPlan.dump), ("approval_request", .bool true),
    ("approval_record", .bool true)]

/-- The fingerprint of the plan in its state. -/
def approvedFingerprint : Json :=
  (fingerprintPayload approvedState "incident-1" boundPlan).toOption.getD .null

/-- An environment with short digests for the two documents of an approval. -/
def stampedEnv : Env :=
  { Env.plain with
    requestDigest := fun v =>
      if v = approvedFingerprint then "0123456789abcdef"
      else if v = planPayload boundPlan then "0"
      else "-" ++ v.text }

theorem stampedEnv_cases (v : Json) :
    (v = approvedFingerprint ∧ stampedEnv.requestDigest v = "0123456789abcdef") ∨
      (v = planPayload boundPlan ∧ stampedEnv.requestDigest v = "0") ∨
      stampedEnv.requestDigest v = "-" ++ v.text := by
  by_cases hv : v = approvedFingerprint
  · exact Or.inl ⟨hv, if_pos hv⟩
  · by_cases hv' : v = planPayload boundPlan
    · exact Or.inr (Or.inl ⟨hv', (if_neg hv).trans (if_pos hv')⟩)
    · exact Or.inr (Or.inr ((if_neg hv).trans (if_neg hv')))

theorem stampedEnv_tellsApart : stampedEnv.TellsApart := by
  intro v w h
  have hlong : ∀ u : Json, "0123456789abcdef" ≠ "-" ++ u.text := fun u he => by
    simpa using congrArg (fun text => text.toList.head?) he
  have hshort : ∀ u : Json, "0" ≠ "-" ++ u.text := fun u he => by
    simpa using congrArg (fun text => text.toList.head?) he
  rcases stampedEnv_cases v with ⟨rfl, hv⟩ | ⟨rfl, hv⟩ | hv <;>
    rcases stampedEnv_cases w with ⟨rfl, hw⟩ | ⟨rfl, hw⟩ | hw <;>
    replace h := (hv.symm.trans h).trans hw
  · rfl
  · exact absurd h (by decide)
  · exact absurd h (hlong w)
  · exact absurd h (by decide)
  · rfl
  · exact absurd h (hshort w)
  · exact absurd h.symm (hlong v)
  · exact absurd h.symm (hshort v)
  · rw [Json.text_injective (String.append_right_inj "-" |>.mp h)]

/-- The request for the approval of the plan. -/
def boundRequest : ApprovalRequest where
  approvalId := "apr-0123456789abcdef"
  incidentId := "incident-1"
  plan := boundPlan
  planRevision := some "0"
  approvalRevision := some "0123456789abcdef"

/-- The decision of a human on it. -/
def boundDecision : ApprovalDecision := ⟨"apr-0123456789abcdef", true, "operator", ""⟩

/-- A library in which the documents of the state are these. -/
def boundLibrary : ExecutionLibrary :=
  { demoLibrary with
    plan := fun _ => some boundPlan
    approvalRequest := fun _ => some boundRequest
    approvalRecord := fun _ => some (createApprovalRecord boundRequest boundDecision "now")
    actionResult := fun _ => none
    textDigest := fun _ => "0123456789abcdef" }

/-- The authorization that the state gives. -/
def boundAuthorization : ExecutionAuthorization where
  executionId := "exec-0123456789abcdef"
  approvalId := "apr-0123456789abcdef"
  incidentId := "incident-1"
  plan := boundPlan
  approvalRequest := boundRequest
  approvalRecord := createApprovalRecord boundRequest boundDecision "now"
  previousResult := none
  alreadyExecuted := false

theorem approval_binds_approved : ApprovalBinds boundLibrary approvedState approvedState
    boundRequest (createApprovalRecord boundRequest boundDecision "now") := by
  have hbuilt : buildApprovalRequest stampedEnv boundLibrary approvedState = .ok boundRequest := by
    decide +kernel
  have hauth : validateExecutionAuthorization stampedEnv boundLibrary approvedState =
      .ok boundAuthorization := by
    decide +kernel
  exact approval_binds stampedEnv_tellsApart hbuilt rfl rfl rfl hauth

end IncidentAgent
