import IncidentAgent.Policy.Citations

/-!
# Plans that are prepared

What the planning model returns is prepared before it is validated. A plan that writes has to be
about the registered configuration, and has to cite some of the evidence that shows the current one;
the rest of that evidence is added to its citations, and the plan is bound to the object that was
observed (`prepareRemediationPlan`). A preparation changes nothing else of a plan, and it accepts
only plans that are valid after it (`Prepared`).
-/

namespace IncidentAgent

section

variable (lib : PolicyLibrary)

/-- The evidence of the configuration that a plan does not cite yet. What is added has to be there,
to be complete and to be declared by the diagnosis, and the plan has to cite some of it itself. -/
def missingConfiguration (plan : RemediationPlan) (state : RemediationState) :
    Except Raised (List String) := do
  let facts ← diagnosticFactsOf lib.toCheckLibrary state.toPolicyState
  let required := facts.configurationEvidenceIds.eraseDups
  raiseIf (facts.configurationEvidenceComplete = false ∨ required = [] ∨
      (∃ id ∈ required, id ∉ citableIds state) ∨
      ∃ id ∈ required, Json.str id ∉ (state.diagnosis.get "evidence_ids").items)
    (invalidPlan "cannot attach incomplete or undeclared configuration evidence")
  raiseIf (∀ id ∈ required, id ∉ plan.evidenceIds)
    (invalidPlan "write plan must already cite at least one configuration evidence")
  pure (required.filter fun id => id ∉ plan.evidenceIds)

/-- The preparation of a plan that writes. -/
def prepareWrite (plan : RemediationPlan) (state : RemediationState) :
    Except Raised (RemediationPlan × List String) := do
  let allowed ← getAllowedRemediationActions lib state
  raiseIf (plan.action ∉ allowed) (invalidPlan "write action is not grounded or allowed")
  let profile ← unavailableAsInvalid (matchedProfile lib.toLibrary state.toPolicyState)
  unavailableAsInvalid (validateProfileAction profile plan)
  let added ← missingConfiguration lib plan state
  let bound ← asInvalidPlan
    (bindTarget { plan with evidenceIds := plan.evidenceIds ++ added } state.toPolicyState)
  pure (bound, added)

/-- The plan as it is validated, with the citations that were added. -/
def prepareAction (plan : RemediationPlan) (state : RemediationState) :
    Except Raised (RemediationPlan × List String) :=
  if plan.action.executable then prepareWrite lib plan state else .ok (plan, [])

/-- `prepare_remediation_plan`. -/
def prepareRemediationPlan (plan : RemediationPlan) (state : RemediationState) :
    Except Raised (RemediationPlan × List String) := do
  validateReferences lib plan state
  let prepared ← prepareAction lib plan state
  let validated ← validateRemediationPlan lib prepared.1 state
  pure (validated, prepared.2)

end

/-- **What a preparation makes of a plan**: it is valid, and it is the plan of the model but for the
citations that were added and for the object that it is bound to. -/
structure Prepared (lib : PolicyLibrary) (state : RemediationState) (plan prepared : RemediationPlan)
    (added : List String) : Prop where
  valid : validateRemediationPlan lib prepared state = .ok prepared
  unchanged : prepared =
    { plan with evidenceIds := plan.evidenceIds ++ added, targetUid := prepared.targetUid }
  /-- What is added was collected and is declared by the diagnosis. -/
  cited : ∀ id ∈ added, id ∈ citableIds state ∧
    Json.str id ∈ (state.diagnosis.get "evidence_ids").items
  /-- A plan that writes is bound to an object. -/
  bound : plan.action.executable = true →
    prepared.targetUid = (observedTargetUid state.toPolicyState plan).toOption ∧
      prepared.targetUid ≠ none

theorem validateRemediationPlan_eq {lib : PolicyLibrary} {state : RemediationState}
    {plan accepted : RemediationPlan} (h : validateRemediationPlan lib plan state = .ok accepted) :
    accepted = plan := by
  simp only [validateRemediationPlan, bind_eq_ok, pure_eq_ok] at h
  obtain ⟨_, -, -, -, -, -, -, -, -, -, -, -, -, -, -, -, -, -, rfl⟩ := h
  rfl

theorem missingConfiguration_eq_ok {lib : PolicyLibrary} {state : RemediationState}
    {plan : RemediationPlan} {added : List String}
    (h : missingConfiguration lib plan state = .ok added) {id : String} (hid : id ∈ added) :
    id ∈ citableIds state ∧ Json.str id ∈ (state.diagnosis.get "evidence_ids").items := by
  simp only [missingConfiguration, bind_eq_ok, raiseIf_eq_ok, pure_eq_ok, not_or, not_exists,
    not_and, not_not] at h
  obtain ⟨facts, -, -, ⟨-, -, havailable, hdeclared⟩, -, -, rfl⟩ := h
  obtain ⟨hrequired, -⟩ := List.mem_filter.1 hid
  exact ⟨havailable id hrequired, hdeclared id hrequired⟩

theorem bindTarget_eq_ok {plan bound : RemediationPlan} {state : PolicyState}
    (h : bindTarget plan state = .ok bound) :
    ∃ uid, observedTargetUid state plan = .ok uid ∧ bound = { plan with targetUid := some uid } := by
  simp only [bindTarget, bind_eq_ok, pure_eq_ok] at h
  obtain ⟨uid, huid, -, -, -, -, rfl⟩ := h
  exact ⟨uid, huid, rfl⟩

/-- **A preparation only adds citations and the target.** -/
theorem prepareRemediationPlan_eq_ok {lib : PolicyLibrary} {state : RemediationState}
    {plan prepared : RemediationPlan} {added : List String}
    (h : prepareRemediationPlan lib plan state = .ok (prepared, added)) :
    Prepared lib state plan prepared added := by
  simp only [prepareRemediationPlan, bind_eq_ok, pure_eq_ok] at h
  obtain ⟨-, -, ⟨given, rest⟩, hgiven, validated, hvalid, heq⟩ := h
  obtain ⟨rfl, rfl⟩ := Prod.mk.inj heq
  obtain rfl := validateRemediationPlan_eq hvalid
  unfold prepareAction at hgiven
  split at hgiven
  · simp only [prepareWrite, bind_eq_ok, pure_eq_ok, asInvalidPlan_eq_ok] at hgiven
    obtain ⟨-, -, -, -, profile, -, -, -, added', hadded, bound, hbound, heq⟩ := hgiven
    obtain ⟨rfl, rfl⟩ := Prod.mk.inj heq
    obtain ⟨uid, huid, rfl⟩ := bindTarget_eq_ok hbound
    have huid : observedTargetUid state.toPolicyState plan = .ok uid := huid
    exact ⟨hvalid, rfl, fun id hid => missingConfiguration_eq_ok hadded hid,
      fun _ => ⟨by rw [huid]; rfl, fun hnone => (by cases hnone)⟩⟩
  · rename_i hexec
    obtain ⟨rfl, rfl⟩ := Prod.mk.inj (Except.ok.inj hgiven)
    refine ⟨hvalid, by rw [List.append_nil], fun id hid => (by cases hid), fun hwrite => ?_⟩
    exact absurd hwrite hexec

end IncidentAgent
