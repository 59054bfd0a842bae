import IncidentAgent.Workflow.Assertions

/-!
# From a plan to a write

The nodes behind a plan are the same in all graphs: the approval is prepared, a human is asked, the
executor writes, and the recovery is verified. What they establish is proved here of their programs
alone, whatever a graph allows its nodes to ask for, as long as it allows what these nodes ask. Each
of them either leaves a phase of failure, from which no edge leads on, or has done its part: the
request is in the state (`Awaiting`), the answer to it approves it (`Approved`), the executor has
completed what it was asked for (`Executed`). None of them touches what the approval is about
(`Handed`).
-/

namespace IncidentAgent

namespace Place

section

variable {env : Env} {lib : WorkflowLibrary} {rule : Exchanges → Ask → Prop} {h h' : Exchanges}
  {s s' : Json} {u : Update}

/-! ### Updates -/

theorem Undecided.merge (hs : Undecided s)
    (hu : ∀ m ∈ u.members, m.1 ∉ ["approval_record", "action_result"]) :
    Undecided (merge s u) := by
  have hsame := sameOn_merge hs.object (by simp) hu
  refine ⟨?_, ?_, ?_⟩
  · rw [isObject_merge, hs.object]
  · rw [hsame.get (by simp), hs.record]
  · rw [hsame.get (by simp), hs.result]

/-- A state in which nothing has been decided has no record. -/
theorem Undecided.noRecord (hs : Undecided s) : loadExistingApprovalRecord lib s = .ok none :=
  if_pos hs.record

/-- The phase that an update sets. -/
theorem inPhase_merge (phase : String) (hs : s.isObject = true)
    (hu : u.members.reverse.lookup "phase" = some (.str phase)) (p : String) :
    inPhase (merge s u) p = decide (phase = p) := by
  unfold inPhase Json.hasText
  rw [get?_merge hs (by simp) (by simp), hu, Bool.eq_iff_iff]
  simp

theorem inPhase_iff {p : String} : inPhase s p = true ↔ s.get "phase" = .str p := by
  unfold inPhase Json.hasText Json.get
  cases s.get? "phase" <;> simp

theorem inPhase_status {k p : String} (hs : s.get k = .str p) : s.hasText k p = true := by
  unfold Json.hasText
  unfold Json.get at hs
  cases hk : s.get? k with
  | none => simp [hk] at hs
  | some v => simpa [hk] using hs

/-- An edge on a condition leads on only where the condition holds. -/
theorem when_eq_some {node next : IncidentNode} {condition : Bool}
    (hnext : node.when condition = some next) : condition = true ∧ next = node := by
  unfold IncidentNode.when at hnext
  split at hnext
  · exact ⟨‹_›, (Option.some.inj hnext).symm⟩
  · cases hnext

/-- Members that are put behind a phase do not change it. -/
theorem lookup_phase {phase : String} {members rest : List (String × Json)}
    (hmembers : ∀ m ∈ members, m.1 ≠ "phase") (hrest : ∀ m ∈ rest, m.1 ≠ "phase") :
    (("phase", Json.str phase) :: (rest ++ members)).reverse.lookup "phase" =
      some (.str phase) := by
  have hnone : (rest ++ members).reverse.lookup "phase" = none := by
    refine List.lookup_eq_none_iff.2 fun m hm => bne_iff_ne.2 ?_
    rcases List.mem_append.1 (List.mem_reverse.1 hm) with hm | hm
    · exact (hrest m hm).symm
    · exact (hmembers m hm).symm
  rw [List.reverse_cons, List.lookup_append, hnone]
  rfl

/-- The update of a failure has its phase, whatever else it sets. -/
theorem keeps_failure (hclock : ∀ h, rule h .now)
    {phase stage code message event : String} {members : List (String × Json)}
    (hmembers : ∀ m ∈ members, m.1 ≠ "phase") {post : Update → Exchanges → Prop}
    (hpost : ∀ u h', u.members.reverse.lookup "phase" = some (.str phase) → post u h') :
    (failure env s phase stage code message event members).Keeps rule post h := by
  refine Act.keeps_bind (Act.keeps_ofExcept fun count _ => keeps_update hclock ?_)
  intro u h' _ hu _ _
  refine hpost u h' ?_
  rw [hu]
  exact lookup_phase (by simp) hmembers

/-! ### The approval -/

/-- What the nodes behind a plan hand on: the exchanges so far, and what the approval is about. -/
structure Handed (s : Json) (h : Exchanges) (s' : Json) (h' : Exchanges) : Prop where
  history : h <:+ h'
  same : s.SameOn basisKeys s'

theorem Handed.of_update (hs : s.isObject = true) (hh : h <:+ h')
    (hu : ∀ m ∈ u.members, m.1 ∉ basisKeys) : Handed s h (merge s u) h' :=
  ⟨hh, sameOn_merge hs (by simp [basisKeys]) hu⟩

/-- The members that an approval which has failed sets. -/
def approvalKeys : List String := ["phase", "approval_status", "approved"]

theorem keeps_approvalFailed (hclock : ∀ h, rule h .now) {stage code message event : String}
    {members : List (String × Json)} (hmembers : ∀ m ∈ members, m.1 = "approved")
    {post : Update → Exchanges → Prop}
    (hpost : ∀ u h', h <:+ h' → (∀ m ∈ u.members, m.1 ∈ approvalKeys) →
      u.members.reverse.lookup "phase" = some (.str "approval_failed") → post u h') :
    (approvalFailed env stage code message event members).Keeps rule post h := by
  refine keeps_update hclock ?_
  intro u h' hh hu _ _
  refine hpost u h' hh (fun m hm => ?_) ?_
  · rw [hu, List.mem_append] at hm
    rcases hm with hm | hm
    · simp only [List.mem_cons, List.not_mem_nil, or_false] at hm
      rcases hm with rfl | rfl <;> simp [approvalKeys]
    · rw [hmembers m hm]
      simp [approvalKeys]
  · rw [hu]
    have hrest : ∀ m ∈ [("approval_status", Json.str "failed")], m.1 ≠ "phase" := by simp
    exact lookup_phase (fun m hm => by simp [hmembers m hm]) hrest

theorem notMem_of_approvalKeys {keys : List String} (hkeys : ∀ k ∈ approvalKeys, k ∉ keys)
    (hu : ∀ m ∈ u.members, m.1 ∈ approvalKeys) : ∀ m ∈ u.members, m.1 ∉ keys :=
  fun m hm => hkeys m.1 (hu m hm)

/-- **The request is in the state where an approval goes on.** -/
theorem keeps_prepareApproval (hclock : ∀ h, rule h .now) (hs : Undecided s)
    (happroval : s.get "requires_approval" = .bool true) :
    (prepareApproval env lib s).Keeps rule (fun u h' => Handed s h (merge s u) h' ∧
      Undecided (merge s u) ∧
      (routeAfterPrepareApproval (merge s u) = none ∨ Awaiting env lib (merge s u))) h := by
  unfold prepareApproval
  rw [if_neg (not_not.2 happroval)]
  simp only [approvalBasis, hs.noRecord]
  cases hbuilt : buildApprovalRequest env lib.toExecutionLibrary s with
  | ok request =>
    refine keeps_update hclock ?_
    intro u h' hh hu _ _
    have hhanded : Handed s h (merge s u) h' :=
      Handed.of_update hs.object hh (by simp [hu, basisKeys])
    refine ⟨hhanded, hs.merge (by simp [hu]), Or.inr ⟨request, ?_, ?_⟩⟩
    · rw [buildApprovalRequest_sameOn hhanded.same, hbuilt]
    · exact get_merge_of_lookup hs.object (by simp) (by simp [hu, Json.lookup_cons_ite])
  | error e =>
    refine Act.keeps_ite (fun _ => ?_) fun _ => Act.keeps_throw e
    refine keeps_approvalFailed hclock (by simp) fun u h' hh hkeys hphase => ⟨?_, ?_, Or.inl ?_⟩
    · exact Handed.of_update hs.object hh
        (notMem_of_approvalKeys (by simp [approvalKeys, basisKeys]) hkeys)
    · exact hs.merge (notMem_of_approvalKeys (by simp [approvalKeys]) hkeys)
    · simp [routeAfterPrepareApproval, IncidentNode.when,
        inPhase_merge "approval_failed" hs.object hphase]

theorem expectedRequest_eq_ok {request : ApprovalRequest}
    (h : expectedRequest env lib s = .ok request) :
    buildApprovalRequest env lib.toExecutionLibrary s = .ok request ∧
      lib.approvalRequest (s.get "approval_request") = some request := by
  simp only [expectedRequest, bind_eq_ok, rowOr_eq_ok, raiseIf_eq_ok, pure_eq_ok, not_not] at h
  obtain ⟨expected, hbuilt, stored, hstored, ⟨⟩, heq, rfl⟩ := h
  exact ⟨hbuilt, heq ▸ hstored⟩

/-- **The answer to the request approves it where the executor comes next.** -/
theorem keeps_decided (hclock : ∀ h, rule h .now) (hs : Undecided s) (ha : Awaiting env lib s)
    {request : ApprovalRequest} (hrequest : expectedRequest env lib s = .ok request) {value : Json}
    (hasked : (⟨.interrupt (approvalPayload request), value⟩ : Σ q, Ask.Answer q) ∈ h)
    {decision : ApprovalDecision}
    (hdecision : validateApprovalDecision lib value request = .ok decision) :
    (decided env lib request decision).Keeps rule (fun u h' => Handed s h (merge s u) h' ∧
      (routeAfterApproval (merge s u) = none ∨ Approved env lib h' (merge s u))) h := by
  refine Act.keeps_bind (Act.keeps_call (hclock _) fun now => ?_)
  refine Act.keeps_bind (Act.keeps_ofExcept fun record hrecord => keeps_update hclock ?_)
  intro u h' hh hu _ _
  have hhanded : Handed s h (merge s u) h' :=
    Handed.of_update hs.object ((List.suffix_cons _ _).trans hh) (by simp [hu, basisKeys])
  refine ⟨hhanded, ?_⟩
  have hget : ∀ {k v}, k ≠ "errors" ∧ k ≠ "trace" → u.members.reverse.lookup k = some v →
      (merge s u).get k = v := fun hk hv => get_merge_of_lookup hs.object hk hv
  have hphase : (merge s u).get "phase" =
      .str ("approval_" ++ approvalStatus decision.approved) :=
    hget (by simp) (by simp [hu, Json.lookup_cons_ite])
  by_cases happroved : decision.approved = true
  · obtain ⟨hbuilt, hstored⟩ := expectedRequest_eq_ok hrequest
    obtain ⟨request', hbuilt', hdump⟩ := ha.request
    obtain rfl := Except.ok.inj (hbuilt.symm.trans hbuilt')
    have hstored' : (merge s u).get "approval_request" = s.get "approval_request" := by
      rw [hdump]
      exact hget (by simp) (by simp [hu, Json.lookup_cons_ite])
    refine Or.inr ⟨?_, ?_, ?_, ?_, ?_, ?_, request, value, decision, now, ?_, ?_,
      hhanded.history.subset hasked, hdecision, happroved, record, hrecord, ?_⟩
    · rw [isObject_merge, hs.object]
    · rw [get_merge_of_notMem hs.object (by simp) (by simp) (by simp [hu]), hs.result]
    · rw [hphase, happroved]
      rfl
    · exact hget (by simp) (by simp [hu, Json.lookup_cons_ite, happroved, approvalStatus])
    · exact hget (by simp) (by simp [hu, happroved])
    · rw [hstored', hdump]
      simp [ApprovalRequest.dump]
    · rw [buildApprovalRequest_sameOn hhanded.same, hbuilt]
    · rw [hstored', hstored]
    · exact hget (by simp) (by simp [hu, Json.lookup_cons_ite])
  · refine Or.inl ?_
    have hrejected : inPhase (merge s u) "approval_approved" = false := by
      rw [Bool.eq_false_iff, ne_eq, inPhase_iff, hphase]
      simp [approvalStatus, happroved]
    simp [routeAfterApproval, IncidentNode.when, hrejected]

/-- **A human is asked about the request that is built of the state**, and only an answer that
approves it leads on. -/
theorem keeps_requestHumanApproval (hclock : ∀ h, rule h .now)
    (hrule : ∀ h request, expectedRequest env lib s = .ok request →
      rule h (.interrupt (approvalPayload request)))
    (hs : Undecided s) (ha : Awaiting env lib s) :
    (requestHumanApproval env lib s).Keeps rule (fun u h' => Handed s h (merge s u) h' ∧
      (routeAfterApproval (merge s u) = none ∨ Approved env lib h' (merge s u))) h := by
  have hfailed : ∀ {h₁} (_ : h <:+ h₁) {stage code message event : String},
      (approvalFailed env stage code message event [("approved", .null)]).Keeps rule
        (fun u h' => Handed s h (merge s u) h' ∧
          (routeAfterApproval (merge s u) = none ∨ Approved env lib h' (merge s u))) h₁ := by
    intro h₁ hh₁ stage code message event
    refine keeps_approvalFailed hclock (by simp) fun u h' hh hkeys hphase => ⟨?_, Or.inl ?_⟩
    · exact Handed.of_update hs.object (hh₁.trans hh)
        (notMem_of_approvalKeys (by simp [approvalKeys, basisKeys]) hkeys)
    · simp [routeAfterApproval, IncidentNode.when,
        inPhase_merge "approval_failed" hs.object hphase]
  unfold requestHumanApproval
  simp only [hs.noRecord]
  cases hrequest : expectedRequest env lib s with
  | error e => exact hfailed (List.suffix_refl h)
  | ok request =>
    refine Act.keeps_bind (Act.keeps_call (hrule h request hrequest) fun value => ?_)
    have hh : h <:+ ⟨.interrupt (approvalPayload request), value⟩ :: h := List.suffix_cons _ _
    split
    · rename_i decision hdecision
      refine (keeps_decided hclock hs ha hrequest List.mem_cons_self hdecision).mono ?_
      rintro u h' ⟨hhanded, hnext⟩
      exact ⟨⟨hh.trans hhanded.history, hhanded.same⟩, hnext⟩
    · exact hfailed hh

/-! ### The write and its verification -/

theorem keeps_resultFailed (hclock : ∀ h, rule h .now) (hs : s.isObject = true) {result : Json}
    {phase stage key code event : String} (hkey : key ≠ "phase")
    (hphase : phase ≠ "remediation_executed") :
    (resultFailed env s result phase stage key code event).Keeps rule
      (fun u _ => routeAfterExecution (merge s u) = none) h := by
  refine Act.keeps_bind (Act.keeps_ofExcept fun count _ => keeps_update hclock ?_)
  intro u h' _ hu _ _
  have hlookup : u.members.reverse.lookup "phase" = some (.str phase) := by
    simp [hu, Json.lookup_cons_ite, hkey.symm]
  simp [routeAfterExecution, IncidentNode.when, inPhase_merge phase hs hlookup, hphase]

/-- **The executor has completed what it was asked for where the verifier comes next.** -/
theorem keeps_executeRemediation (hclock : ∀ h, rule h .now) (hrule : ∀ h, rule h (.execute s))
    (hs : s.isObject = true) :
    (executeRemediation env lib s).Keeps rule
      (fun u h' => routeAfterExecution (merge s u) = none ∨ Executed h' (merge s u)) h := by
  have hraised : ∀ {h stage code message event},
      (failure env s "remediation_execution_failed" stage code message event []).Keeps rule
        (fun u h' => routeAfterExecution (merge s u) = none ∨ Executed h' (merge s u)) h := by
    intro h stage code message event
    refine keeps_failure hclock (by simp) fun u h' hlookup => Or.inl ?_
    simp [routeAfterExecution, IncidentNode.when,
      inPhase_merge "remediation_execution_failed" hs hlookup]
  refine Act.keeps_bind ?_
  refine ⟨hrule h, fun answer r hr => ?_⟩
  obtain rfl := Except.ok.inj hr
  cases answer with
  | error e => exact Act.keeps_ite (fun _ => hraised) fun _ => hraised
  | ok result =>
    refine Act.keeps_ite (fun hcompleted => keeps_update hclock ?_) fun _ => Act.keeps_ite
      (fun _ => (keeps_resultFailed hclock hs (by simp) (by simp)).mono fun _ _ => Or.inl)
      fun _ => (keeps_resultFailed hclock hs (by simp) (by simp)).mono fun _ _ => Or.inl
    intro u h' hh hu _ _
    exact Or.inr ⟨s, result, hh.subset List.mem_cons_self, hcompleted,
      get_merge_of_lookup hs (by simp) (by simp [hu])⟩

theorem keeps_verifyRecovery (hclock : ∀ h, rule h .now) (hrule : ∀ h, rule h (.verify s)) :
    (verifyRecoveryNode env lib s).Keeps rule (fun _ _ => True) h := by
  have hupdate : ∀ {h members errors events},
      (update env members errors events).Keeps rule (fun _ _ => True) h :=
    keeps_update hclock fun _ _ _ _ _ _ => trivial
  refine Act.keeps_bind ?_
  refine ⟨hrule h, fun answer r hr => ?_⟩
  obtain rfl := Except.ok.inj hr
  cases answer with
  | error e => exact Act.keeps_bind (Act.keeps_ofExcept fun _ _ => hupdate)
  | ok result =>
    exact Act.keeps_ite (fun _ => hupdate) fun _ => Act.keeps_ite (fun _ => hupdate)
      fun _ => Act.keeps_bind (Act.keeps_ofExcept fun _ _ => hupdate)

end

end Place

end IncidentAgent
