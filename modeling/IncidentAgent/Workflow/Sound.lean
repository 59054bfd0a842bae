import IncidentAgent.Workflow.Tail

/-!
# The graph meets its annotation

Every node keeps to what it may ask for, and leads to a place whose assertion holds and from which
fewer visits are left (`incidentGraph_ranked`). A node that fails leads nowhere: its phase is none
that an edge looks for. A node that does its work hands on what it has found, and leaves alone what
was found before it.
-/

namespace IncidentAgent

namespace Place

section

variable {env : Env} {lib : WorkflowLibrary} {parts : GraphParts} {h h' : Exchanges} {s s' : Json}
  {node : IncidentNode} {u : Update}

/-! ### After a node -/

/-- Where a node leads: to a place that holds, and nearer to the end. -/
def Leads (env : Env) (lib : WorkflowLibrary) (parts : GraphParts) (node : IncidentNode) (s s' : Json)
    (h : Exchanges) : Prop :=
  Holds env lib h (node.route parts s') s' ∧ rank (node.route parts s') s' < rank (some node) s

theorem rank_pos (node : IncidentNode) (s : Json) : 0 < rank (some node) s := by
  cases node <;> simp [rank]

/-- A node that ends the graph. -/
theorem leads_of_none (hroute : node.route parts s' = none) : Leads env lib parts node s s' h := by
  unfold Leads
  rw [hroute]
  exact ⟨trivial, rank_pos node s⟩

/-- A node from which the graph goes on. -/
theorem leads_of_some (next : IncidentNode) (hroute : node.route parts s' = some next)
    (hnext : Holds env lib h (some next) s') (hrank : rank (some next) s' < rank (some node) s) :
    Leads env lib parts node s s' h := by
  unfold Leads
  rw [hroute]
  exact ⟨hnext, hrank⟩

/-- The visit of a node, by its update. -/
theorem keeps_visit {post : Json → Exchanges → Prop}
    (hu : (node.update env lib s).Keeps (Asks env lib node s) (fun u h' => post (merge s u) h') h) :
    (node.visit env lib s).Keeps (Asks env lib node s) post h :=
  Act.keeps_bind (hu.mono fun _ _ hpost => Act.keeps_pure hpost)

theorem roundsLeft_merge (hs : s.isObject = true)
    (hu : ∀ m ∈ u.members, m.1 ≠ "clarification_round") : roundsLeft (merge s u) = roundsLeft s := by
  have hsame : s.SameOn ["clarification_round"] (IncidentAgent.merge s u) :=
    sameOn_merge hs (by simp) fun m hm => by simpa using hu m hm
  unfold roundsLeft
  rw [hsame _ (by simp)]

/-- The clock may be asked for anywhere. -/
theorem asks_now (h : Exchanges) : Asks env lib node s h .now := trivial

/-! ### The request and the evidence -/

theorem keeps_incidentIdOf :
    (incidentIdOf s).Keeps (Asks env lib node s) (fun _ h' => h <:+ h') h := by
  unfold incidentIdOf
  refine Act.keeps_ite (fun _ => Act.keeps_pure (List.suffix_refl h)) fun _ => ?_
  exact Act.keeps_bind (Act.keeps_call trivial fun _ => Act.keeps_pure (List.suffix_cons _ _))

theorem leads_rejected {incidentId : Json} {members : List (String × Json)}
    {code message event : String} (hs : s.isObject = true) :
    (rejected env s incidentId members code message event).Keeps
      (Asks env lib .validateRequest s)
      (fun u h' => Leads env lib parts .validateRequest s (merge s u) h') h := by
  refine Act.keeps_bind (Act.keeps_ofExcept fun count _ => keeps_update asks_now ?_)
  intro u h' _ hu _ _
  have hvalid : (merge s u).get "valid" = .bool false :=
    get_merge_of_lookup hs (by simp) (by simp [hu, Json.lookup_cons_ite])
  refine leads_of_some .finishFailure ?_ trivial (by simp only [rank]; omega)
  simp [IncidentNode.route, routeAfterValidation, hvalid]

theorem leads_validateRequest (hs : Undecided s) :
    (validateRequestNode env lib s).Keeps (Asks env lib .validateRequest s)
      (fun u h' => Leads env lib parts .validateRequest s (merge s u) h') h := by
  refine Act.keeps_bind (keeps_incidentIdOf.mono fun incidentId h₁ _ => ?_)
  dsimp only
  split
  · exact leads_rejected hs.object
  · rename_i request hrequest
    refine Act.keeps_ite (fun _ => leads_rejected hs.object) fun hallowed => ?_
    refine keeps_update asks_now ?_
    intro u h' _ hu _ _
    have hvalid : (merge s u).get "valid" = .bool true :=
      get_merge_of_lookup hs.object (by simp) (by simp [hu, Json.lookup_cons_ite])
    have hdump : (merge s u).get "request" = request.dump :=
      get_merge_of_lookup hs.object (by simp) (by simp [hu, Json.lookup_cons_ite])
    refine leads_of_some .planCollection ?_ ⟨hs.merge (by simp [hu]), ⟨?_⟩⟩ ?_
    · simp [IncidentNode.route, routeAfterValidation, hvalid]
    · rw [hdump, ← not_not.1 hallowed]
      rfl
    · simp only [rank]
      rw [roundsLeft_merge hs.object (by simp [hu])]
      omega

/-- A failure leads nowhere. -/
theorem leads_failure {phase stage code message event : String} {members : List (String × Json)}
    (hmembers : ∀ m ∈ members, m.1 ≠ "phase")
    (hroute : ∀ s', s'.get? "phase" = some (.str phase) → node.route parts s' = none)
    (hs : s.isObject = true) :
    (failure env s phase stage code message event members).Keeps (Asks env lib node s)
      (fun u h' => Leads env lib parts node s (merge s u) h') h := by
  refine keeps_failure asks_now hmembers fun u h' hu => leads_of_none (hroute _ ?_)
  rw [get?_merge hs (by simp) (by simp), hu]
  rfl

theorem leads_planCollection (hs : Undecided s) (hr : Requested s) :
    (IncidentAgent.planCollection env s).Keeps (Asks env lib .planCollection s)
      (fun u h' => Leads env lib parts .planCollection s (merge s u) h') h := by
  refine keeps_update asks_now ?_
  intro u h' _ hu _ _
  refine leads_of_some .collectEvidence rfl ⟨hs.merge (by simp [hu]), hr.sameOn ?_⟩ ?_
  · exact get_merge_of_notMem hs.object (by simp) (by simp) (by simp [hu])
  · simp only [rank]
    rw [roundsLeft_merge hs.object (by simp [hu])]
    omega

/-- The name of a namespace is what it was. -/
theorem incidentRequest_namespace {raw : Json} {request : IncidentRequest} {text : String}
    (h : incidentRequest raw = some request) (hraw : raw.get "namespace" = .str text) :
    request.namespaceName = strip text := by
  unfold incidentRequest at h
  rw [hraw] at h
  split at h
  · rename_i heq _ _
    split at h
    · obtain rfl := Json.str.inj heq
      exact congrArg IncidentRequest.namespaceName (Option.some.inj h).symm
    · cases h
  · cases h

theorem strip_safeNamespace : strip safeNamespace = safeNamespace := by decide +kernel

/-- What a collection has read. -/
def ReadBy (env : Env) (s incidentId : Json) (h : Exchanges)
    (collected : List EvidenceRow × CollectedBundle) : Prop :=
  ∃ request id now, incidentRequest (s.get "request") = some request ∧
    (⟨.collect safeNamespace request.serviceName, .ok collected.2⟩ : Σ q, Ask.Answer q) ∈ h ∧
    incidentId = .str id ∧
    collected.1 = normalizeEvidence id (env.isoformat now) collected.2.toBundle

theorem keeps_collectBundle (hr : Requested s) {incidentId : Json} :
    (collectBundle env lib s incidentId).Keeps (Asks env lib .collectEvidence s)
      (fun collected h' => ReadBy env s incidentId h' collected) h := by
  refine Act.keeps_bind (Act.keeps_ofExcept fun raw hraw => ?_)
  have hget : s.get "request" = raw := by
    rw [Json.get, rowOr_eq_ok.1 hraw]
    rfl
  refine Act.keeps_bind (Act.keeps_ofExcept fun request hrequest => ?_)
  have hrequest := rowOr_eq_ok.1 hrequest
  have hallowed : request.namespaceName = safeNamespace := by
    rw [incidentRequest_namespace hrequest (hget ▸ hr.allowed), strip_safeNamespace]
  refine Act.keeps_bind (Act.keeps_bind (Act.keeps_call ⟨rfl, hallowed⟩ fun answer => ?_))
  refine Act.keeps_ofExcept fun bundle hbundle => ?_
  refine Act.keeps_bind (Act.keeps_call trivial fun now => ?_)
  split
  · rename_i id
    refine Act.keeps_pure ⟨request, id, now, by rw [hget, hrequest], ?_, rfl, rfl⟩
    rw [← hallowed, ← hbundle]
    exact List.mem_cons_of_mem _ List.mem_cons_self
  · exact Act.keeps_throw _

theorem routeAfterCollection_failed (hs : s.get? "phase" = some (.str "evidence_collection_failed")) :
    IncidentNode.route parts .collectEvidence s = none := by
  simp [IncidentNode.route, routeAfterCollection, IncidentNode.when, inPhase, Json.hasText, hs]

theorem leads_collectedUpdate (hs : Undecided s) (hr : Requested s) {incidentId : Json}
    (hid : s.get? "incident_id" = some incidentId)
    {collected : List EvidenceRow × CollectedBundle} (hread : ReadBy env s incidentId h collected) :
    (collectedUpdate env lib s collected.1 collected.2).Keeps (Asks env lib .collectEvidence s)
      (fun u h' => Leads env lib parts .collectEvidence s (merge s u) h') h := by
  refine Act.keeps_ite (fun _ => ?_) fun hrows => ?_
  · exact leads_failure (by simp) (fun _ => routeAfterCollection_failed) hs.object
  · refine Act.keeps_bind (Act.keeps_ofExcept fun count _ => keeps_update asks_now ?_)
    intro u h' hh hu _ _
    obtain ⟨request, id, now, hrequest, hcollect, rfl, hnormal⟩ := hread
    have hsame : s.SameOn ["incident_id", "request"] (merge s u) :=
      sameOn_merge hs.object (by simp) (by simp [hu])
    have hevidence : (merge s u).get "evidence" = .arr (collected.1.map EvidenceRow.dump) :=
      get_merge_of_lookup hs.object (by simp) (by simp [hu, Json.lookup_cons_ite])
    have hprofile : (merge s u).get "service_profile" = collected.2.serviceProfile :=
      get_merge_of_lookup hs.object (by simp) (by simp [hu, Json.lookup_cons_ite])
    have hcollected : Collected env h' (merge s u) := by
      refine ⟨hr.sameOn (hsame.get (by simp)), request, collected.2, id, now, ?_,
        hh.subset hcollect, ?_, ?_, ?_, hprofile⟩
      · rw [hsame.get (by simp), hrequest]
      · rw [hsame.get (by simp), Json.get, hid]
        rfl
      · rw [hevidence, hnormal]
      · rw [← hnormal]
        exact hrows
    have hphase := inPhase_merge (u := u)
      (if collected.2.errors = [] then "evidence_collected" else "evidence_collected_with_errors")
      hs.object (by simp [hu, Json.lookup_cons_ite])
    by_cases hretriever : parts.retriever = true
    · refine leads_of_some .retrieveRunbooks ?_ ⟨hs.merge (by simp [hu]), hcollected⟩ ?_
      · simp only [IncidentNode.route, hretriever, if_true, routeAfterCollection,
          IncidentNode.when, hphase]
        split <;> simp
      · simp only [rank]
        rw [roundsLeft_merge hs.object (by simp [hu])]
        omega
    · exact leads_of_none (by simp [IncidentNode.route, hretriever])

theorem leads_collectEvidence (hs : Undecided s) (hr : Requested s) :
    (IncidentAgent.collectEvidence env lib s).Keeps (Asks env lib .collectEvidence s)
      (fun u h' => Leads env lib parts .collectEvidence s (merge s u) h') h := by
  refine Act.keeps_bind (Act.keeps_ofExcept fun incidentId hid => ?_)
  have hid := rowOr_eq_ok.1 hid
  refine Act.keeps_bind (Act.keeps_attempt ?_ fun e h' _ => ?_)
  · refine Act.keeps_bind ((keeps_collectBundle hr).mono fun collected h₁ hread => ?_)
    exact (leads_collectedUpdate hs hr hid hread).mono fun u h' hu => Act.keeps_pure hu
  · exact leads_failure (by simp) (fun _ => routeAfterCollection_failed) hs.object

theorem leads_retrieveRunbooks (hs : Undecided s) (hc : Collected env h s) :
    (IncidentAgent.retrieveRunbooks env lib s).Keeps (Asks env lib .retrieveRunbooks s)
      (fun u h' => Leads env lib parts .retrieveRunbooks s (merge s u) h') h := by
  refine Act.keeps_bind (Act.keeps_attempt (Act.keeps_bind
    (Act.keeps_call ⟨rfl, rfl⟩ fun answer => Act.keeps_ofExcept fun runbooks _ => ?_)) ?_)
  · refine keeps_update asks_now ?_
    intro u h' hh hu _ _
    have hphase := inPhase_merge (u := u) "runbooks_retrieved" hs.object
      (by simp [hu, Json.lookup_cons_ite])
    by_cases hdiagnoser : parts.diagnoser = true
    · refine leads_of_some .diagnoseIncident ?_ ⟨hs.merge (by simp [hu]), ?_⟩ ?_
      · simp [IncidentNode.route, hdiagnoser, routeAfterRetrieval, IncidentNode.when, hphase]
      · refine hc.later ((List.suffix_cons _ _).trans hh) (sameOn_merge hs.object ?_ ?_)
        · simp [collectionKeys]
        · simp [hu, collectionKeys]
      · simp only [rank]
        rw [roundsLeft_merge hs.object (by simp [hu])]
        omega
    · exact leads_of_none (by simp [IncidentNode.route, hdiagnoser])
  · intro e h' _
    refine leads_failure (by simp) (fun s' hs' => ?_) hs.object
    simp [IncidentNode.route, routeAfterRetrieval, IncidentNode.when, inPhase, Json.hasText, hs']

/-! ### The diagnosis -/

/-- Where a diagnosis leads: to a plan only if it was completed and names a fault. -/
theorem routeAfterDiagnosis_cases (s : Json) :
    routeAfterDiagnosis s = none ∨ routeAfterDiagnosis s = some .skipRemediation ∨
      routeAfterDiagnosis s = some .planRemediation ∧
        s.get "phase" = .str "diagnosis_completed" ∧ NamesFault s := by
  by_cases hphase : inPhase s "diagnosis_completed" = true
  · by_cases hfault : (s.get "diagnosis").get "fault_category" = .str "unknown" ∨
        (s.get "diagnosis").get "fault_category" = .str "no_fault_detected"
    · exact .inr (.inl (by simp [routeAfterDiagnosis, hphase, hfault]))
    · refine .inr (.inr ⟨by simp [routeAfterDiagnosis, hphase, hfault], inPhase_iff.1 hphase, ?_⟩)
      exact not_or.1 hfault
  · exact .inl (by simp [routeAfterDiagnosis, hphase])

/-- The way of a state with a diagnosis, from any node that leads on from it. -/
theorem leads_routeAfterDiagnosis (hroute : node.route parts s' = routeAfterDiagnosis s')
    (hrank : 5 < rank (some node) s) (hs : Undecided s')
    (hd : s'.get "phase" = .str "diagnosis_completed" → Diagnosed env lib h s') :
    Leads env lib parts node s s' h := by
  rcases routeAfterDiagnosis_cases s' with hnone | hskip | ⟨hplan, hphase, hfault⟩
  · exact leads_of_none (hroute.trans hnone)
  · refine leads_of_some .skipRemediation (hroute.trans hskip) trivial ?_
    simp only [rank] at hrank ⊢
    omega
  · exact leads_of_some .planRemediation (hroute.trans hplan) ⟨hs, hd hphase, hfault⟩ hrank

/-- The members that a diagnosis sets. -/
def diagnosisKeys : List String :=
  ["phase", "diagnosis", "diagnosis_model_output", "llm_model", "llm_usage",
    "diagnosis_retry_count", "error_count"]

theorem leads_ofDiagnosis (hs : Undecided s) (hc : Collected env h s)
    (hkeys : ∀ m ∈ u.members, m.1 ∈ diagnosisKeys)
    (hdiagnosed : (merge s u).get "phase" = .str "diagnosis_completed" →
      ∃ d : Diagnosis, (merge s u).get "diagnosis" = d.dump lib ∧ Checked lib d s) :
    Leads env lib parts .diagnoseIncident s (merge s u) h := by
  have hsame : s.SameOn ("clarification_round" :: "approval_record" :: "action_result" ::
      collectionKeys ++ checkKeys) (merge s u) := by
    refine sameOn_merge hs.object (by simp [collectionKeys, checkKeys]) fun m hm hmem => ?_
    have hkey := hkeys m hm
    generalize m.1 = k at hkey hmem
    simp only [diagnosisKeys, List.mem_cons, List.not_mem_nil, or_false] at hkey
    rcases hkey with rfl | rfl | rfl | rfl | rfl | rfl | rfl <;>
      simp [collectionKeys, checkKeys] at hmem
  have hs' : Undecided (merge s u) := by
    refine ⟨by rw [isObject_merge, hs.object], ?_, ?_⟩
    · rw [hsame.get (by simp), hs.record]
    · rw [hsame.get (by simp), hs.result]
  have hc' : Collected env h (merge s u) :=
    hc.later (List.suffix_refl h) (hsame.mono (by simp [collectionKeys]))
  have hd : (merge s u).get "phase" = .str "diagnosis_completed" →
      Diagnosed env lib h (merge s u) := by
    intro hphase
    obtain ⟨d, hdump, hchecked⟩ := hdiagnosed hphase
    exact ⟨hc', d, hdump, hchecked.sameOn (hsame.mono (by simp [checkKeys]))⟩
  by_cases hplanner : parts.planner = true
  · by_cases hdialogue : parts.dialogue = true
    · refine leads_of_some .prepareClarification ?_ ⟨hs', hc'.toRequested, hd⟩ ?_
      · simp [IncidentNode.route, hplanner, hdialogue]
      · simp only [rank, roundsLeft]
        rw [hsame "clarification_round" (by simp)]
        omega
    · refine leads_routeAfterDiagnosis ?_ (by simp only [rank]; omega) hs' hd
      simp [IncidentNode.route, hplanner, hdialogue]
  · exact leads_of_none (by simp [IncidentNode.route, hplanner])

/-- The members of a progress are those of a diagnosis. -/
theorem mem_diagnosisKeys {progress : DiagnosisProgress} {m : String × Json}
    (hm : m ∈ progress.members) : m.1 ∈ diagnosisKeys := by
  simp only [DiagnosisProgress.members, List.mem_cons, List.not_mem_nil, or_false] at hm
  rcases hm with rfl | rfl | rfl | rfl <;> simp [diagnosisKeys]

theorem lookup_progress (progress : DiagnosisProgress) {k : String}
    (hk : k ≠ "diagnosis_model_output" ∧ k ≠ "llm_model" ∧ k ≠ "llm_usage" ∧
      k ≠ "diagnosis_retry_count") : progress.members.reverse.lookup k = none := by
  simp [DiagnosisProgress.members, Json.lookup_cons_ite, hk]

theorem leads_diagnosisFailed (hs : Undecided s) (hc : Collected env h s)
    {progress : DiagnosisProgress} {e : Raised} :
    (diagnosisFailed env lib s progress e).Keeps (Asks env lib .diagnoseIncident s)
      (fun u h' => Leads env lib parts .diagnoseIncident s (merge s u) h') h := by
  -- All three ends set the same members.
  have hfailed : ∀ code event : String, (failure env s "diagnosis_failed" "diagnose_incident" code
      (lib.errorText e) event (("diagnosis", .null) :: progress.members)).Keeps
      (Asks env lib .diagnoseIncident s)
      (fun u h' => Leads env lib parts .diagnoseIncident s (merge s u) h') h := by
    intro code event
    refine Act.keeps_bind (Act.keeps_ofExcept fun count _ => keeps_update asks_now ?_)
    intro u h' hh hu _ _
    refine leads_ofDiagnosis hs (hc.later hh (.refl _ _)) ?_ fun hphase => ?_
    · intro m hm
      rw [hu] at hm
      simp only [List.cons_append, List.mem_cons, List.mem_append, List.not_mem_nil,
        or_false] at hm
      rcases hm with rfl | rfl | hm | rfl
      · simp [diagnosisKeys]
      · simp [diagnosisKeys]
      · exact mem_diagnosisKeys hm
      · simp [diagnosisKeys]
    · have hfailed : (merge s u).get "phase" = .str "diagnosis_failed" :=
        get_merge_of_lookup hs.object (by simp) (by
          simp [hu, Json.lookup_cons_ite, List.lookup_append, lookup_progress])
      rw [hfailed] at hphase
      simp at hphase
  exact Act.keeps_ite (fun _ => hfailed _ _) fun _ => Act.keeps_ite (fun _ => hfailed _ _)
    fun _ => hfailed _ _

/-- A diagnosis that has passed its checks. -/
theorem leads_diagnosed (hs : Undecided s) (hc : Collected env h s) {d : Diagnosis}
    (hd : Checked lib d s) {progress : DiagnosisProgress}
    {events : List (String × String × String)} :
    (update env ([("phase", .str "diagnosis_completed"), ("diagnosis", d.dump lib)] ++
        progress.members) [] events).Keeps (Asks env lib .diagnoseIncident s)
      (fun u h' => Leads env lib parts .diagnoseIncident s (merge s u) h') h := by
  refine keeps_update asks_now ?_
  intro u h' hh hu _ _
  refine leads_ofDiagnosis hs (hc.later hh (.refl _ _)) ?_ fun _ => ⟨d, ?_, hd⟩
  · intro m hm
    rw [hu] at hm
    simp only [List.cons_append, List.nil_append, List.mem_cons] at hm
    rcases hm with rfl | rfl | hm
    · simp [diagnosisKeys]
    · simp [diagnosisKeys]
    · exact mem_diagnosisKeys hm
  · exact get_merge_of_lookup hs.object (by simp) (by
      simp [hu, List.lookup_append, lookup_progress])

theorem checkDiagnosis_eq_ok {d : Diagnosis} {checked : CheckedDiagnosis}
    (h : checkDiagnosis lib d s = .ok checked) : Checked lib checked.report s := by
  simp only [checkDiagnosis, bind_eq_ok, pure_eq_ok] at h
  obtain ⟨_, -, _, -, _, -, _, -, _, -, report, -, ⟨⟩, hreferences, ⟨⟩, hassessment, _, -, rfl⟩ := h
  exact ⟨hreferences, hassessment⟩

theorem localDiagnosis_eq_ok {d : Diagnosis} (h : localDiagnosis lib s = .ok (some d)) :
    Checked lib d s := by
  simp only [localDiagnosis, bind_eq_ok] at h
  obtain ⟨facts, -, h⟩ := h
  split at h
  · simp only [bind_eq_ok, pure_eq_ok, Option.some.injEq] at h
    obtain ⟨_, -, ⟨⟩, hreferences, ⟨⟩, hassessment, rfl⟩ := h
    exact ⟨hreferences, hassessment⟩
  · simp at h

theorem leads_diagnoseAttempts (hs : Undecided s) (hlocal : localDiagnosis lib s = .ok none)
    (attempts : ℕ) (hc : Collected env h s) (feedback : Option String)
    (progress : DiagnosisProgress) :
    (diagnoseAttempts env lib s attempts feedback progress).Keeps
      (Asks env lib .diagnoseIncident s)
      (fun u h' => Leads env lib parts .diagnoseIncident s (merge s u) h') h := by
  induction attempts generalizing h feedback progress with
  | zero => exact leads_diagnosisFailed hs hc
  | succ attempts ih =>
    have hlater : ∀ e, Collected env (e :: h) s := fun e =>
      hc.later (List.suffix_cons e h) (.refl _ _)
    refine Act.keeps_bind ?_
    refine ⟨⟨rfl, hlocal, feedback, rfl⟩, fun answer r hr => ?_⟩
    obtain rfl := Except.ok.inj hr
    cases answer with
    | error e => exact leads_diagnosisFailed hs (hlater _)
    | ok result =>
      dsimp only
      split
      · rename_i checked hchecked
        exact leads_diagnosed hs (hlater _) (checkDiagnosis_eq_ok hchecked)
      · exact Act.keeps_ite (fun _ => ih (hlater _) _ _) fun _ => leads_diagnosisFailed hs (hlater _)

theorem leads_diagnoseIncident (hs : Undecided s) (hc : Collected env h s) :
    (IncidentAgent.diagnoseIncident env lib s).Keeps (Asks env lib .diagnoseIncident s)
      (fun u h' => Leads env lib parts .diagnoseIncident s (merge s u) h') h := by
  unfold IncidentAgent.diagnoseIncident
  split
  · exact leads_diagnosisFailed hs hc
  · rename_i d hd
    exact leads_diagnosed hs hc (localDiagnosis_eq_ok hd)
  · rename_i hlocal
    exact leads_diagnoseAttempts hs hlocal 2 hc none .none

/-! ### Questions -/

theorem leads_notAsked (hs : Undecided s)
    (hd : s.get "phase" = .str "diagnosis_completed" → Diagnosed env lib h s) {exhausted : Bool}
    {trace : List Json} : (notAsked exhausted trace).Keeps (Asks env lib .prepareClarification s)
      (fun u h' => Leads env lib parts .prepareClarification s (merge s u) h') h := by
  refine Act.keeps_pure ?_
  generalize hu : (⟨_, _, trace⟩ : Update) = u
  have hmembers : u.members = [("question", .null), ("clarification_exhausted", .bool exhausted)] :=
    hu ▸ rfl
  have hquestion : (merge s u).get "question" = .null :=
    get_merge_of_lookup hs.object (by simp) (by simp [hmembers, Json.lookup_cons_ite])
  have hsame : s.SameOn ("phase" :: basisKeys) (merge s u) :=
    sameOn_merge hs.object (by simp [basisKeys]) (by simp [hmembers, basisKeys])
  refine leads_routeAfterDiagnosis ?_ ?_ (hs.merge (by simp [hmembers])) fun hphase => ?_
  · simp [IncidentNode.route, routeAfterQuestion, hquestion, Json.truthy]
  · simp only [rank]
    omega
  · rw [hsame.get (by simp)] at hphase
    exact (hd hphase).later (List.suffix_refl h) (hsame.mono (by simp))

theorem leads_askUser (hs : Undecided s) (hr : Requested s)
    (hd : s.get "phase" = .str "diagnosis_completed" → Diagnosed env lib h s) {count : Int}
    (hcount : clarificationRound s = .ok count) (hleft : count < 2) :
    (askUser env lib s count).Keeps (Asks env lib .prepareClarification s)
      (fun u h' => Leads env lib parts .prepareClarification s (merge s u) h') h := by
  have hd' : ∀ e, s.get "phase" = .str "diagnosis_completed" → Diagnosed env lib (e :: h) s :=
    fun e hphase => (hd hphase).later (List.suffix_cons e h) (.refl _ _)
  refine Act.keeps_bind ?_
  refine ⟨rfl, fun answer r hr' => ?_⟩
  obtain rfl := Except.ok.inj hr'
  cases answer with
  | error e =>
    refine Act.keeps_ite (fun _ => ?_) fun _ => Act.keeps_throw e
    refine Act.keeps_bind (Act.keeps_call trivial fun now => ?_)
    exact leads_notAsked hs fun hphase =>
      (hd' _ hphase).later (List.suffix_cons _ _) (.refl _ _)
  | ok _ =>
    refine Act.keeps_bind (Act.keeps_ofExcept fun runId _ => Act.keeps_pure ?_)
    generalize hu : (⟨_, _, _⟩ : Update) = u
    have hround : u.members.reverse.lookup "clarification_round" = some (.num (count + 1)) := by
      rw [← hu]
      simp [Json.lookup_cons_ite]
    have hquestion : ((merge s u).get "question").truthy = true := by
      rw [get_merge_of_lookup hs.object (by simp)
        (by rw [← hu]; simp only [List.reverse_cons, List.reverse_nil, List.nil_append,
          List.cons_append, Json.lookup_cons_ite]; rfl)]
      rfl
    have hkeys : ∀ m ∈ u.members, m.1 ∉ ["approval_record", "action_result"] ∧ m.1 ≠ "request" := by
      rw [← hu]
      simp
    refine leads_of_some .awaitUserInput ?_
      ⟨hs.merge fun m hm => (hkeys m hm).1, hr.sameOn ?_⟩ ?_
    · simp [IncidentNode.route, routeAfterQuestion, hquestion]
    · exact get_merge_of_notMem hs.object (by simp) (by simp) fun m hm => (hkeys m hm).2
    · -- The round that is begun is one of those that were left.
      have hbefore : roundsLeft s = (2 - count).toNat := by
        unfold roundsLeft
        rw [rowOr_eq_ok.1 hcount]
        rfl
      have hafter : roundsLeft (merge s u) = (2 - (count + 1)).toNat := by
        unfold roundsLeft
        rw [get?_merge hs.object (by simp) (by simp), hround]
        rfl
      simp only [rank, hbefore, hafter]
      omega

theorem leads_prepareClarification (hs : Undecided s) (hr : Requested s)
    (hd : s.get "phase" = .str "diagnosis_completed" → Diagnosed env lib h s) :
    (IncidentAgent.prepareClarification env lib s).Keeps (Asks env lib .prepareClarification s)
      (fun u h' => Leads env lib parts .prepareClarification s (merge s u) h') h := by
  refine Act.keeps_bind (Act.keeps_ofExcept fun count hcount => ?_)
  refine Act.keeps_ite (fun _ => leads_notAsked hs hd) fun hopen => ?_
  simp only [not_or] at hopen
  exact leads_askUser hs hr hd hcount (by omega)

theorem leads_awaitUserInput (hs : Undecided s) (hr : Requested s) :
    (IncidentAgent.awaitUserInput s).Keeps (Asks env lib .awaitUserInput s)
      (fun u h' => Leads env lib parts .awaitUserInput s (merge s u) h') h := by
  refine Act.keeps_bind (Act.keeps_ofExcept fun question hquestion => ?_)
  have hget : question = s.get "question" := by
    rw [Json.get, rowOr_eq_ok.1 hquestion]
    rfl
  refine Act.keeps_bind (Act.keeps_call (.inl ⟨rfl, hget⟩) fun answer => ?_)
  refine Act.keeps_bind (Act.keeps_ofExcept fun _ _ => ?_)
  refine Act.keeps_bind (Act.keeps_ofExcept fun skip _ => Act.keeps_pure ?_)
  generalize hu : (⟨_, _, _⟩ : Update) = u
  have hkeys : ∀ m ∈ u.members, m.1 ∉ ["approval_record", "action_result"] ∧ m.1 ≠ "request" ∧
      m.1 ≠ "clarification_round" := by
    rw [← hu]
    simp
  cases hroute : routeAfterAnswer (merge s u) with
  | skipRemediation =>
    refine leads_of_some .skipRemediation (by simp [IncidentNode.route, hroute]) trivial ?_
    simp only [rank]
    omega
  | collectEvidence =>
    refine leads_of_some .collectEvidence (by simp [IncidentNode.route, hroute])
      ⟨hs.merge fun m hm => (hkeys m hm).1, hr.sameOn ?_⟩ ?_
    · exact get_merge_of_notMem hs.object (by simp) (by simp) fun m hm => (hkeys m hm).2.1
    · simp only [rank]
      rw [roundsLeft_merge hs.object fun m hm => (hkeys m hm).2.2]
      omega
  | _ =>
    unfold routeAfterAnswer at hroute
    split at hroute <;> cases hroute

/-! ### The plan -/

theorem leads_planRemediation (hs : Undecided s) (hd : Diagnosed env lib h s) (hf : NamesFault s) :
    (IncidentAgent.planRemediation env lib s).Keeps (Asks env lib .planRemediation s)
      (fun u h' => Leads env lib parts .planRemediation s (merge s u) h') h := by
  have hfailed : ∀ {s'}, s'.get? "phase" = some (.str "remediation_failed") →
      IncidentNode.route parts .planRemediation s' = none := by
    intro s' hs'
    simp [IncidentNode.route, routeAfterRemediation, IncidentNode.when, inPhase, Json.hasText, hs']
  refine Act.keeps_bind (Act.keeps_attempt (Act.keeps_bind (Act.keeps_bind
    (Act.keeps_call ⟨rfl, rfl⟩ fun answer => Act.keeps_ofExcept fun result _ => ?_))) ?_)
  · refine Act.keeps_bind (Act.keeps_ofExcept fun prepared hprepared => Act.keeps_pure ?_)
    obtain ⟨plan, added⟩ := prepared
    have hvalid := (prepareRemediationPlan_eq_ok hprepared).valid
    refine keeps_update asks_now ?_
    intro u h' hh hu _ _
    rcases hroute : IncidentNode.route parts .planRemediation (merge s u) with _ | next
    · exact leads_of_none hroute
    · have happroval : next = .prepareApproval ∧
          (merge s u).get "requires_approval" = .bool true := by
        simp only [IncidentNode.route, routeAfterRemediation, IncidentNode.when] at hroute
        split at hroute
        · rename_i hcondition
          simp only [Bool.and_eq_true, decide_eq_true_eq] at hcondition
          exact ⟨(Option.some.inj hroute).symm, hcondition.2⟩
        · cases hroute
      obtain ⟨rfl, happroval⟩ := happroval
      have hsame : s.SameOn ("diagnosis" :: collectionKeys ++ checkKeys) (merge s u) :=
        sameOn_merge hs.object (by simp [collectionKeys, checkKeys])
          (by simp [hu, collectionKeys, checkKeys])
      have hdiagnosis : (merge s u).get "diagnosis" = s.get "diagnosis" := hsame.get (by simp)
      obtain ⟨d, hdump, hchecked⟩ := hd.diagnosed
      refine leads_of_some .prepareApproval hroute ⟨hs.merge (by simp [hu]), ?_⟩ ?_
      · refine ⟨⟨?_, d, hdiagnosis.trans hdump, ?_⟩, ⟨happroval, plan, ?_, ?_⟩, ?_⟩
        · exact hd.toCollected.later ((List.suffix_cons _ _).trans hh)
            (hsame.mono (by simp [collectionKeys]))
        · exact hchecked.sameOn (hsame.mono (by simp [checkKeys]))
        · exact get_merge_of_lookup hs.object (by simp) (by simp [hu, Json.lookup_cons_ite])
        · rw [remediationState_sameOn (hsame.mono (by simp [checkKeys])) hdiagnosis, hvalid]
        · rw [NamesFault, hdiagnosis]
          exact hf
      · simp [rank]
  · intro e h' _
    exact Act.keeps_ite (fun _ => leads_failure (by simp) (fun _ => hfailed) hs.object)
      fun _ => leads_failure (by simp) (fun _ => hfailed) hs.object

/-! ### The approval and the write -/

theorem leads_prepareApproval (hs : Undecided s) (hp : Planned env lib h s) :
    (IncidentAgent.prepareApproval env lib s).Keeps (Asks env lib .prepareApproval s)
      (fun u h' => Leads env lib parts .prepareApproval s (merge s u) h') h := by
  refine (keeps_prepareApproval asks_now hs hp.approval).mono ?_
  rintro u h' ⟨hhanded, hundecided, hnext⟩
  rcases hroute : routeAfterPrepareApproval (merge s u) with _ | next
  · exact leads_of_none hroute
  · obtain ⟨-, rfl⟩ := when_eq_some hroute
    have hawaiting := hnext.resolve_left (by simp [hroute])
    exact leads_of_some .requestHumanApproval hroute
      ⟨hundecided, hp.later hhanded.history hhanded.same, hawaiting⟩ (by simp [rank])

theorem leads_requestHumanApproval (hs : Undecided s) (hp : Planned env lib h s)
    (ha : Awaiting env lib s) :
    (IncidentAgent.requestHumanApproval env lib s).Keeps (Asks env lib .requestHumanApproval s)
      (fun u h' => Leads env lib parts .requestHumanApproval s (merge s u) h') h := by
  refine (keeps_requestHumanApproval asks_now (fun h request hrequest =>
    Or.inr ⟨rfl, request, hrequest, rfl⟩) hs ha).mono ?_
  rintro u h' ⟨hhanded, hnext⟩
  rcases hroute : IncidentNode.route parts .requestHumanApproval (merge s u) with _ | next
  · exact leads_of_none hroute
  · have happroval : routeAfterApproval (merge s u) = some next := by
      simp only [IncidentNode.route] at hroute
      split at hroute
      · exact hroute
      · cases hroute
    obtain ⟨-, rfl⟩ := when_eq_some happroval
    have happroved := hnext.resolve_left (by simp [happroval])
    exact leads_of_some .executeRemediation hroute
      ⟨hp.later hhanded.history hhanded.same, happroved⟩ (by simp [rank])

theorem leads_executeRemediation (hs : s.isObject = true) :
    (IncidentAgent.executeRemediation env lib s).Keeps (Asks env lib .executeRemediation s)
      (fun u h' => Leads env lib parts .executeRemediation s (merge s u) h') h := by
  refine (keeps_executeRemediation asks_now (fun _ => ⟨rfl, rfl⟩) hs).mono ?_
  intro u h' hnext
  rcases hroute : IncidentNode.route parts .executeRemediation (merge s u) with _ | next
  · exact leads_of_none hroute
  · have hexecution : routeAfterExecution (merge s u) = some next := by
      simp only [IncidentNode.route] at hroute
      split at hroute
      · exact hroute
      · cases hroute
    obtain ⟨-, rfl⟩ := when_eq_some hexecution
    exact leads_of_some .verifyRecovery hroute (hnext.resolve_left (by simp [hexecution]))
      (by simp [rank])

theorem leads_verifyRecovery :
    (verifyRecoveryNode env lib s).Keeps (Asks env lib .verifyRecovery s)
      (fun u h' => Leads env lib parts .verifyRecovery s (merge s u) h') h :=
  (keeps_verifyRecovery asks_now fun _ => ⟨rfl, rfl⟩).mono fun _ _ _ => leads_of_none rfl

/-! ### The graph -/

/-- **The graph of an incident meets its annotation.** -/
theorem incidentGraph_ranked (env : Env) (lib : WorkflowLibrary) (parts : GraphParts) :
    (incidentGraph env lib parts).Ranked (Holds env lib) (Asks env lib) rank where
  mono e := Holds.mono e
  visit {h node s} hs := by
    refine keeps_visit (?_ : (node.update env lib s).Keeps _
      (fun u h' => Leads env lib parts node s (merge s u) h') h)
    cases node with
    | validateRequest => exact leads_validateRequest hs
    | planCollection => exact leads_planCollection hs.1 hs.2
    | collectEvidence => exact leads_collectEvidence hs.1 hs.2
    | finishFailure => exact keeps_update asks_now fun _ _ _ _ _ _ => leads_of_none rfl
    | retrieveRunbooks => exact leads_retrieveRunbooks hs.1 hs.2
    | diagnoseIncident => exact leads_diagnoseIncident hs.1 hs.2
    | prepareClarification => exact leads_prepareClarification hs.1 hs.2.1 hs.2.2
    | awaitUserInput => exact leads_awaitUserInput hs.1 hs.2
    | planRemediation => exact leads_planRemediation hs.1 hs.2.1 hs.2.2
    | skipRemediation => exact keeps_update asks_now fun _ _ _ _ _ _ => leads_of_none rfl
    | prepareApproval => exact leads_prepareApproval hs.1 hs.2
    | requestHumanApproval => exact leads_requestHumanApproval hs.1 hs.2.1 hs.2.2
    | executeRemediation => exact leads_executeRemediation hs.2.object
    | verifyRecovery => exact leads_verifyRecovery

end

end Place

end IncidentAgent
