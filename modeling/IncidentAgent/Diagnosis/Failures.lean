import IncidentAgent.Diagnosis.Rules

/-!
# Failed reads in the rule-based diagnosis

None of the rules looks at the errors of the collection but the first, which asks for a Service
that does not exist. So a list that is empty since its read failed is to the others a list that
is empty, and a pod whose status was not read is no pod of the Service.

That no diagnosis takes a failed read for an observation is `Faithful`. It holds unless the
reads fail in one of two ways (`diagnosis_faithful_iff`): a listing behind the selector fails
and the namespace has pods (`HidesSelected`), or the status of some pods of the Service is not
read while the others are well (`HidesPod`).
-/

namespace IncidentAgent

namespace Rules

variable {Log Node : Type} {lib : RuleLibrary} {bundle : EvidenceBundle Log Node}
  {reads : EvidenceReads Log Node}

/-! ### When a rule applies, in terms of the reads -/

/-- What a selector that matches nothing looks like: it was read and is not empty, pods of the
namespace are known, and neither a pod of the Service nor a ready endpoint is. -/
def MatchesNothing (reads : EvidenceReads Log Node) : Prop :=
  ∃ service, reads.service = .ok service ∧ service.selector ≠ [] ∧ reads.selected = [] ∧
    reads.ofNamespace ≠ [] ∧ readyEndpointCount reads.slices = 0

/-- What a Service that is well looks like: the status of one of its pods was read, each status
that was read is that of a pod that is well, and a ready endpoint is known. -/
def LooksWell (reads : EvidenceReads Log Node) : Prop :=
  (∃ service, reads.service = .ok service) ∧
    (∃ name ∈ reads.selected, ∃ pod, reads.podStatus name = .ok pod) ∧
    (∀ name ∈ reads.selected, ∀ pod, reads.podStatus name = .ok pod → runsReady pod = true) ∧
    readyEndpointCount reads.slices ≠ 0

theorem serviceNotFoundRule_isSome (h : Collected reads bundle) :
    (serviceNotFoundRule lib bundle).isSome = true ↔
      ∃ e, reads.service = .error e ∧ e.statusCode = some 404 := by
  rw [← h.notFound, serviceNotFoundRule]
  split
  · rename_i hany
    simp only [Option.isSome_some, hany]
  · rename_i hany
    simp only [Option.isSome_none, hany]

theorem service_eq_some (h : Collected reads bundle) {service : ServiceInfo} :
    bundle.service = some service ↔ reads.service = .ok service := by
  rw [h.service]
  cases reads.service <;> simp [Except.toOption]

theorem selectorMismatchRule_isSome (h : Collected reads bundle) :
    (selectorMismatchRule lib bundle).isSome = true ↔ MatchesNothing reads := by
  have hselects (service : ServiceInfo) : selectsNothing bundle service = true ↔
      service.selector ≠ [] ∧ reads.selected = [] ∧ reads.ofNamespace ≠ [] ∧
        readyEndpointCount reads.slices = 0 := by
    rw [selectsNothing, h.servicePodNames, h.namespacePodNames, h.endpointSlices]
    simp [and_assoc]
  unfold selectorMismatchRule
  constructor
  · intro hsome
    split at hsome
    · cases hsome
    · rename_i service hservice
      split at hsome
      · rename_i hselect
        exact ⟨service, (service_eq_some h).1 hservice, (hselects service).1 hselect⟩
      · cases hsome
  · rintro ⟨service, hread, hrest⟩
    simp only [(service_eq_some h).2 hread, if_pos ((hselects service).2 hrest),
      Option.isSome_some]

theorem containerRule_isSome {faulty : ContainerStatusInfo → Bool}
    {report : PodInfo → ContainerStatusInfo → DiagnosisResult} :
    (containerRule faulty report bundle).isSome = true ↔
      ∃ e ∈ bundle.podStatuses, ∃ c ∈ e.2.containers, faulty c = true := by
  simp [containerRule, List.findSome?_isSome_iff]

/-- A failed readiness probe is that of a pod that is not ready. -/
theorem readinessProbeRule_isSome (h : (readinessProbeRule lib bundle).isSome = true) :
    ∃ e ∈ bundle.podStatuses, runsReady e.2 = false := by
  obtain ⟨e, he, hsome⟩ := List.findSome?_isSome_iff.1 h
  refine ⟨e, he, ?_⟩
  split at hsome
  · cases hsome
  · rename_i hnot
    simp only [Bool.or_eq_true, not_or, Bool.not_eq_true] at hnot
    rw [runsReady, hnot.2, Bool.and_false]

/-- A pod of the Service is looked at. -/
theorem mem_looked {name : String} (h : name ∈ reads.selected) : name ∈ reads.looked := by
  rw [EvidenceReads.looked, if_neg (List.ne_nil_of_mem h)]
  exact h

theorem looked_eq {name : String} (h : name ∈ reads.selected) : reads.looked = reads.selected := by
  rw [EvidenceReads.looked, if_neg (List.ne_nil_of_mem h)]

theorem mem_servicePods (h : Collected reads bundle) {pod : PodInfo} :
    pod ∈ servicePods bundle ↔ ∃ name ∈ reads.selected, reads.podStatus name = .ok pod := by
  rw [servicePods, List.mem_filterMap, h.servicePodNames]
  refine exists_congr fun name => and_congr_right fun hname => ?_
  rw [h.status name (mem_looked hname)]
  cases reads.podStatus name <;> simp [Except.toOption]

theorem healthyRule_isSome (h : Collected reads bundle) :
    (healthyRule bundle).isSome = true ↔ LooksWell reads := by
  have hnone : (servicePods bundle).isEmpty = false ↔
      ∃ name ∈ reads.selected, ∃ pod, reads.podStatus name = .ok pod := by
    rw [List.isEmpty_eq_false_iff_exists_mem]
    simp only [mem_servicePods h]
    constructor
    · rintro ⟨pod, name, hname, hread⟩
      exact ⟨name, hname, pod, hread⟩
    · rintro ⟨name, hname, pod, hread⟩
      exact ⟨pod, name, hname, hread⟩
  have hall : (servicePods bundle).all runsReady = true ↔
      ∀ name ∈ reads.selected, ∀ pod, reads.podStatus name = .ok pod → runsReady pod = true := by
    rw [List.all_eq_true]
    simp only [mem_servicePods h]
    constructor
    · intro hpods name hname pod hread
      exact hpods pod ⟨name, hname, hread⟩
    · rintro hreads pod ⟨name, hname, hread⟩
      exact hreads name hname pod hread
  unfold healthyRule
  constructor
  · intro hsome
    split at hsome
    · cases hsome
    · rename_i service hservice
      split at hsome
      · cases hsome
      · rename_i hnot
        simp only [Bool.or_eq_true, not_or, Bool.not_eq_true, Bool.not_eq_false',
          decide_eq_true_eq] at hnot
        obtain ⟨⟨⟨-, hpods⟩, hready⟩, hcount⟩ := hnot
        rw [h.endpointSlices] at hcount
        exact ⟨⟨service, (service_eq_some h).1 hservice⟩, hnone.1 hpods, hall.1 hready, hcount⟩
  · rintro ⟨⟨service, hread⟩, hsomePod, hready, hcount⟩
    have hnames : bundle.servicePodNames.isEmpty = false := by
      obtain ⟨name, hname, -⟩ := hsomePod
      rw [h.servicePodNames, List.isEmpty_eq_false_iff_exists_mem]
      exact ⟨name, hname⟩
    simp only [(service_eq_some h).2 hread, hnames, hnone.2 hsomePod, hall.2 hready,
      h.endpointSlices, hcount, Bool.false_or, Bool.not_true, decide_false, Bool.false_eq_true,
      if_false, Option.isSome_some]

/-! ### When no failed read is taken for an observation -/

/-- Whether a container has one of the faults that a rule is about. -/
def faulty (c : ContainerStatusInfo) : Bool :=
  outOfMemory c || imageNotPulled c || crashLooping c

/-- A diagnosis that takes no failed read for an observation. -/
structure Faithful (reads : EvidenceReads Log Node) (result : DiagnosisResult) : Prop where
  /-- A Service is healthy only if the status of each of its pods was read, and each runs and is
  ready. -/
  healthy : result.status = .healthy → ∃ names, reads.servicePods = .ok names ∧
    ∀ name ∈ names, ∃ pod, reads.podStatus name = .ok pod ∧ runsReady pod = true
  /-- A selector matches nothing only if its pods and the slices were listed. -/
  selectorMismatch : result.faultCategory = .selectorMismatch →
    (∃ names, reads.servicePods = .ok names) ∧ ∃ slices, reads.endpointSlices = .ok slices
  /-- A Service does not exist only if its read was answered so. -/
  serviceNotFound : result.faultCategory = .serviceNotFound →
    ∃ e, reads.service = .error e ∧ e.statusCode = some 404

/-- The reads hide what a selector matches: it seems to match nothing, and a listing behind it
has failed. -/
def HidesSelected (reads : EvidenceReads Log Node) : Prop :=
  MatchesNothing reads ∧
    ((∃ e, reads.servicePods = .error e) ∨ ∃ e, reads.endpointSlices = .error e)

/-- The reads hide a pod of a Service that seems to be well: its status was not read, and no
container of the others has a fault. -/
def HidesPod (reads : EvidenceReads Log Node) : Prop :=
  LooksWell reads ∧
    (∀ name ∈ reads.selected, ∀ pod, reads.podStatus name = .ok pod →
      ∀ c ∈ pod.containers, faulty c = false) ∧
    ∃ name ∈ reads.selected, ∃ e, reads.podStatus name = .error e

/-- The pods of the Service are those that were listed. -/
theorem servicePods_of_mem {name : String} (h : name ∈ reads.selected) :
    reads.servicePods = .ok reads.selected := by
  unfold EvidenceReads.selected at h ⊢
  cases hservice : reads.service with
  | error e => simp [hservice] at h
  | ok service =>
    cases hpods : reads.servicePods with
    | error e => simp [hservice, hpods] at h
    | ok names => rfl

/-- A container rule does not apply where no container has its fault. -/
theorem containerRule_eq_none (h : Collected reads bundle) {name : String}
    (hname : name ∈ reads.selected)
    (hnone : ∀ name ∈ reads.selected, ∀ pod, reads.podStatus name = .ok pod →
      ∀ c ∈ pod.containers, faulty c = false) {fault : ContainerStatusInfo → Bool}
    {report : PodInfo → ContainerStatusInfo → DiagnosisResult}
    (hfault : ∀ c, fault c = true → faulty c = true) :
    ¬(containerRule fault report bundle).isSome = true := by
  rw [containerRule_isSome]
  rintro ⟨e, he, c, hc, hcfault⟩
  obtain ⟨hlooked, hread⟩ := h.statuses e he
  rw [looked_eq hname] at hlooked
  have hwell := hnone e.1 hlooked e.2 hread c hc
  rw [hfault c hcfault] at hwell
  cases hwell

/-- The selector rule applies before all others, if the Service was read. -/
theorem selectorMismatch_of_matchesNothing (h : Collected reads bundle)
    (hreads : MatchesNothing reads) :
    (diagnoseEvidence lib bundle).faultCategory = .selectorMismatch := by
  have hfound : ¬(serviceNotFoundRule lib bundle).isSome = true := by
    rw [serviceNotFoundRule_isSome h]
    rintro ⟨e, he, -⟩
    obtain ⟨service, hservice, -⟩ := hreads
    rw [hservice] at he
    cases he
  rw [(diagnoseEvidence_eq lib bundle).1, if_neg hfound,
    if_pos ((selectorMismatchRule_isSome h).2 hreads)]

/-- The last rule applies to a Service that looks well and has no container with a fault. -/
theorem healthy_of_looksWell (h : Collected reads bundle) (hwell : LooksWell reads)
    (hnone : ∀ name ∈ reads.selected, ∀ pod, reads.podStatus name = .ok pod →
      ∀ c ∈ pod.containers, faulty c = false) :
    (diagnoseEvidence lib bundle).faultCategory = .healthy := by
  have hlast := (healthyRule_isSome h).2 hwell
  obtain ⟨⟨service, hservice⟩, ⟨name, hname, -⟩, hready, -⟩ := hwell
  have hfound : ¬(serviceNotFoundRule lib bundle).isSome = true := by
    rw [serviceNotFoundRule_isSome h]
    rintro ⟨e, he, -⟩
    rw [hservice] at he
    cases he
  have hselects : ¬(selectorMismatchRule lib bundle).isSome = true := by
    rw [selectorMismatchRule_isSome h]
    rintro ⟨_, -, -, hempty, -⟩
    rw [hempty] at hname
    cases hname
  have hprobe : ¬(readinessProbeRule lib bundle).isSome = true := by
    intro hsome
    obtain ⟨e, he, hnot⟩ := readinessProbeRule_isSome hsome
    obtain ⟨hlooked, hread⟩ := h.statuses e he
    rw [looked_eq hname] at hlooked
    rw [hready e.1 hlooked e.2 hread] at hnot
    cases hnot
  have hoom : ¬(oomKilledRule lib bundle).isSome = true :=
    containerRule_eq_none h hname hnone fun c hc => by rw [faulty, hc]; rfl
  have himage : ¬(imagePullRule lib bundle).isSome = true :=
    containerRule_eq_none h hname hnone fun c hc => by rw [faulty, hc, Bool.or_true]; rfl
  have hcrash : ¬(crashLoopRule lib bundle).isSome = true :=
    containerRule_eq_none h hname hnone fun c hc => by rw [faulty, hc, Bool.or_true]
  rw [(diagnoseEvidence_eq lib bundle).1, if_neg hfound, if_neg hselects, if_neg hoom,
    if_neg himage, if_neg hcrash, if_neg hprobe, if_pos hlast]

/-- A healthy diagnosis is that of the last rule, where the container rules did not apply. -/
theorem looksWell_of_healthy (h : Collected reads bundle)
    (hhealthy : (diagnoseEvidence lib bundle).faultCategory = .healthy) :
    LooksWell reads ∧ ∀ name ∈ reads.selected, ∀ pod, reads.podStatus name = .ok pod →
      ∀ c ∈ pod.containers, faulty c = false := by
  rw [(diagnoseEvidence_eq lib bundle).1] at hhealthy
  split at hhealthy
  · cases hhealthy
  split at hhealthy
  · cases hhealthy
  split at hhealthy
  · cases hhealthy
  rename_i hoom
  split at hhealthy
  · cases hhealthy
  rename_i himage
  split at hhealthy
  · cases hhealthy
  rename_i hcrash
  split at hhealthy
  · cases hhealthy
  split at hhealthy
  · rename_i hlast
    refine ⟨(healthyRule_isSome h).1 hlast, fun name hname pod hread c hc => ?_⟩
    have hstatus := h.status name (mem_looked hname)
    rw [hread] at hstatus
    have he : (name, pod) ∈ bundle.podStatuses := Entries.mem_of_lookup hstatus
    rw [oomKilledRule, containerRule_isSome] at hoom
    rw [imagePullRule, containerRule_isSome] at himage
    rw [crashLoopRule, containerRule_isSome] at hcrash
    by_contra hfaulty
    simp only [faulty, Bool.not_eq_false, Bool.or_eq_true] at hfaulty
    rcases hfaulty with (hfault | hfault) | hfault
    · exact hoom ⟨_, he, c, hc, hfault⟩
    · exact himage ⟨_, he, c, hc, hfault⟩
    · exact hcrash ⟨_, he, c, hc, hfault⟩
  · cases hhealthy

/-- The category of a selector that matches nothing is that of its rule. -/
theorem matchesNothing_of_selectorMismatch (h : Collected reads bundle)
    (hcategory : (diagnoseEvidence lib bundle).faultCategory = .selectorMismatch) :
    MatchesNothing reads := by
  rw [(diagnoseEvidence_eq lib bundle).1] at hcategory
  split at hcategory
  · cases hcategory
  split at hcategory
  · rename_i hselects
    exact (selectorMismatchRule_isSome h).1 hselects
  · repeat' split at hcategory
    all_goals cases hcategory

theorem notFound_of_serviceNotFound (h : Collected reads bundle)
    (hcategory : (diagnoseEvidence lib bundle).faultCategory = .serviceNotFound) :
    ∃ e, reads.service = .error e ∧ e.statusCode = some 404 := by
  rw [(diagnoseEvidence_eq lib bundle).1] at hcategory
  split at hcategory
  · rename_i hfound
    exact (serviceNotFoundRule_isSome h).1 hfound
  · repeat' split at hcategory
    all_goals cases hcategory

/-- A healthy status is that of the healthy category. -/
theorem status_eq_healthy {category : FaultCategory} (h : category.status = .healthy) :
    category = .healthy := by
  cases category with
  | healthy => rfl
  | _ => cases h

/-- **No failed read is taken for an observation**, for all ways in which reads can fail, exactly
if they do not hide what a selector matches, or a pod of a Service that seems to be well. -/
theorem diagnosis_faithful_iff (lib : RuleLibrary) (reads : EvidenceReads Log Node)
    (namespaceName serviceName : String) (includeDetails : Bool) :
    Faithful reads (diagnoseEvidence lib
      (collectServiceEvidence reads namespaceName serviceName includeDetails)) ↔
        ¬HidesSelected reads ∧ ¬HidesPod reads := by
  have h := collect_spec reads namespaceName serviceName includeDetails
  have hstatus := (diagnoseEvidence_eq lib
    (collectServiceEvidence reads namespaceName serviceName includeDetails)).2
  constructor
  · intro hfaithful
    constructor
    · rintro ⟨hnothing, hfailed⟩
      obtain ⟨⟨names, hnames⟩, slices, hslices⟩ :=
        hfaithful.selectorMismatch (selectorMismatch_of_matchesNothing h hnothing)
      rcases hfailed with ⟨e, he⟩ | ⟨e, he⟩
      · rw [hnames] at he
        cases he
      · rw [hslices] at he
        cases he
    · rintro ⟨hwell, hnone, name, hname, e, he⟩
      have hcategory : (diagnoseEvidence lib (collectServiceEvidence reads namespaceName serviceName
          includeDetails)).faultCategory = .healthy := healthy_of_looksWell h hwell hnone
      obtain ⟨names, hnames, hread⟩ := hfaithful.healthy (by rw [hstatus, hcategory]; rfl)
      obtain rfl := Except.ok.inj (hnames.symm.trans (servicePods_of_mem hname))
      obtain ⟨pod, hpod, -⟩ := hread name hname
      rw [hpod] at he
      cases he
  · rintro ⟨hselected, hpod⟩
    refine ⟨fun hhealthy => ?_, fun hcategory => ?_, notFound_of_serviceNotFound h⟩
    · rw [hstatus] at hhealthy
      obtain ⟨hwell, hnone⟩ := looksWell_of_healthy h (status_eq_healthy hhealthy)
      obtain ⟨-, ⟨name, hname, -⟩, hready, -⟩ := id hwell
      refine ⟨reads.selected, servicePods_of_mem hname, fun other hother => ?_⟩
      cases hread : reads.podStatus other with
      | error e => exact absurd ⟨hwell, hnone, other, hother, e, hread⟩ hpod
      | ok pod => exact ⟨pod, rfl, hready other hother pod hread⟩
    · have hnothing := matchesNothing_of_selectorMismatch h hcategory
      constructor
      · cases hread : reads.servicePods with
        | error e => exact absurd ⟨hnothing, Or.inl ⟨e, hread⟩⟩ hselected
        | ok names => exact ⟨names, rfl⟩
      · cases hread : reads.endpointSlices with
        | error e => exact absurd ⟨hnothing, Or.inr ⟨e, hread⟩⟩ hselected
        | ok slices => exact ⟨slices, rfl⟩

/-! ### Reads that fail -/

/-- Reads of a Service whose pods could not be listed. -/
def unlistedReads : EvidenceReads Unit Unit where
  namespacePods := .ok ["orders-1"]
  service := .ok ⟨"orders", [("app", "orders")]⟩
  servicePods := .error ⟨"(500) Internal Server Error", some 500⟩
  endpointSlices := .error ⟨"(500) Internal Server Error", some 500⟩
  podStatus _ := .ok ⟨"orders-1", "Running", true, none, [("app", "orders")], []⟩
  podEvents _ := .ok []
  podLogs _ _ := .ok ()
  podOwner _ := .ok ⟨none⟩
  deployment _ _ := .error ⟨"(404) Not Found", some 404⟩
  node _ _ := .ok ()

/-- How values are shown in it. -/
def plainRules : RuleLibrary where
  reprText text := "'" ++ text ++ "'"
  showLabels _ := ""
  lower := id

/-- A patch of a selector is recommended, although its pods could not be listed. -/
theorem unlistedReads_unfaithful :
    (diagnoseEvidence plainRules (collectServiceEvidence unlistedReads "agent-demo" "orders"
      true)).recommendedAction = some "patch_service_selector" ∧
    ¬Faithful unlistedReads (diagnoseEvidence plainRules (collectServiceEvidence unlistedReads
      "agent-demo" "orders" true)) := by
  have hcategory : (diagnoseEvidence plainRules (collectServiceEvidence unlistedReads "agent-demo"
      "orders" true)).faultCategory = .selectorMismatch := by decide +kernel
  refine ⟨by decide +kernel, fun h => ?_⟩
  obtain ⟨⟨names, hnames⟩, -⟩ := h.selectorMismatch hcategory
  cases hnames

end Rules

end IncidentAgent
