import IncidentAgent.Recovery.Verdict
import Mathlib.Data.List.Nodup

/-!
# Pods that are left out hide nothing

The view after a repair leaves out pods that are on their way out. Two functions decide by
themselves what a pod of the registered Deployment is and which endpoints are its own: the view,
when it leaves a pod out, and the facts, when they count what is left. They agree
(`view_hides_nothing`): a pod is left out only when everything about it says that it leaves, and
facts that call the resources ready have counted enough pods that stay, one of which is served.
-/

namespace IncidentAgent

/-- A row about a pod of the registered Deployment that is on its way out: it is not ready, and
every endpoint with its name is its own, leaves, and takes no requests. -/
structure Leaves (profile : ServiceProfile) (state : PolicyState) (row : EvidenceRow) : Prop where
  owned : row.resourceName ∈ ownedPods profile state.request
    (state.evidence.filter fun e => e.error.isNone)
  notReady : row.data.get "ready" = .bool false
  address : (row.data.get "pod_ip").truthy = true
  served : endpointRecords state.request state.evidence row.resourceName ≠ []
  leaving : ∀ endpoint ∈ endpointRecords state.request state.evidence row.resourceName,
    endpoint.get "target_kind" = .str "Pod" ∧
      (∃ address ∈ (endpoint.get "addresses").items,
        address.pyEq (row.data.get "pod_ip") = true) ∧
      endpoint.get "terminating" = .bool true ∧ endpoint.get "ready" = .bool false ∧
      endpoint.get "serving" = .bool false

/-- Pods that stay: they are owned, ready, and not among the names that are left out. -/
structure Stays (profile : ServiceProfile) (state : PolicyState) (names : List String)
    (row : EvidenceRow) : Prop where
  mem : row ∈ state.evidence
  pod : row.resourceType = "PodStatus"
  owned : row.resourceName ∈ ownedPods profile state.request
    (state.evidence.filter fun e => e.error.isNone)
  kept : row.resourceName ∉ names
  ready : row.data.get "ready" = .bool true

/-- The resources are served: the desired number of pods stays, under different names, and a ready
endpoint of the Service points to a pod that is not left out. -/
structure Served (profile : ServiceProfile) (state : PolicyState) (names : List String)
    (desired : Int) : Prop where
  pods : ∃ rows : List EvidenceRow, (∀ row ∈ rows, Stays profile state names row) ∧
    (rows.map (·.resourceName)).Nodup ∧ desired ≤ rows.length
  endpoint : ∃ slice ∈ state.evidence, slice.resourceType = "EndpointSlice" ∧
    ∃ endpoint ∈ (slice.data.get "endpoints").items, endpoint.get "ready" = .bool true ∧
      ∃ name ∈ ownedPods profile state.request (state.evidence.filter fun e => e.error.isNone),
        endpoint.get "target_name" = .str name ∧ name ∉ names

/-- **What the view leaves out** is exactly the status of the pods it names, each of which leaves;
and where the facts of the view say that the resources are ready, the desired number of them
stays and is served. -/
structure HidesNothing (lib : CheckLibrary) (state : PolicyState) : Prop where
  view : (recoveryResourceView lib.toLibrary state).1 =
    { state with evidence := state.evidence.filter fun row => ¬(row.resourceType = "PodStatus" ∧
        row.resourceName ∈ (recoveryResourceView lib.toLibrary state).2) }
  excluded : ∀ name ∈ (recoveryResourceView lib.toLibrary state).2, ∃ profile,
    matchedProfile lib.toLibrary state = .ok profile ∧ ∃ row ∈ state.evidence,
      row.resourceType = "PodStatus" ∧ row.resourceName = name ∧ Leaves profile state row
  ready : ∀ facts,
    diagnosticFactsOf lib (recoveryResourceView lib.toLibrary state).1 = .ok facts →
      facts.resourceStatus = .ready → ∃ profile deployment desired,
        matchedProfile lib.toLibrary state = .ok profile ∧
        rowsNamed state.evidence "Deployment" profile.deploymentName = [deployment] ∧
        deployment.data.get "desired_replicas" = .num desired ∧
        Served profile state (recoveryResourceView lib.toLibrary state).2 desired

section Exclusion

variable {lib : CheckLibrary} {state : PolicyState} {profile : ServiceProfile}

/-- A row that is left out leaves. -/
theorem leaves_of_isExcluded {row : EvidenceRow}
    (h : isExcluded profile state.request state.evidence row = true) :
    row.resourceType = "PodStatus" ∧ row.error = none ∧
      (row.data.get "namespace").pyEq (state.request.get "namespace") = true ∧
      Leaves profile state row := by
  simp only [isExcluded, Bool.and_eq_true, decide_eq_true_eq, Option.isNone_iff_eq_none,
    Bool.not_eq_true', List.all_eq_true, isLeaving, List.any_eq_true] at h
  obtain ⟨⟨⟨⟨⟨⟨⟨⟨hkind, herror⟩, hnamespace⟩, howned⟩, hready⟩, -⟩, haddress⟩, hserved⟩,
    hleaving⟩ := h
  refine ⟨hkind, herror, hnamespace, howned, hready, haddress, ?_, fun endpoint hendpoint => ?_⟩
  · intro hnil
    rw [hnil] at hserved
    cases hserved
  · obtain ⟨⟨⟨⟨hpod, address, haddress⟩, hterminating⟩, hready⟩, hserving⟩ :=
      hleaving endpoint hendpoint
    exact ⟨get_of_hasText hpod, ⟨address, haddress⟩, hterminating, hready, hserving⟩

theorem mem_excludedPods {name : String} :
    name ∈ excludedPods profile state.request state.evidence ↔
      ∃ row ∈ state.evidence, isExcluded profile state.request state.evidence row = true ∧
        row.resourceName = name := by
  rw [excludedPods, List.mem_mergeSort, List.mem_eraseDups, List.mem_map]
  simp only [List.mem_filter, and_assoc]

/-- The view of a matched profile. -/
theorem recoveryResourceView_of_matched (h : matchedProfile lib.toLibrary state = .ok profile) :
    recoveryResourceView lib.toLibrary state =
      (⟨state.request, state.serviceProfile, state.evidence.filter fun row =>
          !leftOut state.request (excludedPods profile state.request state.evidence) row⟩,
        excludedPods profile state.request state.evidence) := by
  rw [recoveryResourceView, h]

/-- With one row for each pod, the rows that are left out are those with the names. -/
theorem leftOut_iff
    (hunique : ((rowsOf state.evidence "PodStatus").map (·.resourceName)).Nodup)
    {row : EvidenceRow} (hrow : row ∈ state.evidence) :
    leftOut state.request (excludedPods profile state.request state.evidence) row = true ↔
      row.resourceType = "PodStatus" ∧
        row.resourceName ∈ excludedPods profile state.request state.evidence := by
  simp only [leftOut, Bool.and_eq_true, decide_eq_true_eq, Option.isNone_iff_eq_none]
  constructor
  · rintro ⟨⟨⟨hkind, hname⟩, -⟩, -⟩
    exact ⟨hkind, hname⟩
  · rintro ⟨hkind, hname⟩
    obtain ⟨other, hother, hexcluded, hsame⟩ := mem_excludedPods.1 hname
    obtain ⟨hpod, herror, hnamespace, -⟩ := leaves_of_isExcluded hexcluded
    -- Both rows are the one row of the pod.
    have hrows : ∀ e ∈ state.evidence, e.resourceType = "PodStatus" →
        e ∈ rowsOf state.evidence "PodStatus" := fun e he hk =>
      List.mem_filter.2 ⟨he, decide_eq_true hk⟩
    obtain rfl := List.inj_on_of_nodup_map hunique (hrows _ hrow hkind) (hrows _ hother hpod)
      hsame.symm
    exact ⟨⟨⟨hkind, hname⟩, hnamespace⟩, herror⟩

/-- The rows of a kind that is no pod, as the view has them. -/
theorem rowsNamed_view {kind name : String} (hkind : kind ≠ "PodStatus") :
    rowsNamed (recoveryResourceView lib.toLibrary state).1.evidence kind name =
      rowsNamed state.evidence kind name := by
  refine recoveryResourceView_rows _ _ _ fun row hrow => ?_
  rw [Bool.and_eq_true, decide_eq_true_eq] at hrow
  exact hrow.1 ▸ hkind

/-- The view has the profile of the state. -/
theorem matchedProfile_view :
    matchedProfile lib.toLibrary (recoveryResourceView lib.toLibrary state).1 =
      matchedProfile lib.toLibrary state := by
  have hframe := recoveryResourceView_frame lib.toLibrary state
  simp only [matchedProfile, hframe.1, hframe.2, deploymentInEvidence,
    rowsNamed_view (by decide : "Deployment" ≠ "PodStatus")]

/-- The rows of a kind that is no pod and have no error, as the view has them. -/
theorem rowsOf_view {kind : String} (hkind : kind ≠ "PodStatus") :
    rowsOf ((recoveryResourceView lib.toLibrary state).1.evidence.filter fun e => e.error.isNone)
        kind = rowsOf (state.evidence.filter fun e => e.error.isNone) kind := by
  have hrows := recoveryResourceView_rows lib.toLibrary state
    (fun row => decide (row.resourceType = kind) && row.error.isNone) fun row hrow => by
      rw [Bool.and_eq_true, decide_eq_true_eq] at hrow
      exact hrow.1 ▸ hkind
  rw [rowsOf, rowsOf, List.filter_filter, List.filter_filter]
  exact hrows

/-- The view has the pods of the Deployment that the state has. -/
theorem ownedPods_view :
    ownedPods profile state.request ((recoveryResourceView lib.toLibrary state).1.evidence.filter
        fun e => e.error.isNone) =
      ownedPods profile state.request (state.evidence.filter fun e => e.error.isNone) := by
  rw [ownedPods, ownedPods, rowsOf_view (by decide)]

/-- A ready endpoint of the Service does not point to a pod that is left out. -/
theorem not_excluded_of_ready {slice : EvidenceRow} {endpoint : Json} {name : String}
    (hslice : slice ∈ state.evidence) (hkind : slice.resourceType = "EndpointSlice")
    (herror : slice.error = none)
    (hnamespace : slice.data.get "namespace" = state.request.get "namespace")
    (hservice : slice.data.get "service_name" = state.request.get "service_name")
    (hendpoint : endpoint ∈ (slice.data.get "endpoints").items)
    (hready : endpoint.get "ready" = .bool true)
    (htarget : endpoint.hasText "target_name" name = true) :
    name ∉ excludedPods profile state.request state.evidence := by
  intro hname
  obtain ⟨row, -, hexcluded, rfl⟩ := mem_excludedPods.1 hname
  obtain ⟨-, -, -, hleaves⟩ := leaves_of_isExcluded hexcluded
  have hne : row.resourceName ≠ "" := by
    intro hempty
    refine hleaves.served ?_
    rw [endpointRecords, List.filter_eq_nil_iff]
    intro e _
    simp [hempty]
  have hrecord : endpoint ∈ endpointRecords state.request state.evidence row.resourceName := by
    refine List.mem_filter.2 ⟨List.mem_flatMap.2 ⟨slice, List.mem_filter.2 ⟨hslice, ?_⟩,
      hendpoint⟩, ?_⟩
    · simp [hkind, herror, hnamespace, hservice, Json.pyEq]
    · simp [hne, htarget]
  have hnot := (hleaves.leaving endpoint hrecord).2.2.2.1
  rw [hready] at hnot
  cases hnot

/-- Facts that call the resources ready have counted pods that stay. -/
theorem served_of_ready
    (hunique : ((rowsOf state.evidence "PodStatus").map (·.resourceName)).Nodup)
    (hmatched : matchedProfile lib.toLibrary state = .ok profile) {deployment : EvidenceRow}
    (hready : (factsOf lib (recoveryResourceView lib.toLibrary state).1 profile
      deployment).resourceStatus = .ready) :
    ∃ desired, deployment.data.get "desired_replicas" = .num desired ∧
      Served profile state (recoveryResourceView lib.toLibrary state).2 desired := by
  have hframe := (recoveryResourceView_frame lib.toLibrary state).1
  have hnames : (recoveryResourceView lib.toLibrary state).2 =
      excludedPods profile state.request state.evidence := by
    rw [recoveryResourceView_of_matched hmatched]
  obtain ⟨desired, hdesired, -, hisReady⟩ := ResourceView.status_eq_ready hready
  simp only [ResourceView.isReady, hframe, ownedPods_view, Bool.and_eq_true, decide_eq_true_eq,
    List.all_eq_true, List.any_eq_true] at hisReady
  obtain ⟨⟨⟨-, hcount⟩, hall⟩, slice, hslice, endpoint, hendpoint, hendpointReady, name, hname,
    htarget⟩ := hisReady
  refine ⟨desired, hdesired, ⟨_, fun row hrow => ?_, ?_, hcount⟩, ?_⟩
  · have hrowReady := hall row hrow
    simp only [rowsOf, List.mem_filter, Bool.and_eq_true, decide_eq_true_eq] at hrow
    obtain ⟨⟨⟨hview, -⟩, hkind⟩, howned, -⟩ := hrow
    rw [recoveryResourceView_of_matched hmatched] at hview
    obtain ⟨hmem, hkept⟩ := List.mem_filter.1 hview
    refine ⟨hmem, hkind, howned, fun hexcluded => ?_, hrowReady⟩
    rw [hnames] at hexcluded
    rw [(leftOut_iff hunique hmem).2 ⟨hkind, hexcluded⟩] at hkept
    cases hkept
  · -- The pods that are counted are rows of the state, in their order.
    refine hunique.sublist (List.Sublist.map _ ?_)
    refine List.filter_sublist.trans ?_
    rw [rowsOf, rowsOf, List.filter_filter, recoveryResourceView_of_matched hmatched,
      List.filter_filter]
    refine List.monotone_filter_right _ fun row hrow => ?_
    simp only [Bool.and_eq_true] at hrow
    exact hrow.1.1
  · rw [rowsOf_view (by decide)] at hslice
    simp only [rowsOf, List.mem_filter, Bool.and_eq_true, decide_eq_true_eq,
      Option.isNone_iff_eq_none] at hslice
    obtain ⟨⟨⟨hmem, herror⟩, hkind⟩, hnamespace, hservice⟩ := hslice
    refine ⟨slice, hmem, hkind, endpoint, hendpoint, hendpointReady, name, hname,
      get_of_hasText htarget, ?_⟩
    rw [hnames]
    exact not_excluded_of_ready hmem hkind herror hnamespace hservice hendpoint hendpointReady
      htarget

/-- **The view hides nothing**, of any evidence with at most one row for each pod. -/
theorem view_hides_nothing
    (hunique : ((rowsOf state.evidence "PodStatus").map (·.resourceName)).Nodup) :
    HidesNothing lib state := by
  refine ⟨?_, fun name hname => ?_, fun facts hfacts hready => ?_⟩
  · cases hmatched : matchedProfile lib.toLibrary state with
    | error reason =>
      have hview : recoveryResourceView lib.toLibrary state = (state, []) := by
        rw [recoveryResourceView, hmatched]
      rw [hview]
      simp
    | ok profile =>
      rw [recoveryResourceView_of_matched hmatched]
      refine congrArg (PolicyState.mk state.request state.serviceProfile)
        (List.filter_congr fun row hrow => ?_)
      have hiff : leftOut state.request
          (excludedPods profile state.request state.evidence) row = true ↔ _ :=
        leftOut_iff hunique hrow
      rw [Bool.eq_iff_iff, Bool.not_eq_true', decide_eq_true_eq, ← hiff, Bool.not_eq_true]
  · cases hmatched : matchedProfile lib.toLibrary state with
    | error reason =>
      rw [recoveryResourceView, hmatched] at hname
      cases hname
    | ok profile =>
      rw [recoveryResourceView_of_matched hmatched] at hname
      obtain ⟨row, hrow, hexcluded, hsame⟩ := mem_excludedPods.1 hname
      obtain ⟨hkind, -, -, hleaves⟩ := leaves_of_isExcluded hexcluded
      exact ⟨profile, rfl, row, hrow, hkind, hsame, hleaves⟩
  · cases hmatched : matchedProfile lib.toLibrary state with
    | error reason =>
      simp only [diagnosticFactsOf, matchedProfile_view, hmatched, Except.ok.injEq] at hfacts
      rw [← hfacts] at hready
      cases hready
    | ok profile =>
      obtain ⟨-, -, -, deployment, honly, -⟩ := matchedProfile_spec lib.toLibrary hmatched
      obtain ⟨-, hsame⟩ := factsOf_of_matched (matchedProfile_view.trans hmatched) hfacts
        ((rowsNamed_view (by decide)).trans honly)
      rw [hsame] at hready
      obtain ⟨desired, hdesired, hserved⟩ := served_of_ready hunique hmatched hready
      exact ⟨profile, deployment, desired, rfl, honly, hdesired, hserved⟩

end Exclusion

/-- The statuses of pods that are recorded are those of the bundle. -/
theorem podNames_normalizeEvidence {incidentId collectedAt : String} {bundle : Bundle} :
    (rowsOf (normalizeEvidence incidentId collectedAt bundle) "PodStatus").map (·.resourceName) =
      bundle.podStatuses.map (·.1) := by
  have hindex : ∀ (items : List CollectedItem) (f : ℕ → CollectedItem → EvidenceRow),
      (∀ i item, (f i item).resourceType = item.resourceType ∧
        (f i item).resourceName = item.resourceName) →
      (rowsOf (items.mapIdx f) "PodStatus").map (·.resourceName) =
        (items.filter fun item => item.resourceType = "PodStatus").map (·.resourceName) := by
    intro items
    induction items with
    | nil => intro f hf; rfl
    | cons item rest ih =>
      intro f hf
      have hrest := ih (fun i => f (i + 1)) fun i => hf (i + 1)
      rw [rowsOf] at hrest ⊢
      rw [List.mapIdx_cons, List.filter_cons, List.filter_cons, (hf 0 item).1]
      split
      · rw [List.map_cons, List.map_cons, hrest, (hf 0 item).2]
      · exact hrest
  rw [normalizeEvidence]
  refine (hindex _ _ fun i item => ⟨rfl, rfl⟩).trans ?_
  simp only [collectedItems, List.filter_append, List.map_append]
  -- Of the ten kinds of items, the statuses are the fourth.
  have hnone : ∀ items : List CollectedItem, (∀ item ∈ items, item.resourceType ≠ "PodStatus") →
      items.filter (fun item => item.resourceType = "PodStatus") = [] := fun items h =>
    List.filter_eq_nil_iff.2 fun item hitem => by simpa using h item hitem
  have hpods : (bundle.podStatuses.map fun p => kubernetesItem "PodStatus" p.1 p.2).filter
      (fun item => item.resourceType = "PodStatus") =
        bundle.podStatuses.map fun p => kubernetesItem "PodStatus" p.1 p.2 :=
    List.filter_eq_self.2 fun item hitem => by
      obtain ⟨p, -, rfl⟩ := List.mem_map.1 hitem
      rfl
  rw [hpods]
  repeat rw [hnone]
  · simp [kubernetesItem]
  all_goals
    intro item hitem
    first
      | split at hitem
        · rw [List.mem_singleton.1 hitem]
          simp [kubernetesItem]
        · cases hitem
      | simp only [List.mem_map, List.mem_mapIdx] at hitem
        obtain ⟨_, _, rfl⟩ := hitem
        simp [kubernetesItem]

/-! ### A rolling update -/

/-- A collection in the middle of a rolling update: one pod is served, another one leaves. -/
def rollingBundle : Bundle :=
  { recoveredBundle.toBundle with
    endpointSlices := [.obj [("name", .str "web-slice"), ("namespace", .str safeNamespace),
      ("service_name", .str "web"),
      ("endpoints", .arr [.obj [("ready", .bool true), ("target_name", .str "web-1")],
        .obj [("target_kind", .str "Pod"), ("target_name", .str "web-0"),
          ("addresses", .arr [.str "10.0.0.7"]), ("ready", .bool false),
          ("serving", .bool false), ("terminating", .bool true)]])]]
    podStatuses := [("web-0", .obj [("namespace", .str safeNamespace), ("ready", .bool false),
        ("pod_ip", .str "10.0.0.7")]),
      ("web-1", .obj [("namespace", .str safeNamespace), ("ready", .bool true)])]
    ownerChains := [("web-0", .obj [("namespace", .str safeNamespace),
        ("deployment_name", .str "web")]),
      ("web-1", .obj [("namespace", .str safeNamespace), ("deployment_name", .str "web")])] }

/-- The evidence of that collection. -/
def rollingState : PolicyState where
  request := demoState.request
  serviceProfile := rollingBundle.serviceProfile
  evidence := normalizeEvidence "incident" "" rollingBundle

/-- The pod that leaves is left out, the resources are ready, and nothing is hidden. -/
theorem view_hides_nothing_rolling :
    (rollingState.evidence.any (isExcluded demoProfile rollingState.request
      rollingState.evidence)) = true ∧
    (diagnosticFactsOf recoveryLibrary.toCheckLibrary
      (recoveryResourceView recoveryLibrary.toLibrary rollingState).1).map (·.resourceStatus) =
        .ok .ready ∧
    HidesNothing recoveryLibrary.toCheckLibrary rollingState := by
  refine ⟨by decide +kernel, ?_, view_hides_nothing ?_⟩
  swap
  · rw [rollingState, podNames_normalizeEvidence]
    decide
  have hmatched : matchedProfile recoveryLibrary.toLibrary rollingState = .ok demoProfile := by
    decide +kernel
  have hview : recoveryResourceView recoveryLibrary.toLibrary rollingState = _ :=
    recoveryResourceView_of_matched hmatched
  rw [hview]
  decide +kernel

end IncidentAgent
