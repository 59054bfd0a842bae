import IncidentAgent.Lib.Overlay
import IncidentAgent.Policy.Evidence

/-!
# The current view of the evidence

The current view (`activeEvidence`) is an overlay: an observation covers the rows that it
replaces, and comes too late when one of them is newer. The laws of overlays say what the view
keeps and what it drops; `FreshView` reads them for rows of evidence, with the ids of the rows
that the view has dropped (`historicalEvidenceIds`).

A row is safe from an observation, whatever else the two have in common, when it is of another
namespace, or of another object of the same kind (`shields`).
-/

namespace IncidentAgent

open Overlay

/-- `state["historical_evidence_ids"]`: the ids of the rows that are not active, each once. -/
def historicalEvidenceIds (instant : String → Option Int)
    (baseline observations : List EvidenceRow) : List String :=
  (((baseline ++ observations).map (·.evidenceId)).filter fun id =>
    id ∉ (activeEvidence instant baseline observations).map (·.evidenceId)).eraseDups

/-- A row that an observation may not replace. -/
def shields (item value : EvidenceRow) : Bool :=
  conflicts value.data item.data "namespace" ||
    (value.resourceType = item.resourceType && conflicts value.data item.data "uid")

/-- An observation is older than a row. -/
def Older (instant : String → Option Int) (item value : EvidenceRow) : Prop :=
  ∃ s t, instant item.collectedAt = some s ∧ instant value.collectedAt = some t ∧ s < t

/-- All times are present, and none is before the one of an earlier row. -/
def InOrder (instant : String → Option Int) (rows : List EvidenceRow) : Prop :=
  (∀ row ∈ rows, (instant row.collectedAt).isSome) ∧ rows.Pairwise fun a b => ¬ Older instant b a

/-- **A fresh view** of a baseline and a list of observations. -/
structure FreshView (instant : String → Option Int) (baseline observations : List EvidenceRow) :
    Prop where
  /-- An id is active or historical, and not both. -/
  ids : ∀ id, id ∈ (baseline ++ observations).map (·.evidenceId) ↔
    id ∈ (activeEvidence instant baseline observations).map (·.evidenceId) ∨
      id ∈ historicalEvidenceIds instant baseline observations
  disjoint : ∀ id ∈ (activeEvidence instant baseline observations).map (·.evidenceId),
    id ∉ historicalEvidenceIds instant baseline observations
  /-- In order, the active rows are those that no later observation matches. -/
  latest : InOrder instant (baseline ++ observations) →
    activeEvidence instant baseline observations =
      unmatched replaces observations baseline ++ lasts replaces observations
  /-- In order, the last observation is active. -/
  last : InOrder instant (baseline ++ observations) →
    ∀ item ∈ observations.getLast?, item ∈ activeEvidence instant baseline observations
  /-- An observation that is older than a row it matches changes nothing. -/
  older : ∀ pre item post, observations = pre ++ item :: post →
    (∃ value ∈ activeEvidence instant baseline pre,
      replaces item value = true ∧ Older instant item value) →
    activeEvidence instant baseline (pre ++ [item]) = activeEvidence instant baseline pre
  /-- An observation removes no row of another namespace, or of another object. -/
  shielded : ∀ pre item post, observations = pre ++ item :: post →
    ((activeEvidence instant baseline pre).filter (shields item)).Sublist
      (activeEvidence instant baseline (pre ++ [item]))
  /-- The rows of the baseline that nothing matches are all kept. -/
  duplicates : (unmatched replaces observations baseline).Sublist
    (activeEvidence instant baseline observations)
  /-- What an observation invalidates is not active after it, unless it is older than a row
  that it matches. -/
  invalidated : ∀ pre item post, observations = pre ++ item :: post →
    (¬ ∃ value ∈ activeEvidence instant baseline pre,
      replaces item value = true ∧ Older instant item value) →
    ∀ value ∈ activeEvidence instant baseline observations, invalidatedBy value item = true →
      value ∈ item :: post ∨ shields item value = true
  nonempty : baseline ≠ [] → activeEvidence instant baseline observations ≠ []

section Laws

variable {instant : String → Option Int} {baseline observations : List EvidenceRow}

/-- **The current view is an overlay.** -/
theorem activeEvidence_eq_overlay (instant : String → Option Int)
    (baseline observations : List EvidenceRow) :
    activeEvidence instant baseline observations =
      overlay replaces (outOfOrder instant) baseline observations :=
  rfl

theorem activeEvidence_concat (pre : List EvidenceRow) (item : EvidenceRow) :
    activeEvidence instant baseline (pre ++ [item]) =
      put replaces (outOfOrder instant) (activeEvidence instant baseline pre) item :=
  List.foldl_concat ..

theorem outOfOrder_eq_true {current : List EvidenceRow} {item : EvidenceRow} :
    outOfOrder instant current item = true ↔
      ∃ value ∈ current, replaces item value = true ∧ Older instant item value := by
  simp only [outOfOrder, Option.any_eq_true, List.any_eq_true, List.mem_filter, decide_eq_true_eq]
  constructor
  · rintro ⟨s, hs, value, ⟨hmem, hreplaces⟩, t, ht, hlt⟩
    exact ⟨value, hmem, hreplaces, s, t, hs, ht, hlt⟩
  · rintro ⟨value, hmem, hreplaces, s, t, hs, ht, hlt⟩
    exact ⟨s, hs, value, ⟨hmem, hreplaces⟩, t, ht, hlt⟩

/-- A row that is safe from an observation is not replaced by it. -/
theorem replaces_of_shields {item value : EvidenceRow} (h : shields item value = true) :
    replaces item value = false := by
  unfold replaces
  split
  · rfl
  · rename_i hnamespace
    rw [shields, Bool.eq_false_of_not_eq_true hnamespace, Bool.false_or] at h
    rw [if_pos h]

/-- Whatever else is invalidated is replaced. -/
theorem replaces_of_invalidatedBy {item value : EvidenceRow} (hshields : shields item value = false)
    (h : invalidatedBy value item = true) : replaces item value = true := by
  simp only [shields, Bool.or_eq_false_iff] at hshields
  rw [replaces, hshields.1, if_neg (by simp), if_neg (by simp [hshields.2]), h]
  simp

/-- In order, no observation comes too late. -/
theorem outOfOrder_of_inOrder (h : InOrder instant (baseline ++ observations))
    {pre post view : List EvidenceRow} {item : EvidenceRow}
    (he : observations = pre ++ item :: post) (hview : view ⊆ baseline ++ pre) :
    outOfOrder instant view item = false := by
  refine Bool.eq_false_of_not_eq_true fun hlate => ?_
  obtain ⟨value, hvalue, -, hlt⟩ := outOfOrder_eq_true.1 hlate
  have hpairwise := h.2
  rw [he, ← List.append_assoc] at hpairwise
  exact (List.pairwise_append.1 hpairwise).2.2 value (hview hvalue) item List.mem_cons_self hlt

theorem mem_historicalEvidenceIds {id : String} :
    id ∈ historicalEvidenceIds instant baseline observations ↔
      id ∈ (baseline ++ observations).map (·.evidenceId) ∧
        id ∉ (activeEvidence instant baseline observations).map (·.evidenceId) := by
  rw [historicalEvidenceIds, List.mem_eraseDups, List.mem_filter, decide_eq_true_eq]

theorem activeIds_subset :
    (activeEvidence instant baseline observations).map (·.evidenceId) ⊆
      (baseline ++ observations).map (·.evidenceId) := by
  refine List.map_subset _ fun row hrow => ?_
  exact List.mem_append.2 (mem_activeEvidence hrow)

/-- **The current view is fresh**, for every baseline and every list of observations. -/
theorem activeEvidence_fresh (instant : String → Option Int)
    (baseline observations : List EvidenceRow) : FreshView instant baseline observations where
  ids id := by
    rw [mem_historicalEvidenceIds]
    constructor
    · intro h
      by_cases hactive : id ∈ (activeEvidence instant baseline observations).map (·.evidenceId)
      · exact Or.inl hactive
      · exact Or.inr ⟨h, hactive⟩
    · rintro (hactive | ⟨h, -⟩)
      · exact activeIds_subset hactive
      · exact h
  disjoint id hactive hhistorical := (mem_historicalEvidenceIds.1 hhistorical).2 hactive
  latest h := overlay_eq_lasts fun _ _ _ he _ hview => outOfOrder_of_inOrder h he hview
  last h item hlast := by
    obtain ⟨pre, rfl⟩ := List.getLast?_eq_some_iff.1 hlast
    have hnow : outOfOrder instant (activeEvidence instant baseline pre) item = false :=
      outOfOrder_of_inOrder h rfl fun row hrow => List.mem_append.2 (mem_activeEvidence hrow)
    rw [activeEvidence_concat]
    exact List.mem_of_getLast? (getLast?_put hnow)
  older pre item _ _ hlate := by
    rw [activeEvidence_concat]
    exact put_of_late (outOfOrder_eq_true.2 hlate)
  shielded pre item _ _ := by
    rw [activeEvidence_concat]
    refine List.Sublist.trans ?_ filter_sublist_put
    refine List.monotone_filter_right _ fun value hvalue => ?_
    rw [replaces_of_shields hvalue, Bool.not_false]
  duplicates := unmatched_sublist_overlay
  invalidated pre item post he hlate value hvalue hinvalidated := by
    subst he
    have hnow : outOfOrder instant (activeEvidence instant baseline pre) item = false :=
      Bool.eq_false_of_not_eq_true fun h => hlate (outOfOrder_eq_true.1 h)
    rcases mem_overlay_append hvalue with hput | hpost
    · rcases not_covers_of_mem_put hnow hput with hkept | rfl
      · refine Or.inr (Bool.eq_true_of_not_eq_false fun hshields => ?_)
        rw [replaces_of_invalidatedBy hshields hinvalidated] at hkept
        exact absurd hkept (by simp)
      · exact Or.inl List.mem_cons_self
    · exact Or.inl (List.mem_cons_of_mem _ hpost)
  nonempty h := overlay_ne_nil h

/-- **A read that failed shields nothing**: its one row is of no object, and invalidates what
the tool reads. -/
theorem adapt_of_unknown {evidenceDigest : String → Nat → String} {result : ToolResult}
    {request : ToolRequest} {ref : ToolRef} (h : result.coverage = .unknown) :
    ∃ row, adapt evidenceDigest result request ref = [row] ∧
      row.resourceType = "ToolObservation" ∧ row.invalidates = toolInvalidates request ref ∧
      ∀ value, shields row value = false := by
  refine ⟨_, by simp only [adapt, observedItems, toolItems, if_pos h]; rfl, rfl, rfl, ?_⟩
  intro value
  have hmember : ∀ key, (Json.obj [("tool", .str request.tool.value),
      ("text", .str result.text)]).get key = .null → conflicts value.data
        (.obj [("tool", .str request.tool.value), ("text", .str result.text)]) key = false := by
    intro key hnull
    rw [conflicts, hnull]
    simp [Json.truthy]
  rw [shields, hmember "namespace" rfl, hmember "uid" rfl]
  simp

end Laws

/-! ### A failed read that comes too late -/

/-- The clock of the example. -/
def secondOf (text : String) : Option Int :=
  [("2026-01-01T00:00:01+00:00", 1), ("2026-01-01T00:00:02+00:00", 2),
    ("2026-01-01T00:00:03+00:00", 3)].lookup text

/-- A fact about the Service, of the first second. -/
def serviceFact : EvidenceRow where
  evidenceId := "ev-1-001"
  source := "kubernetes_api"
  resourceType := "Service"
  resourceName := "payment"
  collectedAt := "2026-01-01T00:00:01+00:00"
  data := .obj [("name", .str "payment")]
  error := none
  invalidates := []
  invalidatesLog := none

/-- A failed read of a tool, of a second. -/
def failedRead (evidenceId collectedAt : String) (tool : InvestigationTool)
    (invalidates : List (String × String)) : EvidenceRow where
  evidenceId := evidenceId
  source := "investigation_tool"
  resourceType := "ToolObservation"
  resourceName := "payment"
  collectedAt := collectedAt
  data := .obj [("tool", .str tool.value), ("text", .str "timed out")]
  error := some "TIMEOUT"
  invalidates := invalidates
  invalidatesLog := none

/-- The failed read of the Deployment, of the third second. -/
def failedDeployment : EvidenceRow :=
  failedRead "ev-3-001" "2026-01-01T00:00:03+00:00" .deployment [("Deployment", "payment")]

/-- The failed read of both resources, of the second before, which comes after it. -/
def failedSummary : EvidenceRow :=
  failedRead "ev-2-001" "2026-01-01T00:00:02+00:00" .resourceSummary
    [("Service", "payment"), ("Deployment", "payment")]

/-- The failed read of both resources is newer than the fact that it invalidates, and the fact
stays: the read is older than another failed read, whose slot is its own. -/
theorem serviceFact_stays :
    serviceFact ∈ activeEvidence secondOf [serviceFact] [failedDeployment, failedSummary] ∧
      invalidatedBy serviceFact failedSummary = true ∧
      ∀ value ∈ [serviceFact, failedDeployment], invalidatedBy value failedSummary = true →
        secondOf failedSummary.collectedAt = some 2 ∧ secondOf value.collectedAt = some 1 := by
  decide +kernel

end IncidentAgent
