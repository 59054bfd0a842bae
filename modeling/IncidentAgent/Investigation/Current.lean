import IncidentAgent.Workflow.Nodes

/-!
# What an investigation knows

An investigation begins with a baseline and goes on with what its tools observe. An observation is
kept with a note of the call that has brought it, and put over the rows that it replaces; the rows
that are left are the current ones (`activeRows`). The current state is the baseline with these rows
(`Baseline.current`), and this is what decisions are checked on and what a plan is made of.

`map_activeRows` says that the notes change nothing: without them the rows are those of
`activeEvidence`.
-/

namespace IncidentAgent

/-! ### Rows -/

/-- What a tool notes with a row: its call, and how much of its source it has read. -/
structure SampleNote where
  requestId : String
  coverage : Coverage
  truncated : Bool
  deriving DecidableEq, Inhabited

/-- A row as an investigation keeps it. The rows of a baseline have no note. -/
structure SavedRow extends EvidenceRow where
  note : Option SampleNote
  deriving DecidableEq, Inhabited

/-- The text of a coverage. -/
def Coverage.value : Coverage → String
  | .unknown => "unknown"
  | .partly => "partial"
  | .observed => "observed"

/-- The members of a note. -/
def SampleNote.members (note : SampleNote) : List (String × Json) :=
  [("request_id", .str note.requestId), ("coverage", .str note.coverage.value),
    ("truncated", .bool note.truncated), ("untrusted", .bool true)]

/-- What a row invalidates, where it does. -/
def invalidatedMembers (row : EvidenceRow) : List (String × Json) :=
  (if row.invalidates = [] then [] else
    [("invalidates", .arr (row.invalidates.map fun target => .arr [.str target.1, .str target.2]))])
    ++ row.invalidatesLog.elim [] fun log =>
      [("invalidates_log", .arr [.str log.1, .str log.2.1, .bool log.2.2])]

/-- A row in the state. -/
def SavedRow.dump (row : SavedRow) : Json :=
  setAll (row.note.elim [] SampleNote.members ++ invalidatedMembers row.toEvidenceRow)
    row.toEvidenceRow.dump

/-- `adapt`, with the notes of the rows. -/
def adaptRows (evidenceDigest : String → Nat → String) (result : ToolResult) (request : ToolRequest)
    (ref : ToolRef) : List SavedRow :=
  (adapt evidenceDigest result request ref).map fun row =>
    ⟨row, some ⟨result.requestId, result.coverage, result.truncated⟩⟩

/-- The observations that are added: those whose identifiers are not known yet. -/
def addRows (known rows : List SavedRow) : List SavedRow :=
  known ++ rows.filter fun row => row.evidenceId ∉ known.map fun k => k.evidenceId

/-! ### The current view -/

section

variable (instant : String → Option Int)

/-- An observation put over the current rows. -/
def observeSaved (current : List SavedRow) (item : SavedRow) : List SavedRow :=
  if outOfOrder instant (current.map SavedRow.toEvidenceRow) item.toEvidenceRow then current
  else current.filter (fun value => !replaces item.toEvidenceRow value.toEvidenceRow) ++ [item]

/-- `active_evidence`. -/
def activeRows (baseline observations : List SavedRow) : List SavedRow :=
  observations.foldl (observeSaved instant) baseline

/-- What is known at a time: the baseline, with the rows that are current. -/
structure Current where
  baseline : Baseline
  evidence : List SavedRow
  deriving DecidableEq, Inhabited

/-- `current_state`. -/
def Baseline.current (baseline : Baseline) (observations : List SavedRow) : Current :=
  ⟨baseline, activeRows instant (baseline.evidence.map fun row => ⟨row, none⟩) observations⟩

end

/-- The members of a state. -/
def Current.members (current : Current) : List (String × Json) :=
  [("incident_id", .str current.baseline.incidentId), ("request", current.baseline.request),
    ("round_context", current.baseline.roundContext),
    ("service_profile", current.baseline.serviceProfile),
    ("evidence", .arr (current.evidence.map SavedRow.dump)),
    ("retrieved_runbooks", .arr current.baseline.retrievedRunbooks)]

/-- The state that the policy reads. -/
def Current.state (current : Current) : RemediationState := remediationState (.obj current.members)

/-- The same, with a diagnosis: `{**current, "diagnosis": diagnosis}`. -/
def Current.diagnosed (current : Current) (diagnosis : Json) : RemediationState :=
  remediationState (.obj (current.members ++ [("diagnosis", diagnosis)]))

/-- The baseline as a state. -/
def Baseline.state (baseline : Baseline) : RemediationState :=
  (Current.mk baseline (baseline.evidence.map fun row => ⟨row, none⟩)).state

section

variable {instant : String → Option Int} {baseline observations : List SavedRow}

theorem map_observeSaved (current : List SavedRow) (item : SavedRow) :
    (observeSaved instant current item).map SavedRow.toEvidenceRow =
      observeRow instant (current.map SavedRow.toEvidenceRow) item.toEvidenceRow := by
  unfold observeSaved observeRow
  split
  · rfl
  · rw [List.map_append, List.filter_map]
    rfl

/-- **The current view does not depend on the notes.** -/
theorem map_activeRows (baseline observations : List SavedRow) :
    (activeRows instant baseline observations).map SavedRow.toEvidenceRow =
      activeEvidence instant (baseline.map SavedRow.toEvidenceRow)
        (observations.map SavedRow.toEvidenceRow) := by
  unfold activeRows activeEvidence
  induction observations generalizing baseline with
  | nil => rfl
  | cons item rest ih => rw [List.foldl_cons, ih, map_observeSaved, List.map_cons, List.foldl_cons]

theorem mem_observeSaved {current : List SavedRow} {item row : SavedRow}
    (h : row ∈ observeSaved instant current item) : row ∈ current ∨ row = item := by
  unfold observeSaved at h
  split at h
  · exact Or.inl h
  · rcases List.mem_append.1 h with h | h
    · exact Or.inl (List.mem_of_mem_filter h)
    · exact Or.inr (List.mem_singleton.1 h)

/-- A row of the current view is one of the baseline or an observation. -/
theorem mem_activeRows {row : SavedRow} (h : row ∈ activeRows instant baseline observations) :
    row ∈ baseline ∨ row ∈ observations := by
  unfold activeRows at h
  induction observations generalizing baseline with
  | nil => exact Or.inl h
  | cons item rest ih =>
    rcases ih h with h | h
    · rcases mem_observeSaved h with h | rfl
      · exact Or.inl h
      · exact Or.inr List.mem_cons_self
    · exact Or.inr (List.mem_cons_of_mem _ h)

/-- What is added is known or new. -/
theorem mem_addRows {known rows : List SavedRow} {row : SavedRow} (h : row ∈ addRows known rows) :
    row ∈ known ∨ row ∈ rows := by
  rcases List.mem_append.1 h with h | h
  · exact Or.inl h
  · exact Or.inr (List.mem_of_mem_filter h)

end

end IncidentAgent
