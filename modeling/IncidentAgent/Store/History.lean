import IncidentAgent.Store.Evolution
import Mathlib.Data.List.Chain

/-!
# The history of an incident

The diagnoses of an incident are its **lane**, in the order of their insertion. The lane is
one line: each diagnosis follows the one before it, which had ended, and answers a later
message of the user (`Linear`). So the order of insertion is the order of the start times,
the row that `ORDER BY created_at DESC` finds is the last of the lane
(`Db.History.latest_eq`), and no other diagnosis of the incident can be active
(`Db.History.latest_of_active`).

`Db.History` is this, with the references between the tables on which it rests. It is an
invariant of edits (`Db.Edit.history`), hence of transactions.
-/

namespace IncidentAgent

/-! ### Lanes -/

/-- The diagnoses of an incident, in the order of their insertion. -/
def Db.lane (db : Db) (incidentId : String) : List Run :=
  db.runs.filter (Run.diagnosisOf incidentId)

/-- **A diagnosis follows another**: it is its child, with the next revision, for a later
message, started later, and the other has ended. -/
structure Run.Follows (a b : Run) : Prop where
  parent : b.parentRunId = some a.runId
  revision : b.inputRevision = a.inputRevision + 1
  sequence : ∃ n, b.inputMessageSequence = some n ∧ a.inputMessageSequence.getD 0 < n
  later : a.createdAt < b.createdAt
  ended : a.status.terminal = true

/-- A line of diagnoses: the first has no parent, and each of the others follows the one
before it. -/
structure Linear (lane : List Run) : Prop where
  chain : lane.IsChain Run.Follows
  head : ∀ r ∈ lane.head?, r.parentRunId = none ∧ r.inputRevision = 1

theorem Run.diagnosisOf_iff {incidentId : String} {r : Run} :
    Run.diagnosisOf incidentId r = true ↔ r.incidentId = incidentId ∧ r.runKind = .diagnosis := by
  simp [Run.diagnosisOf]

theorem Db.mem_lane {db : Db} {incidentId : String} {r : Run} :
    r ∈ db.lane incidentId ↔ r ∈ db.runs ∧ r.incidentId = incidentId ∧ r.runKind = .diagnosis := by
  rw [Db.lane, List.mem_filter, Run.diagnosisOf_iff]

/-- An advance changes nothing of what follows and what is followed. -/
theorem Run.Follows.advances {now : Nat} {a b a' b' : Run} (h : a.Follows b)
    (ha : a.Advances now a') (hb : b.Advances now b') : a'.Follows b' where
  parent := by
    rw [column_eq hb.fixed Run.parentRunId fun _ => rfl, ha.runId]
    exact h.parent
  revision := by
    rw [column_eq hb.fixed Run.inputRevision fun _ => rfl,
      column_eq ha.fixed Run.inputRevision fun _ => rfl]
    exact h.revision
  sequence := by
    rw [column_eq hb.fixed Run.inputMessageSequence fun _ => rfl,
      column_eq ha.fixed Run.inputMessageSequence fun _ => rfl]
    exact h.sequence
  later := by
    rw [hb.createdAt, ha.createdAt]
    exact h.later
  ended := by rw [ha.ended h.ended]; exact h.ended

namespace Linear

variable {lane : List Run}

/-- The start times of a line ascend. -/
theorem ascending (h : Linear lane) : lane.Pairwise fun a b => a.createdAt < b.createdAt := by
  have hchain : lane.IsChain fun a b => a.createdAt < b.createdAt :=
    h.chain.imp fun _ _ hab => hab.later
  have : Trans (fun a b : Run => a.createdAt < b.createdAt)
      (fun a b : Run => a.createdAt < b.createdAt) (fun a b : Run => a.createdAt < b.createdAt) :=
    ⟨fun hab hbc => lt_trans hab hbc⟩
  exact List.isChain_iff_pairwise.1 hchain

/-- The messages that the diagnoses of a line are for come later and later. -/
theorem sequences (h : Linear lane) :
    lane.Pairwise fun a b => a.inputMessageSequence.getD 0 < b.inputMessageSequence.getD 0 := by
  have hchain : lane.IsChain fun a b =>
      a.inputMessageSequence.getD 0 < b.inputMessageSequence.getD 0 := by
    refine h.chain.imp fun a b hab => ?_
    obtain ⟨n, hn, hlt⟩ := hab.sequence
    simpa [hn] using hlt
  have : Trans (fun a b : Run => a.inputMessageSequence.getD 0 < b.inputMessageSequence.getD 0)
      (fun a b : Run => a.inputMessageSequence.getD 0 < b.inputMessageSequence.getD 0)
      (fun a b : Run => a.inputMessageSequence.getD 0 < b.inputMessageSequence.getD 0) :=
    ⟨fun hab hbc => lt_trans hab hbc⟩
  exact List.isChain_iff_pairwise.1 hchain

/-- In a line, only the last diagnosis may be active. -/
theorem getLast_of_active (h : Linear lane) {r : Run} (hr : r ∈ lane) (hactive : r.active) :
    lane.getLast? = some r := by
  obtain ⟨front, back, rfl⟩ := List.append_of_mem hr
  cases back with
  | nil => simp
  | cons b back =>
    have hended := (List.isChain_append_cons_cons.1 h.chain).2.1.ended
    simp [Run.active, hended] at hactive

/-- An advance of the diagnoses of a line leaves a line. -/
theorem advances {now : Nat} {f : Run → Run} (h : Linear lane)
    (hf : ∀ r ∈ lane, r.Advances now (f r)) : Linear (lane.map f) where
  chain := by
    rw [List.isChain_map]
    exact h.chain.imp_of_mem_imp fun a b ha hb hab => hab.advances (hf a ha) (hf b hb)
  head := by
    intro r hr
    rw [List.head?_map, Option.mem_def, Option.map_eq_some_iff] at hr
    obtain ⟨a, ha, rfl⟩ := hr
    have hadv := hf a (List.mem_of_mem_head? ha)
    rw [column_eq hadv.fixed Run.parentRunId fun _ => rfl,
      column_eq hadv.fixed Run.inputRevision fun _ => rfl]
    exact h.head a ha

/-- A line may be continued by a diagnosis that follows its last one. -/
theorem concat (h : Linear lane) {r : Run} (hlast : ∀ a ∈ lane.getLast?, a.Follows r)
    (hfirst : lane = [] → r.parentRunId = none ∧ r.inputRevision = 1) : Linear (lane ++ [r]) where
  chain := by
    refine h.chain.append (List.isChain_singleton r) ?_
    intro a ha b hb
    cases hb
    exact hlast a ha
  head := by
    cases lane with
    | nil =>
      intro a ha
      cases ha
      exact hfirst rfl
    | cons a lane =>
      intro b hb
      exact h.head b (by simpa using hb)

end Linear

theorem linear_nil : Linear [] := ⟨List.isChain_nil, by simp⟩

/-! ### The history of a database -/

/-- The scope of first diagnoses is not a scope of rounds. -/
theorem createScope_ne (i : String) : createScope ≠ roundScope i := by
  intro h
  have := congrArg String.toList h
  simp [createScope, roundScope, String.toList_append] at this

/-- The scope of rounds names the incident. -/
theorem roundScope_inj {i j : String} (h : roundScope i = roundScope j) : i = j := by
  have := congrArg String.toList h
  simpa [roundScope, String.toList_append, String.toList_inj] using this

/-- The request that a round records: the message it is for. -/
def Run.Requested (env : Env) (r : Run) (messageId : String) : Prop :=
  r.sourceMessageId = some messageId ∧
    r.requestSha256 = env.requestDigest (.obj [("message_id", .str messageId)])

/-- **The history of a database**: keys are unique, rows refer to rows that are there, and
every lane is a line. -/
structure Db.History (env : Env) (db : Db) : Prop where
  keys : db.Keys
  homes : ∀ r ∈ db.runs, ∃ i ∈ db.incidents, i.incidentId = r.incidentId
  parents : ∀ r ∈ db.runs, ∀ p ∈ r.parentRunId, ∃ q ∈ db.runs, q.runId = p
  /-- A write belongs to a diagnosis of its incident. -/
  writes : ∀ o ∈ db.operations, ∃ r ∈ db.runs, r.runId = o.runId ∧
    r.incidentId = o.incidentId ∧ r.runKind = .diagnosis
  rechecks : db.Rechecks
  /-- A recheck is carried out by an interaction of its incident. -/
  bound : ∀ d ∈ db.delayed, ∀ id ∈ d.runId, ∃ r ∈ db.runs, r.runId = id ∧
    r.incidentId = d.incidentId ∧ r.runKind = .interaction
  /-- The source of a run is a message of the user of its incident. -/
  sources : ∀ r ∈ db.runs, ∀ id ∈ r.sourceMessageId, r.runKind = .diagnosis ∧
    ∃ m ∈ db.messages, m.messageId = id ∧ m.incidentId = r.incidentId ∧ m.role = .user ∧
      r.inputMessageSequence = some m.sequence
  /-- What has a key of the rounds of an incident is a round of that incident. -/
  rounds : ∀ r ∈ db.runs, ∀ i k, r.idempotency = some (roundScope i, k) →
    r.incidentId = i ∧ ∃ id, r.Requested env id
  /-- An interaction does not wait for a human. -/
  interactions : ∀ r ∈ db.runs, r.runKind = .interaction → r.status.waiting = false
  /-- Nothing is published of a run that has not ended. -/
  unpublished : ∀ r ∈ db.runs, r.active → r.outputSnapshot = none
  linear : ∀ incidentId, Linear (db.lane incidentId)

theorem Db.history_empty (env : Env) : Db.empty.History env where
  keys := Db.keys_empty
  homes := by simp [Db.empty]
  parents := by simp [Db.empty]
  writes := by simp [Db.empty]
  rechecks := ⟨Table.keyed_nil, Table.keyed_nil, by simp [Db.empty]⟩
  bound := by simp [Db.empty]
  sources := by simp [Db.empty]
  rounds := by simp [Db.empty]
  interactions := by simp [Db.empty]
  unpublished := by simp [Db.empty]
  linear _ := linear_nil

section History

variable {env : Env} {tx : Tx} {quiet : Bool} {db db' : Db}

/-- The start times of a lane ascend, and with them the ranks. -/
theorem Db.History.ranks (h : db.History env) (incidentId : String) :
    (db.lane incidentId).Pairwise fun a b => a.rank < b.rank :=
  (h.linear incidentId).ascending.imp fun hab => Prod.Lex.toLex_lt_toLex.2 (Or.inl hab)

/-- **The latest diagnosis is the last of the lane.** -/
theorem Db.History.latest_eq (h : db.History env) (incidentId : String) :
    db.latest incidentId = (db.lane incidentId).getLast? :=
  Table.latestBy_eq_getLast? (h.ranks incidentId)

theorem Db.mem_lane_of_latest {incidentId : String} {r : Run}
    (h : db.latest incidentId = some r) : r ∈ db.lane incidentId := by
  obtain ⟨hmem, hp, -⟩ := Table.latestBy_spec h
  exact List.mem_filter.2 ⟨hmem, hp⟩

/-- **An active diagnosis is the latest one of its incident.** -/
theorem Db.History.latest_of_active (h : db.History env) {r : Run} (hr : r ∈ db.runs)
    (hkind : r.runKind = .diagnosis) (hactive : r.active) : db.latest r.incidentId = some r := by
  rw [h.latest_eq]
  exact (h.linear r.incidentId).getLast_of_active (Db.mem_lane.2 ⟨hr, rfl, hkind⟩) hactive

/-- No diagnosis was started after the latest one, nor for a later message. -/
theorem Db.History.le_latest (h : db.History env) {incidentId : String} {latest r : Run}
    (hlatest : db.latest incidentId = some latest) (hr : r ∈ db.lane incidentId) :
    r.createdAt ≤ latest.createdAt ∧
      r.inputMessageSequence.getD 0 ≤ latest.inputMessageSequence.getD 0 := by
  rw [h.latest_eq] at hlatest
  obtain ⟨front, hfront⟩ := List.getLast?_eq_some_iff.1 hlatest
  have hasc := (h.linear incidentId).ascending
  have hseq := (h.linear incidentId).sequences
  rw [hfront] at hr hasc hseq
  rcases List.mem_append.1 hr with hr | hr
  · exact ⟨le_of_lt ((List.pairwise_append.1 hasc).2.2 r hr latest (by simp)),
      le_of_lt ((List.pairwise_append.1 hseq).2.2 r hr latest (by simp))⟩
  · rw [List.mem_singleton.1 hr]
    exact ⟨le_refl _, le_refl _⟩

/-! ### Edits keep the history -/

/-- An old run is still there after an edit, advanced. -/
theorem Db.Edit.run_of_mem (h : Db.Edit env tx quiet db db') {r : Run} (hr : r ∈ db.runs) :
    ∃ r' ∈ db'.runs, r.Advances tx.now r' :=
  h.grows.runs.exists_of_mem hr

/-- A run that an edit leaves was there and has advanced, or is new. -/
theorem Db.Edit.run_cases (h : Db.Edit env tx quiet db db') {r' : Run} (hr : r' ∈ db'.runs) :
    (∃ r ∈ db.runs, r.Advances tx.now r') ∨
      (db.Opens env tx r' ∧ ∃ i ∈ db'.incidents, i.incidentId = r'.incidentId) :=
  h.grows.runs.cases_of_mem hr

/-- A diagnosis that was there is still there, as what it was. -/
theorem Db.Edit.exists_run (h : Db.Edit env tx quiet db db') {id : String} {P : Run → Prop}
    (hP : ∀ a b : Run, b.fixed = a.fixed → P a → P b)
    (hr : ∃ r ∈ db.runs, r.runId = id ∧ P r) : ∃ r ∈ db'.runs, r.runId = id ∧ P r := by
  obtain ⟨r, hr, rfl, hp⟩ := hr
  obtain ⟨r', hr', hadv⟩ := h.run_of_mem hr
  exact ⟨r', hr', hadv.runId, hP r r' hadv.fixed hp⟩

/-- A message stays in the store. -/
theorem Db.Edit.message_mem (h : Db.Edit env tx quiet db db') {m : Message}
    (hm : m ∈ db.messages) : m ∈ db'.messages := by
  obtain ⟨m', hm', rfl⟩ := h.grows.messages.exists_of_mem hm
  exact hm'

/-- What `bound` says of a recheck, after an edit. -/
theorem Db.Edit.delayed_cases (h : Db.Edit env tx quiet db db') {d' : DelayedRecheck}
    (hd : d' ∈ db'.delayed) {id : String} (hid : d'.runId = some id) :
    (∃ d ∈ db.delayed, d.runId = some id ∧ d.incidentId = d'.incidentId) ∨
      ∃ r ∈ db.runs, r.runId = id ∧ r.incidentId = d'.incidentId ∧ r.runKind = .interaction := by
  cases h with
  | @bind delayedId f id' hf _ hr =>
    obtain ⟨d, hmem, rfl⟩ := Table.mem_updateWhere.1 hd
    split at hid
    · rename_i hsel
      rw [if_pos hsel]
      rw [(hf d).2.1] at hid
      cases hid
      obtain ⟨r, hr, hrid, hkind, hinc⟩ := hr
      exact Or.inr ⟨r, hr, hrid, (hinc d hmem (by simpa using hsel)).symm.trans
        (column_eq (hf d).1 DelayedRecheck.incidentId fun _ => rfl).symm, hkind⟩
    · rename_i hsel
      rw [if_neg hsel]
      exact Or.inl ⟨d, hmem, hid, rfl⟩
  | side h =>
    rcases h.delayed.cases_of_mem hd with ⟨d, hmem, hkeeps⟩ | hnone
    · exact Or.inl ⟨d, hmem, hkeeps.runId.symm.trans hid,
        (column_eq hkeeps.fixed DelayedRecheck.incidentId fun _ => rfl).symm⟩
    · rw [hnone] at hid
      cases hid
  | _ => exact Or.inl ⟨d', hd, hid, rfl⟩

/-- An edit keeps the table of rechecks in order. -/
theorem Db.Edit.rechecks (h : Db.Edit env tx quiet db db') (hr : db.Rechecks) : db'.Rechecks := by
  cases h with
  | @bind delayedId f id' hf _ _ =>
    refine ⟨hr.keyed.updateWhere fun d _ _ => column_eq (hf d).1 _ fun _ => rfl,
      hr.single.updateWhere fun d _ _ => column_eq (hf d).1 DelayedRecheck.policyKey fun _ => rfl,
      fun d' hd' hpending => ?_⟩
    obtain ⟨d, hmem, rfl⟩ := Table.mem_updateWhere.1 hd'
    split at hpending
    · simp [(hf d).2.2] at hpending
    · rename_i hsel
      rw [if_neg hsel]
      exact hr.unstarted d hmem hpending
  | side h => exact h.rechecks hr
  | _ => exact ⟨hr.keyed, hr.single, hr.unstarted⟩

/-- The lanes of an edit that only updates runs. -/
theorem Db.lane_updateWhere {p : Run → Bool} {f : Run → Run}
    (hf : ∀ r ∈ db.runs, p r = true → r.Advances tx.now (f r)) (incidentId : String) :
    (Table.updateWhere p f db.runs).filter (Run.diagnosisOf incidentId) =
      (db.lane incidentId).map fun r => if p r then f r else r := by
  have hq : ∀ r ∈ db.runs, Run.diagnosisOf incidentId (if p r then f r else r) =
      Run.diagnosisOf incidentId r := by
    intro r hr
    by_cases hp : p r = true
    · simp [hp, Run.diagnosisOf, (hf r hr hp).incidentId, (hf r hr hp).runKind]
    · simp [hp]
  rw [Table.updateWhere, List.filter_map, Db.lane]
  congr 1
  exact List.filter_congr hq

/-- **An edit continues the lanes in one line.** -/
theorem Db.Edit.linear (h : Db.Edit env tx quiet db db') (hs : db.History env)
    (incidentId : String) : Linear (db'.lane incidentId) := by
  cases h with
  | @runs p f h _ =>
    have hlane := Db.lane_updateWhere h incidentId
    unfold Db.lane at hlane ⊢
    rw [hlane]
    have hadv : ∀ r ∈ db.lane incidentId, r.Advances tx.now (if p r then f r else r) := by
      intro r hr
      by_cases hp : p r = true
      · simpa [hp] using h r (Db.mem_lane.1 hr).1 hp
      · simpa [hp] using Run.Advances.refl tx.now r
    exact (hs.linear incidentId).advances hadv
  | @first id runId threadId payload key dialogue hi hr =>
    -- The incident is new, hence its lane was empty.
    simp only [Db.lane, List.filter_append]
    by_cases hid : id = incidentId
    · have hnil : db.runs.filter (Run.diagnosisOf incidentId) = [] := by
        rw [List.filter_eq_nil_iff]
        intro r hr hdiag
        obtain ⟨i, hi', he⟩ := hs.homes r hr
        refine (hi i hi').1 ?_
        rw [he, (Run.diagnosisOf_iff.1 hdiag).1, hid]
        rfl
      subst hid
      rw [hnil]
      exact ⟨by simp [Run.diagnosisOf, Run.first, Run.default],
        by simp [Run.diagnosisOf, Run.first, Run.default]⟩
    · have hnot : Run.diagnosisOf incidentId
          (Run.first env tx id runId threadId payload key dialogue) = false := by
        simp [Run.diagnosisOf, Run.first, Run.default, hid]
      rw [List.filter_singleton, hnot]
      simpa [Db.lane] using hs.linear incidentId
  | @run r ho hr =>
    simp only [Db.lane, List.filter_append]
    cases ho with
    | first hi =>
      exfalso
      obtain ⟨i, hi', he⟩ := hr.home
      exact (hi i hi').1 he
    | @round incident message key context h =>
      by_cases hid : incident.incidentId = incidentId
      · have hdiag : Run.diagnosisOf incidentId (Run.round env tx incident
            (db.latest incident.incidentId) message key
              (env.requestDigest (.obj [("message_id", .str message.messageId)])) context) =
            true := by
          simp [Run.diagnosisOf, Run.round, Run.default, hid]
        have hlatest := hs.latest_eq incidentId
        subst hid
        simp only [List.filter_singleton, hdiag]
        refine (hs.linear incident.incidentId).concat (fun a ha => ?_) fun hnil => ?_
        · rw [← hlatest] at ha
          have hended := h.ended a ha
          have hlt := h.newer a ha
          have holder := h.older a ha
          rw [Option.mem_def] at ha
          rw [ha]
          exact ⟨rfl, rfl, ⟨_, rfl, hlt⟩, holder, by simpa [Run.active] using hended⟩
        · rw [hnil] at hlatest
          simp [hlatest, Run.round]
      · have hnot : Run.diagnosisOf incidentId (Run.round env tx incident
            (db.latest incident.incidentId) message key
              (env.requestDigest (.obj [("message_id", .str message.messageId)])) context) =
            false := by
          simp [Run.diagnosisOf, Run.round, Run.default, hid]
        rw [List.filter_singleton, hnot]
        simpa [Db.lane] using hs.linear incidentId
    | interaction hkind _ _ _ _ _ _ _ =>
      have hnot : Run.diagnosisOf incidentId r = false := by simp [Run.diagnosisOf, hkind]
      rw [List.filter_singleton, hnot]
      simpa [Db.lane] using hs.linear incidentId
  | side h =>
    obtain ⟨⟨_, _, _, _, rfl⟩, -⟩ := h
    exact hs.linear incidentId
  | _ => exact hs.linear incidentId

/-- **Edits keep the history.** -/
theorem Db.Edit.history (h : Db.Edit env tx quiet db db') (hs : db.History env) :
    db'.History env where
  keys := h.keys hs.keys
  homes r hr := by
    rcases h.run_cases hr with ⟨a, ha, hadv⟩ | ⟨-, hhome⟩
    · obtain ⟨i, hi, hid⟩ := hs.homes a ha
      obtain ⟨i', hi', hadv'⟩ := h.grows.incidents.exists_of_mem hi
      exact ⟨i', hi', by rw [hadv'.incidentId, hid, hadv.incidentId]⟩
    · exact hhome
  parents r hr p hp := by
    have hold : ∃ q ∈ db.runs, q.runId = p := by
      rcases h.run_cases hr with ⟨a, ha, hadv⟩ | ⟨hopens, -⟩
      · rw [column_eq hadv.fixed Run.parentRunId fun _ => rfl] at hp
        exact hs.parents a ha p hp
      · cases hopens with
        | first _ => cases hp
        | @round incident _ _ _ _ =>
          obtain ⟨q, hq, rfl⟩ := Option.map_eq_some_iff.1 hp
          exact ⟨q, (Db.mem_lane.1 (Db.mem_lane_of_latest hq)).1, rfl⟩
        | interaction _ _ _ _ _ _ _ hr => exact hr.2.2.2.2.2.1 p hp
    obtain ⟨q, hq, rfl⟩ := hold
    obtain ⟨q', hq', hadv⟩ := h.run_of_mem hq
    exact ⟨q', hq', hadv.runId⟩
  writes o' ho' := by
    have hold : ∃ r ∈ db.runs, r.runId = o'.runId ∧ r.incidentId = o'.incidentId ∧
        r.runKind = .diagnosis := by
      rcases h.grows.operations.cases_of_mem ho' with ⟨o, ho, hadv⟩ | hnew
      · rw [hadv.runId, column_eq hadv.fixed Operation.incidentId fun _ => rfl]
        exact hs.writes o ho
      · exact hnew
    refine h.exists_run (P := fun r => r.incidentId = o'.incidentId ∧ r.runKind = .diagnosis)
      (fun a b hab hp => ?_) hold
    rwa [column_eq hab Run.incidentId fun _ => rfl, column_eq hab Run.runKind fun _ => rfl]
  bound d hd id hid := by
    have hold : ∃ r ∈ db.runs, r.runId = id ∧ r.incidentId = d.incidentId ∧
        r.runKind = .interaction := by
      rcases h.delayed_cases hd hid with ⟨d₀, hd₀, hid₀, hinc⟩ | hr
      · exact hinc ▸ hs.bound d₀ hd₀ id hid₀
      · exact hr
    refine h.exists_run (P := fun r => r.incidentId = d.incidentId ∧ r.runKind = .interaction)
      (fun a b hab hp => ?_) hold
    rwa [column_eq hab Run.incidentId fun _ => rfl, column_eq hab Run.runKind fun _ => rfl]
  rechecks := h.rechecks hs.rechecks
  sources r hr id hid := by
    rcases h.run_cases hr with ⟨a, ha, hadv⟩ | ⟨hopens, -⟩
    · rw [column_eq hadv.fixed Run.sourceMessageId fun _ => rfl] at hid
      obtain ⟨hkind, m, hm, hmid, hinc, hrole, hseq⟩ := hs.sources a ha id hid
      refine ⟨hadv.runKind.trans hkind, m, h.message_mem hm, hmid, hinc.trans hadv.incidentId.symm,
        hrole, ?_⟩
      rw [column_eq hadv.fixed Run.inputMessageSequence fun _ => rfl, hseq]
    · cases hopens with
      | first _ => cases hid
      | @round incident message _ _ hround =>
        cases hid
        exact ⟨rfl, message, h.message_mem hround.saved, rfl, hround.ofIncident, hround.ofUser, rfl⟩
      | interaction _ _ _ _ hsource _ _ _ => simp [hsource] at hid
  rounds r hr i k hkey := by
    rcases h.run_cases hr with ⟨a, ha, hadv⟩ | ⟨hopens, -⟩
    · rw [hadv.idempotency] at hkey
      obtain ⟨hinc, id, hsource, hsha⟩ := hs.rounds a ha i k hkey
      refine ⟨hadv.incidentId.trans hinc, id, ?_, ?_⟩
      · rw [column_eq hadv.fixed Run.sourceMessageId fun _ => rfl, hsource]
      · rw [column_eq hadv.fixed Run.requestSha256 fun _ => rfl, hsha]
    · cases hopens with
      | @first _ _ _ _ key _ _ =>
        obtain ⟨_, -, he⟩ := Option.map_eq_some_iff.1 hkey
        exact absurd (Prod.mk.inj he).1 (createScope_ne i)
      | @round incident message _ _ _ =>
        obtain ⟨hscope, -⟩ := Prod.mk.inj (Option.some.inj hkey)
        exact ⟨roundScope_inj hscope, message.messageId, rfl, rfl⟩
      | interaction _ _ _ _ _ hscope _ _ => exact absurd hkey (hscope i k)
  interactions r hr hkind := by
    rcases h.run_cases hr with ⟨a, ha, hadv⟩ | ⟨hopens, -⟩
    · cases hw : r.status.waiting with
      | false => rfl
      | true =>
        rcases hadv.waits hw with hsame | hdiag
        · rw [hsame, hs.interactions a ha (hadv.runKind.symm.trans hkind)] at hw
          cases hw
        · simp [hkind] at hdiag
    · cases hopens with
      | first _ => cases hkind
      | round _ => cases hkind
      | interaction _ _ hqueued _ _ _ _ _ => simp [hqueued, RunStatus.waiting]
  unpublished r hr hactive := by
    have hopen : r.status.terminal = false := by simpa [Run.active] using hactive
    rcases h.run_cases hr with ⟨a, ha, hadv⟩ | ⟨hopens, -⟩
    · rw [hadv.unpublished hopen]
      refine hs.unpublished a ha ?_
      by_contra hended
      have hended : a.status.terminal = true := by simpa [Run.active] using hended
      rw [hadv.ended hended, hended] at hopen
      cases hopen
    · cases hopens with
      | first _ => rfl
      | round _ => rfl
      | interaction _ _ _ hout _ _ _ _ => exact hout
  linear := h.linear hs

theorem Db.Edits.history (h : Db.Edits env tx quiet db db') (hs : db.History env) :
    db'.History env := by
  induction h with
  | refl => exact hs
  | tail _ h ih => exact h.history ih

/-- A run that was there before edits is still there, advanced. -/
theorem Db.Edits.run_of_mem (h : Db.Edits env tx quiet db db') {r : Run} (hr : r ∈ db.runs) :
    ∃ r' ∈ db'.runs, r.Advances tx.now r' := by
  induction h with
  | refl => exact ⟨r, hr, .refl _ r⟩
  | tail _ h ih =>
    obtain ⟨r', hr', hadv⟩ := ih
    obtain ⟨r'', hr'', hadv'⟩ := h.run_of_mem hr'
    exact ⟨r'', hr'', hadv.trans hadv'⟩

end History

end IncidentAgent
