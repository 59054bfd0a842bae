import IncidentAgent.Investigation.Graph

/-!
# Runs of an investigation

In every run of `investigationGraph`, whatever is answered and wherever a process is lost, what is
read is confined to a batch that was decided, the model is shown only what was observed, and nothing
is written (`asked_in_run`). A person is asked twice at most (`questions_bounded`). What is handed
to the approval is a plan of the program, for a repair that was decided without a wait for a person
(`proposed_in_run`).

`Stands` says what is known at a place, from what was asked until then, and `NodeAsks` what a node
asks for.
-/

namespace IncidentAgent

/-! ### Assertions -/

/-- A row was observed for a granted request of a batch. -/
def ObservedIn (lib : InvestigationLibrary) (scope : RunScope) (h : Exchanges) (row : SavedRow) :
    Prop :=
  ∃ (refs : Catalog) (batch : Batch), Opened lib scope h refs ∧ batch.Observed lib refs h row

/-- A decision was settled in a turn, on the evidence of that turn. -/
def SettledIn (lib : InvestigationLibrary) (scope : RunScope) (h : Exchanges) (turn : Turn)
    (checked : CheckedDecision) : Prop :=
  ∃ refs, Opened lib scope h refs ∧ turn.Settles lib scope refs h checked

/-- The output of an investigation: an end without a decision, or a decision that was settled on the
same evidence. -/
def EndsWith (lib : InvestigationLibrary) (scope : RunScope) (h : Exchanges)
    (s : InvestigationState) (output : Output) : Prop :=
  (∀ d original, output ≠ .decided d original) ∨
    ∃ turn checked original, SettledIn lib scope h turn checked ∧
      turn.current lib = s.turn.current lib ∧ output = .decided checked.decision original

/-- A person is asked for two facts at most, for each of them once, and answers no more than was
asked. -/
structure AsksFew (place : Option InvestigationNode) (s : InvestigationState) : Prop where
  distinct : s.askedSlots.Nodup
  few : s.askedSlots.length ≤ 2
  answered : s.answers.length ≤ s.askedSlots.length
  waiting : place = some .awaitInvestigationInput → s.answers.length < s.askedSlots.length

/-- **What is known at a place** of an investigation. -/
structure Stands (lib : InvestigationLibrary) (scope : RunScope) (h : Exchanges)
    (place : Option InvestigationNode) (s : InvestigationState) : Prop where
  observed : ∀ row ∈ s.observations, ObservedIn lib scope h row
  asks : AsksFew place s
  collecting : place = some .collect → ∃ turn checked, SettledIn lib scope h turn checked ∧
    s.decision = some checked.decision
  waiting : place = some .awaitInvestigationInput → ∃ turn checked question,
    SettledIn lib scope h turn checked ∧ checked.question = some question ∧
    s.question = some question
  ending : place = some .projectInvestigation → ∀ output, s.output = some output →
    EndsWith lib scope h s output
  projected : place = none → ReadsActions lib → ∀ u, s.projected = some u →
    u.members.reverse.lookup "requires_approval" = some (.bool false) ∨
      ∃ output, EndsWith lib scope h s output ∧ Proposes lib (s.turn.current lib) output u

/-- **What a node asks for.** -/
inductive NodeAsks (lib : InvestigationLibrary) (scope : RunScope) (h : Exchanges) :
    InvestigationNode → InvestigationState → Ask → Prop
  | opening {s : InvestigationState} : NodeAsks lib scope h .initializeRun s (.inquire .baseline)
  | binding {s : InvestigationState} {baseline : Baseline} {version : String} :
    NodeAsks lib scope h .initializeRun s (.inquire (.bindBaseline baseline version))
  | baseline {s : InvestigationState} : NodeAsks lib scope h .decide s (.inquire .baseline)
  | references {s : InvestigationState} (refs : Catalog) :
    NodeAsks lib scope h .decide s (.inquire (.references refs))
  | decide {s : InvestigationState} {refs : Catalog} {q : Ask} (opened : Opened lib scope h refs)
      (allowed : s.turn.Allows lib refs h q) : NodeAsks lib scope h .decide s q
  | collect {s : InvestigationState} {batch : Batch} {q : Ask} (deciding : s.batch = .ok batch)
      (asks : batch.Asks lib scope h q) : NodeAsks lib scope h .collect s q
  | interrupt {s : InvestigationState} {question : UserQuestion}
      (asked : s.question = some question) :
    NodeAsks lib scope h .awaitInvestigationInput s (.interrupt question.dump)
  | acceptAnswer {s : InvestigationState} {question : UserQuestion} {value : Json}
      (asked : s.question = some question) :
    NodeAsks lib scope h .awaitInvestigationInput s (.inquire (.acceptAnswer question value))
  | project {s : InvestigationState} : NodeAsks lib scope h .projectInvestigation s .now

section

variable {env : Env} {lib : InvestigationLibrary} {scope : RunScope} {h h' : Exchanges}
  {place : Option InvestigationNode} {s : InvestigationState}

theorem ObservedIn.later {row : SavedRow} (ho : ObservedIn lib scope h row) (hh : h <:+ h') :
    ObservedIn lib scope h' row := by
  obtain ⟨refs, batch, hopened, hrow⟩ := ho
  exact ⟨refs, batch, hopened.later hh, hrow.later hh⟩

theorem SettledIn.later {turn : Turn} {checked : CheckedDecision}
    (hs : SettledIn lib scope h turn checked) (hh : h <:+ h') :
    SettledIn lib scope h' turn checked := by
  obtain ⟨refs, hopened, hsettles⟩ := hs
  exact ⟨refs, hopened.later hh, hsettles.later hh⟩

theorem EndsWith.later {output : Output} (he : EndsWith lib scope h s output) (hh : h <:+ h') :
    EndsWith lib scope h' s output := by
  rcases he with hnone | ⟨turn, checked, original, hsettled, hsame⟩
  · exact Or.inl hnone
  · exact Or.inr ⟨turn, checked, original, hsettled.later hh, hsame⟩

/-- Nothing but a question changes what was asked. -/
theorem AsksFew.move {place' : Option InvestigationNode} {s' : InvestigationState}
    (ha : AsksFew place s) (hslots : s'.askedSlots = s.askedSlots)
    (hanswers : s'.answers = s.answers) (hplace : place' ≠ some .awaitInvestigationInput) :
    AsksFew place' s' where
  distinct := hslots ▸ ha.distinct
  few := hslots ▸ ha.few
  answered := hslots ▸ hanswers ▸ ha.answered
  waiting hwaits := absurd hwaits hplace

/-- A question is about a new fact. -/
theorem AsksFew.ask {s' : InvestigationState} {slot : String} (ha : AsksFew place s)
    (hslots : s'.askedSlots = s.askedSlots ++ [slot]) (hanswers : s'.answers = s.answers)
    (hnew : slot ∉ s.askedSlots) (hfew : s.askedSlots.length + 1 ≤ 2) :
    AsksFew (some .awaitInvestigationInput) s' := by
  have hlength : s'.askedSlots.length = s.askedSlots.length + 1 := by simp [hslots]
  have hanswered := ha.answered
  refine ⟨?_, hlength ▸ hfew, ?_, fun _ => ?_⟩
  · rw [hslots]
    exact List.nodup_append_comm.1 (List.nodup_cons.2 ⟨hnew, ha.distinct⟩)
  · rw [hanswers]
    omega
  · rw [hanswers]
    omega

/-- An answer is one to the question that was asked last. -/
theorem AsksFew.answer {s' : InvestigationState} {answer : AcceptedAnswer}
    {place' : Option InvestigationNode} (ha : AsksFew (some .awaitInvestigationInput) s)
    (hslots : s'.askedSlots = s.askedSlots) (hanswers : s'.answers = s.answers ++ [answer])
    (hplace : place' ≠ some .awaitInvestigationInput) : AsksFew place' s' where
  distinct := hslots ▸ ha.distinct
  few := hslots ▸ ha.few
  answered := by
    rw [hslots, hanswers, List.length_append]
    exact ha.waiting rfl
  waiting hwaits := absurd hwaits hplace

theorem Stands.later (hs : Stands lib scope h place s) (hh : h <:+ h') :
    Stands lib scope h' place s := by
  refine ⟨fun row hrow => (hs.observed row hrow).later hh, hs.asks, fun hplace => ?_,
    fun hplace => ?_, fun hplace output houtput => (hs.ending hplace output houtput).later hh,
    fun hplace hreads u hu => ?_⟩
  · obtain ⟨turn, checked, hsettled, hsame⟩ := hs.collecting hplace
    exact ⟨turn, checked, hsettled.later hh, hsame⟩
  · obtain ⟨turn, checked, question, hsettled, hsame⟩ := hs.waiting hplace
    exact ⟨turn, checked, question, hsettled.later hh, hsame⟩
  · rcases hs.projected hplace hreads u hu with hno | ⟨output, hends, hproposes⟩
    · exact Or.inl hno
    · exact Or.inr ⟨output, hends.later hh, hproposes⟩

/-- Before a turn, what was observed is all that is known. -/
theorem Stands.deciding (hobserved : ∀ row ∈ s.observations, ObservedIn lib scope h row)
    (hasks : AsksFew (some .decide) s) : Stands lib scope h (some .decide) s where
  observed := hobserved
  asks := hasks
  collecting hplace := by cases hplace
  waiting hplace := by cases hplace
  ending hplace := by cases hplace
  projected hplace := by cases hplace

/-- Before the projection, the output is what an investigation may end with. -/
theorem Stands.finished (hobserved : ∀ row ∈ s.observations, ObservedIn lib scope h row)
    (hasks : AsksFew (some .projectInvestigation) s) {output : Output}
    (houtput : s.output = some output) (hends : EndsWith lib scope h s output) :
    Stands lib scope h (some .projectInvestigation) s where
  observed := hobserved
  asks := hasks
  collecting hplace := by cases hplace
  waiting hplace := by cases hplace
  ending _ _ hsame := Option.some.inj (houtput.symm.trans hsame) ▸ hends
  projected hplace := by cases hplace

theorem keeps_initialize :
    (initializeInvestigation scope).Keeps (fun h q => NodeAsks lib scope h .initializeRun s q)
      (fun s' h' => Stands lib scope h' (some .decide) s') h := by
  refine Act.keeps_bind (Act.keeps_answer .opening fun _ baseline _ => ?_)
  refine Act.keeps_bind (Act.keeps_ofExcept fun _ _ => ?_)
  refine Act.keeps_bind (Act.keeps_answer .binding fun _ _ _ => Act.keeps_pure ?_)
  exact Stands.deciding (fun row hrow => (List.not_mem_nil hrow).elim)
    ⟨List.nodup_nil, Nat.zero_le 2, le_refl 0, fun hplace => (by cases hplace)⟩

/-- A settled decision is collected, asked, or the end. -/
theorem settleDecision_cases (turn : Turn) (checked : CheckedDecision) (response : Json) :
    (∃ step history, settleDecision turn checked response =
      .collecting step checked.decision history) ∨
    (∃ step history question, checked.question = some question ∧
      settleDecision turn checked response =
        .waiting step checked.decision history question (turn.askedSlots ++ [question.slot])) ∨
    ∃ step history original, settleDecision turn checked response =
      .decided step checked.decision history (.decided checked.decision original) := by
  unfold settleDecision
  split
  · exact Or.inl ⟨_, _, rfl⟩
  · rename_i hquestion _
    exact Or.inr (Or.inl ⟨_, _, _, hquestion, rfl⟩)
  · exact Or.inr (Or.inr ⟨_, _, _, rfl⟩)

theorem EndsWith.of_handoff {output : Output}
    (ho : ∃ code facts ids failures, output = .handoff code facts ids failures) :
    EndsWith lib scope h s output := by
  obtain ⟨code, facts, ids, failures, rfl⟩ := ho
  exact Or.inl fun _ _ hd => (by cases hd)

/-- An end without a decision. -/
theorem EndsWith.of_ends {turn : Turn} {output : Output} (he : turn.Ends lib output) :
    EndsWith lib scope h s output := by
  rcases he with hhandoff | ⟨d, failures, rfl, -⟩
  · exact EndsWith.of_handoff hhandoff
  · exact Or.inl fun _ _ hd => (by cases hd)

/-- **A turn leads** to a batch, a question or an end that it stands for. -/
theorem Stands.afterTurn {refs : Catalog} {u : TurnUpdate} (hs : Stands lib scope h place s)
    (hopened : Opened lib scope h refs) (hu : s.turn.Accounts lib scope refs h u) :
    Stands lib scope h (InvestigationNode.decide.route (s.afterTurn u)) (s.afterTurn u) := by
  rcases hu with ⟨checked, response, hsettles, rfl⟩ | ⟨output, hends, rfl⟩
  · have hsettled : SettledIn lib scope h s.turn checked := ⟨refs, hopened, hsettles⟩
    rcases settleDecision_cases s.turn checked response with ⟨step, history, heq⟩ |
      ⟨step, history, question, hquestion, heq⟩ | ⟨step, history, original, heq⟩
    · rw [heq]
      exact ⟨hs.observed, hs.asks.move rfl rfl fun hplace => (by cases hplace),
        fun _ => ⟨_, _, hsettled, rfl⟩, fun hplace => (by cases hplace),
        fun hplace => (by cases hplace), fun hplace => (by cases hplace)⟩
    · rw [heq]
      obtain ⟨hnew, hversion, hfew⟩ := hsettles.question question hquestion
      exact ⟨hs.observed, hs.asks.ask rfl rfl hnew (hversion ▸ hfew),
        fun hplace => (by cases hplace), fun _ => ⟨_, _, _, hsettled, hquestion, rfl⟩,
        fun hplace => (by cases hplace), fun hplace => (by cases hplace)⟩
    · rw [heq]
      exact Stands.finished hs.observed (hs.asks.move rfl rfl (by decide)) rfl
        (Or.inr ⟨_, _, _, hsettled, rfl, rfl⟩)
  · exact Stands.finished hs.observed (hs.asks.move rfl rfl (by decide)) rfl
      (EndsWith.of_ends hends)

theorem keeps_visitDecide (hs : Stands lib scope h (some .decide) s) :
    (visitDecide lib scope s).Keeps (fun h q => NodeAsks lib scope h .decide s q)
      (fun s' h' => Stands lib scope h' (InvestigationNode.decide.route s') s') h := by
  refine Act.keeps_bind ((keeps_openToolbox (fun _ => .baseline) fun _ refs =>
    .references refs).mono fun refs h₁ hopened => ?_)
  have hturn : (decideTurn lib scope refs s.turn).Keeps
      (fun h q => NodeAsks lib scope h .decide s q)
      (fun update h' => s.turn.Accounts lib scope refs h' update) h₁ :=
    (decideTurn_keeps lib scope refs s.turn h₁).allow fun h' q hh hq =>
      .decide (hopened.2.later hh) hq
  refine Act.keeps_bind (hturn.suffix.mono fun update h₂ hupdate => Act.keeps_pure ?_)
  exact (hs.later (hopened.1.trans hupdate.1)).afterTurn (hopened.2.later hupdate.1) hupdate.2

/-- A batch is the one of the decision. -/
theorem batch_eq_ok {batch : Batch} (hbatch : s.batch = .ok batch) :
    (∃ fact reason ids,
      s.decision = some (.collect fact reason ids batch.requests batch.resampleReason)) ∧
      batch.observations = s.observations := by
  unfold InvestigationState.batch at hbatch
  split at hbatch
  · rename_i fact reason ids requests resampleReason hdecision
    obtain rfl := Except.ok.inj hbatch
    exact ⟨⟨fact, reason, ids, hdecision⟩, rfl⟩
  · cases hbatch

/-- **A batch leads** to the next turn, or to its end. -/
theorem Stands.afterBatch {refs : Catalog} {batch : Batch} {u : BatchUpdate}
    (hs : Stands lib scope h place s) (hbatch : s.batch = .ok batch)
    (hopened : Opened lib scope h refs) (hu : batch.Updates lib refs h u) :
    Stands lib scope h (InvestigationNode.collect.route (s.afterBatch u)) (s.afterBatch u) := by
  have hsame := (batch_eq_ok hbatch).2
  have hobserved : ∀ row ∈ u.observations, ObservedIn lib scope h row := by
    intro row hrow
    rcases hu.observed row hrow with hold | hnew
    · exact hs.observed row (hsame ▸ hold)
    · exact ⟨refs, batch, hopened, hnew⟩
  cases u with
  | investigating observations history =>
    exact Stands.deciding hobserved (hs.asks.move rfl rfl (by decide))
  | finished observations output =>
    exact Stands.finished hobserved (hs.asks.move rfl rfl (by decide)) rfl
      (EndsWith.of_handoff (hu.ended observations output rfl))

theorem keeps_visitCollect (hs : Stands lib scope h (some .collect) s) :
    (visitCollect lib scope s).Keeps (fun h q => NodeAsks lib scope h .collect s q)
      (fun s' h' => Stands lib scope h' (InvestigationNode.collect.route s') s') h := by
  refine Act.keeps_bind (Act.keeps_ofExcept fun batch hbatch => ?_)
  have hrun : (openToolbox lib scope >>= fun refs => collectBatch lib scope refs batch).Keeps
      (fun h q => NodeAsks lib scope h .collect s q)
      (fun update h' => h <:+ h' ∧ ∃ refs, Opened lib scope h' refs ∧
        batch.Updates lib refs h' update) h :=
    keeps_openedBatch.allow fun h' q _ hq => .collect hbatch hq
  refine Act.keeps_bind (hrun.mono fun update h₁ hupdate => Act.keeps_pure ?_)
  obtain ⟨hlater, refs, hopened, hupdates⟩ := hupdate
  exact (hs.later hlater).afterBatch hbatch hopened hupdates

theorem keeps_awaitAnswer (hs : Stands lib scope h (some .awaitInvestigationInput) s) :
    (awaitAnswer lib s).Keeps (fun h q => NodeAsks lib scope h .awaitInvestigationInput s q)
      (fun s' h' => Stands lib scope h' (InvestigationNode.awaitInvestigationInput.route s') s')
      h := by
  refine Act.keeps_bind (Act.keeps_ofExcept fun _ _ => ?_)
  refine Act.keeps_bind (Act.keeps_ofExcept fun question hquestion => ?_)
  have hasked := rowOr_eq_ok.1 hquestion
  refine Act.keeps_bind (Act.keeps_call (q := Ask.interrupt question.dump)
    (NodeAsks.interrupt hasked) fun value => ?_)
  refine Act.keeps_bind (Act.keeps_answer (.acceptAnswer hasked) ?_)
  rintro _ answer rfl
  refine Act.keeps_ofExcept fun s' hs' => ?_
  have hobserved := fun row hrow => (hs.observed row hrow).later
    ((List.suffix_cons (⟨.interrupt question.dump, value⟩ : Σ q, Ask.Answer q) h).trans
      (List.suffix_cons ⟨.inquire (.acceptAnswer question value), .ok answer⟩ _))
  unfold afterAnswer at hs'
  split at hs'
  · obtain ⟨output, houtput, rfl⟩ := map_eq_ok.1 hs'
    exact Stands.finished hobserved (hs.asks.answer rfl rfl (by decide)) rfl
      (EndsWith.of_handoff (handoff_eq_ok houtput))
  · obtain rfl := Except.ok.inj hs'
    exact Stands.deciding hobserved (hs.asks.answer rfl rfl (by decide))

/-- A projection asks for the clock, and proposes only a plan of the program. -/
theorem keeps_projected {output : Output} {current : Current} :
    (projectInvestigation env lib current output).Keeps (fun _ q => q = .now)
      (fun u _ => ReadsActions lib →
        u.members.reverse.lookup "requires_approval" = some (.bool false) ∨
          Proposes lib current output u) h := by
  refine Act.keeps_bind (Act.keeps_ofExcept fun diagnosis hdiagnosis => ?_)
  split
  · obtain rfl := Except.ok.inj hdiagnosis
    exact keeps_proposeUpdate rfl
  · exact keeps_skipped.mono fun u h' hu _ => Or.inl hu

theorem keeps_visitProject (hs : Stands lib scope h (some .projectInvestigation) s) :
    (visitProject env lib s).Keeps (fun h q => NodeAsks lib scope h .projectInvestigation s q)
      (fun s' h' => Stands lib scope h' none s') h := by
  refine Act.keeps_bind (Act.keeps_ofExcept fun output houtput => ?_)
  have hends := hs.ending rfl output (rowOr_eq_ok.1 houtput)
  have hrun : (projectInvestigation env lib (s.turn.current lib) output).Keeps
      (fun h q => NodeAsks lib scope h .projectInvestigation s q)
      (fun u _ => ReadsActions lib →
        u.members.reverse.lookup "requires_approval" = some (.bool false) ∨
          Proposes lib (s.turn.current lib) output u) h :=
    keeps_projected.allow fun h' q _ hq => hq ▸ .project
  refine Act.keeps_bind (hrun.suffix.mono fun u h₁ hu => Act.keeps_pure ?_)
  refine ⟨fun row hrow => (hs.observed row hrow).later hu.1, hs.asks.move rfl rfl (by decide),
    fun hplace => (by cases hplace), fun hplace => (by cases hplace),
    fun hplace => (by cases hplace), ?_⟩
  rintro - hreads u' hsame
  obtain rfl := Option.some.inj hsame
  exact (hu.2 hreads).imp_right fun hproposes => ⟨output, hends.later hu.1, hproposes⟩

theorem investigationGraph_annotated (env : Env) (lib : InvestigationLibrary) (scope : RunScope) :
    (investigationGraph env lib scope).Annotated (fun _ h o s => Stands lib scope h o s)
      (fun n s h q => NodeAsks lib scope h n s q) where
  mono _ hs := hs.later (List.suffix_cons _ _)
  visit {d h n s} hs := by
    cases n with
    | initializeRun => exact keeps_initialize
    | decide => exact keeps_visitDecide hs
    | collect => exact keeps_visitCollect hs
    | awaitInvestigationInput => exact keeps_awaitAnswer hs
    | projectInvestigation => exact keeps_visitProject hs

end

/-! ### Runs -/

namespace InvestigationRun

/-- The runs of an investigation, up to the approval: visits are lost anywhere, and the graph goes
on from any checkpoint. -/
def Reachable (env : Env) (lib : InvestigationLibrary) (scope : RunScope) :
    Tour InvestigationNode InvestigationState Ask Ask.Answer Raised → Prop :=
  Transition.Reachable (investigationGraph env lib scope).next (Flow.start .initializeRun default)

variable {env : Env} {lib : InvestigationLibrary} {scope : RunScope} {h : Exchanges}
  {t : Tour InvestigationNode InvestigationState Ask Ask.Answer Raised}

theorem holds (ht : Reachable env lib scope t) :
    (investigationGraph env lib scope).Holds (fun _ h o s => Stands lib scope h o s)
      (fun n s h q => NodeAsks lib scope h n s q) t := by
  refine (investigationGraph_annotated env lib scope).holds_of_reachable ?_ ht
  exact ⟨fun row hrow => (List.not_mem_nil hrow).elim,
    ⟨List.nodup_nil, Nat.zero_le 2, le_refl 0, fun hplace => (by cases hplace)⟩,
    fun hplace => (by cases hplace), fun hplace => (by cases hplace),
    fun hplace => (by cases hplace), fun hplace => (by cases hplace)⟩

/-- **A person is asked twice at most**, each time for a fact that was not asked for before, and
answers no more than was asked. -/
theorem questions_bounded (ht : Reachable env lib scope t)
    {c : Checkpoint InvestigationNode InvestigationState} (hc : c ∈ t.saved) :
    c.state.askedSlots.Nodup ∧ c.state.askedSlots.length ≤ 2 ∧
      c.state.answers.length ≤ c.state.askedSlots.length := by
  have hasks := ((holds ht).saved c hc).asks
  exact ⟨hasks.distinct, hasks.few, hasks.answered⟩

/-- **What is handed to the approval** is no more than a plan of the program: for a repair that the
model has decided to propose in a turn without answers, on the same evidence, and that has passed
all checks. -/
theorem proposed_in_run (hreads : ReadsActions lib) (ht : Reachable env lib scope t)
    {c : Checkpoint InvestigationNode InvestigationState} (hc : c ∈ t.saved) (hend : c.next = none)
    {u : Update} (hu : c.state.projected = some u)
    (hyes : u.members.reverse.lookup "requires_approval" = some (.bool true)) :
    ∃ turn checked d candidate plan original, SettledIn lib scope t.history turn checked ∧
      turn.current lib = c.state.turn.current lib ∧ turn.answers = [] ∧
      checked.decision = .proposePlan d candidate ∧
      ProgramPlan lib.toPolicyLibrary
        ((c.state.turn.current lib).diagnosed (d.dump lib.toWorkflowLibrary)) candidate plan ∧
      u.members = projectedMembers lib (c.state.turn.current lib) (d.dump lib.toWorkflowLibrary)
        (.decided (.proposePlan d candidate) original) ++ proposedMembers plan := by
  have hs := (holds ht).saved c hc
  rcases hs.projected hend hreads u hu with hno | ⟨output, hends, d, candidate, original, plan,
    rfl, hplan, hmembers⟩
  · cases hno.symm.trans hyes
  · rcases hends with hnone | ⟨turn, checked, original', hsettled, hsame, heq⟩
    · exact absurd rfl (hnone _ _)
    · obtain ⟨hdecision, -⟩ := Output.decided.inj heq
      refine ⟨turn, checked, d, candidate, plan, original, hsettled, hsame, ?_, hdecision.symm,
        hplan, hmembers⟩
      obtain ⟨refs, -, hsettles⟩ := hsettled
      -- After an answer a proposal is refused, so there was none.
      by_contra hanswers
      exact (hsettles.waited hanswers).1 (by rw [← hdecision]; rfl)

end InvestigationRun

/-! ### A run that proposes -/

/-- What is answered in the run. -/
def repairAnswers : (q : Ask) → Ask.Answer q
  | .now => (0 : ℕ)
  | .inquire .baseline => Except.ok driftBaseline
  | .inquire (.bindBaseline ..) => Except.ok ⟨⟩
  | .inquire (.references _) => Except.ok ⟨⟩
  | .inquire .contextVersion => Except.ok (contextVersions.headD "")
  | .inquire (.mode ..) => Except.ok false
  | .inquire (.model ..) => Except.ok (.obj [("parsed", .str "repair")])
  | q => driftAnswers q

/-- The run of the incident. -/
def repairScope : RunScope := ⟨"run-1", "a-1", driftIncident⟩

/-- Visits, by the numbers of their questions. -/
def repairVisits (asked : List ℕ) : List (TourEvent Ask Ask.Answer) :=
  asked.flatMap fun n => .enter 0 :: List.replicate n (.answer repairAnswers) ++ [.leave]

theorem exists_repairRun : ∃ t,
    InvestigationRun.Reachable driftEnv driftInvestigation repairScope t ∧
    (∃ c ∈ t.saved, c.next = none ∧ ∃ u, c.state.projected = some u ∧
      u.members.reverse.lookup "requires_approval" = some (.bool true)) ∧
    ∃ e h, e :: h <:+ t.history := by
  -- The baseline is bound, the model is asked once, and its decision is projected.
  have hrun : (Transition.follow (investigationGraph driftEnv driftInvestigation repairScope).next
      (Flow.start .initializeRun default) [fun _ => repairVisits [2, 5, 1]]).any (fun t => decide
        ((t.saved.any fun c => c.next.isNone && c.state.projected.any fun u => decide
          (u.members.reverse.lookup "requires_approval" = some (.bool true))) = true ∧
        t.history ≠ [])) = true := by
    decide +kernel
  obtain ⟨t, -, ht, hsaved, hhistory⟩ := Transition.exists_reachable _ _ _ _ hrun
  obtain ⟨c, hc, hends⟩ := List.any_eq_true.1 hsaved
  obtain ⟨hend, hprojected⟩ := (Bool.and_eq_true_iff).1 hends
  obtain ⟨u, hu, hyes⟩ := (Option.any_eq_true _ _).1 hprojected
  obtain ⟨e, h, hcons⟩ := List.exists_cons_of_ne_nil hhistory
  exact ⟨t, ht, ⟨c, hc, Option.isNone_iff_eq_none.1 hend, u, hu, of_decide_eq_true hyes⟩, e, h,
    hcons ▸ List.suffix_refl _⟩

namespace InvestigationRun

theorem proposed_in_run_repair : ∃ h turn checked d candidate,
    SettledIn driftInvestigation repairScope h turn checked ∧ turn.answers = [] ∧
      checked.decision = .proposePlan d candidate := by
  obtain ⟨t, ht, ⟨c, hc, hend, u, hu, hyes⟩, -⟩ := exists_repairRun
  obtain ⟨turn, checked, d, candidate, plan, original, hsettled, -, hanswers, hdecision, -⟩ :=
    proposed_in_run driftInvestigation_readsActions ht hc hend hu hyes
  exact ⟨t.history, turn, checked, d, candidate, hsettled, hanswers, hdecision⟩

end InvestigationRun

/-! ### A run that asks -/

/-- The model asks for the onset. -/
def onsetInvestigation : InvestigationLibrary :=
  { driftInvestigation with
    decision := fun _ => some (.askUser "Since when?" "The onset is not known." [] (some "onset")) }

theorem exists_onsetRun : ∃ t,
    InvestigationRun.Reachable driftEnv onsetInvestigation repairScope t ∧
      ∃ c ∈ t.saved, c.state.askedSlots = ["onset"] := by
  have hrun : (Transition.follow (investigationGraph driftEnv onsetInvestigation repairScope).next
      (Flow.start .initializeRun default) [fun _ => repairVisits [2, 5]]).any (fun t => decide
        (∃ c ∈ t.saved, c.state.askedSlots = ["onset"])) = true := by
    decide +kernel
  obtain ⟨t, -, ht, hsaved⟩ := Transition.exists_reachable _ _ _ _ hrun
  exact ⟨t, ht, hsaved⟩

namespace InvestigationRun

theorem questions_bounded_onset :
    ∃ c : Checkpoint InvestigationNode InvestigationState, c.state.askedSlots = ["onset"] ∧
      c.state.askedSlots.Nodup ∧ c.state.askedSlots.length ≤ 2 ∧
      c.state.answers.length ≤ c.state.askedSlots.length := by
  obtain ⟨t, ht, c, hc, hslots⟩ := exists_onsetRun
  exact ⟨c, hslots, questions_bounded ht hc⟩

end InvestigationRun

end IncidentAgent
