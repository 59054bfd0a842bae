import IncidentAgent.Investigation.Budget

/-!
# The last attempt of a model

An investigation may call its model only so many times, and its last call is to be a terminal
one, which may only conclude or stop. The mode of a call is fixed and saved before the call is
reserved (`terminalMode`), so that a replay does not change it; the limit of the calls is enforced
by the reservation.

Both read the limit from the policy, each with a default of its own. `last_terminal_iff` says
exactly in which runs the last call is a terminal one: where the policy names the limit, and no
call is reserved between the mode of the last call and the call itself, or where the last call was
forced to be terminal.
-/

namespace IncidentAgent

open Entries Transition

/-! ### The calls of the model -/

/-- `CALL_SECONDS`. -/
def callSeconds : ℚ := 30

/-- `CALL_TOKENS`. -/
def callTokens : ℤ := 0

/-- The budget of a run, with what the investigation saves in it. -/
structure Investigation where
  budget : RunBudget
  /-- `investigation_model_modes`: whether the call of a request is terminal. -/
  modes : List (String × Bool)
  /-- `investigation.correction_for`. -/
  correctionFor : Option String
  /-- `investigation.diagnosis_correction_for`. -/
  diagnosisCorrectionFor : Option String
  /-- How each mode was fixed: whether it was forced, and after how many calls. Nothing reads
  this but the statements below. -/
  fixed : List (String × Bool × Nat)
  deriving DecidableEq, Inhabited

/-- An investigation that begins, under a policy. -/
def Investigation.initial (policy : BudgetPolicy) : Investigation :=
  ⟨.initial policy, [], none, none, []⟩

/-- The mode of a request that has none yet: the one in which it was made, if it was made, and
otherwise whether it is forced to be terminal or the limit leaves one attempt. -/
def newMode (requestId : String) (forced : Bool) (s : Investigation) : Bool :=
  match s.budget.requests.lookup requestId with
  | some previous =>
    (s.budget.calls.lookup previous).any fun c => c.metadata.hasText "purpose" "terminal"
  | none => forced || decide (s.budget.policy.modelAttempts.getD 6 ≤ s.budget.attempts + 1)

/-- `terminal_mode`. -/
def terminalMode (requestId : String) (forced : Bool) (s : Investigation) :
    Bool × Investigation :=
  match s.modes.lookup requestId with
  | some mode => (mode, s)
  | none => (newMode requestId forced s, { s with
      modes := s.modes ++ [(requestId, newMode requestId forced s)]
      fixed := s.fixed ++ [(requestId, forced, s.budget.attempts)] })

/-- The reservation of `call_model`. Besides its purpose, the metadata has what is said of the
prompt. -/
def modelReservation (requestId fingerprint : String) (decisionKey : Option String)
    (terminal : Bool) (context : List (String × Json)) : Reservation where
  kind := "investigation_model"
  seconds := callSeconds
  extra := false
  tokens := callTokens
  key := none
  metadata := .obj (("purpose", .str (if terminal then "terminal" else "decision")) :: context)
  requestId := some requestId
  fingerprint := some fingerprint
  decisionKey := if terminal then none else decisionKey
  keepTokens := if terminal then 0 else callTokens
  keepSeconds := if terminal then 0 else callSeconds

/-- The request that has been corrected, of a diagnosis or of anything else. -/
def Investigation.corrected (s : Investigation) (diagnosis : Bool) : Option String :=
  if diagnosis then s.diagnosisCorrectionFor else s.correctionFor

/-- `correction`: whether a request may be corrected. -/
def correction (requestId : String) (diagnosis : Bool) (tokens : ℤ) (seconds : ℚ)
    (s : Investigation) : Bool × Investigation :=
  if (s.corrected diagnosis).any fun other => other ≠ "" && other ≠ requestId then (false, s)
  else if diagnosis && !present (s.corrected diagnosis) &&
      (exceeds (s.budget.tokens + tokens) s.budget.policy.totalTokens ||
        exceeds (s.budget.seconds + seconds) s.budget.policy.activeSeconds ||
        decide (s.budget.policy.modelAttempts.getD 5 ≤ s.budget.attempts)) then (false, s)
  else if diagnosis then (true, { s with diagnosisCorrectionFor := some requestId })
  else (true, { s with correctionFor := some requestId })

/-! ### Runs -/

/-- What happens to an investigation. A worker fixes the mode of a request before it makes the
call of it; it may crash and do both again, at any time. -/
inductive AttemptEvent
  | mode (requestId : String) (forced : Bool)
  | call (requestId fingerprint : String) (decisionKey : Option String)
      (context : List (String × Json)) (ticket : String)
  | correction (requestId : String) (diagnosis : Bool)
  /-- Any operation on the budget but the reservation of a call of the model. -/
  | other (e : BudgetEvent)
  deriving DecidableEq

/-- Whether an operation reserves a call of the model. -/
def BudgetEvent.isModel : BudgetEvent → Bool
  | .reserve r _ => r.kind = "investigation_model"
  | _ => false

/-- What an event does to an investigation. The call of a request is made in its mode. -/
def Investigation.next (s : Investigation) : AttemptEvent → Option Investigation
  | .mode requestId forced => some (terminalMode requestId forced s).2
  | .call requestId fingerprint decisionKey context ticket =>
    (s.modes.lookup requestId).bind fun terminal =>
      (s.budget.next (.reserve (modelReservation requestId fingerprint decisionKey terminal context)
        ticket)).map fun b => { s with budget := b }
  | .correction requestId diagnosis =>
    some (IncidentAgent.correction requestId diagnosis callTokens callSeconds s).2
  | .other e => if e.isModel then none else (s.budget.next e).map fun b => { s with budget := b }

/-- What the calls of the model were made for, in order. -/
def RunBudget.purposes (b : RunBudget) : List Json :=
  (b.calls.filter fun c => c.2.kind = "investigation_model").map fun c => c.2.metadata

/-- No further call of the model is granted. -/
def RunBudget.Spent (b : RunBudget) : Prop := b.policy.modelAttempts.getD 5 ≤ b.attempts

/-- **The last call is terminal**: when no further call is granted, the last one was issued to
conclude or to stop. -/
def LastTerminal (s : Investigation) : Prop :=
  s.budget.Spent → ∀ metadata ∈ s.budget.purposes.getLast?,
    metadata.hasText "purpose" "terminal" = true

/-- The policy and the history allow an event: it is not the call that takes the last attempt, or
that call was forced to be terminal, or the policy names the limit and no call was reserved
since the mode of the call was fixed. -/
def AttemptEvent.Allowed (s : Investigation) : AttemptEvent → Prop
  | .call requestId fingerprint decisionKey context _ =>
    let r := fun terminal =>
      modelReservation requestId fingerprint decisionKey terminal context
    ∀ terminal ∈ s.modes.lookup requestId,
      (r terminal).known s.budget = none → (r terminal).refusal s.budget = none →
      s.budget.policy.modelAttempts.getD 5 ≤ s.budget.attempts + 1 →
      ∃ forced n, s.fixed.lookup requestId = some (forced, n) ∧
        (forced = true ∨ (s.budget.policy.modelAttempts.isSome ∧ n = s.budget.attempts))
  | _ => True

section Steps

variable {policy : BudgetPolicy} {b b' : RunBudget} {s s' : Investigation}

theorem attempts_eq (b : RunBudget) : b.attempts = b.purposes.length := by
  rw [RunBudget.attempts, RunBudget.purposes, List.length_map, List.countP_eq_length_filter]

theorem purposes_granted (r : Reservation) (ticket : String) (b : RunBudget) :
    (r.granted ticket b).purposes = b.purposes ++
      if r.kind = "investigation_model" then [r.metadata] else [] := by
  show ((b.calls ++ [(ticket, r.call)]).filter _).map _ = _
  rw [List.filter_append, List.map_append]
  congr 1
  by_cases h : r.kind = "investigation_model" <;> simp [h, Reservation.call]

theorem purposes_charged (c : Settlement) (call : Call) (b : RunBudget) :
    (c.charged call b).purposes = b.purposes := by
  rw [RunBudget.purposes, calls_charged, RunBudget.purposes]
  induction b.calls with
  | nil => rfl
  | cons e rest ih =>
    have hcons : update c.ticket (fun c' : Call => { c' with settled := some (c.settled call) })
        (e :: rest) = (if e.1 = c.ticket then (e.1, { e.2 with settled := some (c.settled call) })
          else e) :: update c.ticket (fun c' => { c' with settled := some (c.settled call) }) rest :=
      rfl
    rw [hcons]
    split <;> by_cases hk : e.2.kind = "investigation_model" <;> simp [hk, ih]

/-- An operation leaves the purposes of the calls of the model alone, or reserves one. -/
theorem purposes_cases {e : BudgetEvent} (h : b.next e = some b') :
    (b'.purposes = b.purposes ∧ b'.policy = b.policy) ∨
      ∃ r ticket, e = .reserve r ticket ∧ r.kind = "investigation_model" ∧ r.known b = none ∧
        r.refusal b = none ∧ b' = r.granted ticket b := by
  cases e with
  | reserve r ticket =>
    simp only [RunBudget.next, Option.ite_none_right_eq_some, Option.some.injEq] at h
    obtain ⟨-, rfl⟩ := h
    rcases reserve_cases r ticket b with hsame | ⟨reason, hrefused⟩ | ⟨hknown, hr, hgranted⟩
    · rw [hsame]
      exact Or.inl ⟨rfl, rfl⟩
    · rw [hrefused]
      exact Or.inl ⟨rfl, rfl⟩
    · rw [hgranted]
      by_cases hkind : r.kind = "investigation_model"
      · exact Or.inr ⟨r, ticket, rfl, hkind, hknown, hr, rfl⟩
      · refine Or.inl ⟨?_, rfl⟩
        rw [purposes_granted, if_neg hkind, List.append_nil]
  | settle c =>
    obtain rfl := Option.some.inj h
    rcases settle_cases c b with hsame | ⟨call, -, -, hcharged⟩
    · rw [hsame]
      exact Or.inl ⟨rfl, rfl⟩
    · rw [hcharged]
      exact Or.inl ⟨purposes_charged c call b, rfl⟩
  | decision key =>
    obtain rfl := Option.some.inj h
    unfold decision
    split
    · exact Or.inl ⟨rfl, rfl⟩
    · split <;> exact Or.inl ⟨rfl, rfl⟩
  | activity ticket =>
    simp only [RunBudget.next, Option.ite_none_right_eq_some, Option.some.injEq] at h
    obtain ⟨-, rfl⟩ := h
    refine Or.inl ⟨?_, rfl⟩
    show ((b.calls ++ [(ticket, overhead)]).filter _).map _ = _
    rw [List.filter_append]
    simp [overhead, RunBudget.purposes]
  | deny reason =>
    obtain rfl := Option.some.inj h
    exact Or.inl ⟨rfl, rfl⟩
  | beforeWrite required =>
    obtain rfl := Option.some.inj h
    unfold beforeWrite
    split <;> exact Or.inl ⟨rfl, rfl⟩

theorem requests_cases {e : BudgetEvent} (h : b.next e = some b') :
    b'.requests = b.requests ∨ ∃ id ticket, id ≠ "" ∧ b'.requests = b.requests ++ [(id, ticket)] := by
  cases e with
  | reserve r ticket =>
    simp only [RunBudget.next, Option.ite_none_right_eq_some, Option.some.injEq] at h
    obtain ⟨-, rfl⟩ := h
    rcases reserve_cases r ticket b with hsame | ⟨reason, hrefused⟩ | ⟨-, -, hgranted⟩
    · rw [hsame]
      exact Or.inl rfl
    · rw [hrefused]
      exact Or.inl rfl
    · rw [hgranted]
      show b.requests ++ _ = b.requests ∨ ∃ id ticket', _ ∧ b.requests ++ _ = _
      cases hid : r.requestId.filter (· ≠ "") with
      | none => exact Or.inl (by simp)
      | some id =>
        have hne := (Option.filter_eq_some_iff.1 hid).2
        exact Or.inr ⟨id, ticket, by simpa using hne, rfl⟩
  | settle c =>
    obtain rfl := Option.some.inj h
    rcases settle_cases c b with hsame | ⟨call, -, -, hcharged⟩
    · rw [hsame]
      exact Or.inl rfl
    · rw [hcharged]
      exact Or.inl rfl
  | decision key =>
    obtain rfl := Option.some.inj h
    unfold decision
    split
    · exact Or.inl rfl
    · split <;> exact Or.inl rfl
  | activity ticket =>
    simp only [RunBudget.next, Option.ite_none_right_eq_some, Option.some.injEq] at h
    obtain ⟨-, rfl⟩ := h
    exact Or.inl rfl
  | deny reason =>
    obtain rfl := Option.some.inj h
    exact Or.inl rfl
  | beforeWrite required =>
    obtain rfl := Option.some.inj h
    unfold beforeWrite
    split <;> exact Or.inl rfl

/-- **How the modes of an investigation were fixed.** Unless the request had been made before,
its mode was forced, or says whether the limit left one attempt. -/
structure Fixes (s : Investigation) : Prop where
  keys : s.fixed.map Prod.fst = s.modes.map Prod.fst
  requests : ∀ p ∈ s.budget.requests, p.1 ≠ ""
  modes : ∀ requestId mode, s.modes.lookup requestId = some mode →
    s.budget.requests.lookup requestId = none →
    ∃ forced n, s.fixed.lookup requestId = some (forced, n) ∧ n ≤ s.budget.attempts ∧
      mode = (forced || decide (s.budget.policy.modelAttempts.getD 6 ≤ n + 1))

/-- Whatever the operation, the modes stay as they were fixed. -/
theorem Fixes.operate (h : Fixes s) {e : BudgetEvent} (he : s.budget.next e = some b') :
    Fixes { s with budget := b' } := by
  have hattempts : s.budget.attempts ≤ b'.attempts ∧ b'.policy = s.budget.policy := by
    rw [attempts_eq, attempts_eq]
    rcases purposes_cases he with ⟨hsame, hpolicy⟩ | ⟨r, ticket, -, -, -, -, rfl⟩
    · exact ⟨by rw [hsame], hpolicy⟩
    · exact ⟨by rw [purposes_granted, List.length_append]; omega, rfl⟩
  refine ⟨h.keys, fun p hp => ?_, fun requestId mode hmode hnone => ?_⟩
  · rcases requests_cases he with hsame | ⟨id, ticket, hid, hmore⟩
    · exact h.requests p (hsame ▸ hp)
    · rw [show Investigation.budget _ = b' from rfl, hmore] at hp
      rcases List.mem_append.1 hp with hp | hp
      · exact h.requests p hp
      · rw [List.mem_singleton.1 hp]
        exact hid
  · have hbefore : s.budget.requests.lookup requestId = none := by
      rcases requests_cases he with hsame | ⟨id, ticket, -, hmore⟩
      · rw [← hsame]
        exact hnone
      · rw [show Investigation.budget _ = b' from rfl, hmore, lookup_append,
          Option.or_eq_none_iff] at hnone
        exact hnone.1
    obtain ⟨forced, n, hfixed, hn, hvalue⟩ := h.modes requestId mode hmode hbefore
    exact ⟨forced, n, hfixed, hn.trans hattempts.1, by rw [hvalue]; rw [← hattempts.2]⟩

/-- A mode that is fixed is the one that the limit and the calls so far ask for. -/
theorem Fixes.fix (h : Fixes s) (requestId : String) (forced : Bool) :
    Fixes (terminalMode requestId forced s).2 := by
  unfold terminalMode
  cases hknown : s.modes.lookup requestId with
  | some mode => exact h
  | none =>
    refine ⟨by simp [h.keys], h.requests, fun id mode hmode hnone => ?_⟩
    have hmodes : (s.modes ++ [(requestId, newMode requestId forced s)]).lookup id =
      some mode := hmode
    rw [lookup_append] at hmodes
    show ∃ f n, (s.fixed ++ [(requestId, forced, s.budget.attempts)]).lookup id = _ ∧ _
    rw [lookup_append]
    rcases Option.or_eq_some_iff.1 hmodes with hold | ⟨hnew, hlookup⟩
    · obtain ⟨f, n, hf, hn, hvalue⟩ := h.modes id mode hold hnone
      exact ⟨f, n, by rw [hf]; rfl, hn, hvalue⟩
    · have hfresh : s.fixed.lookup id = none := by
        rw [lookup_eq_none_iff, h.keys, ← lookup_eq_none_iff]
        exact hnew
      rw [lookup_cons] at hlookup
      by_cases hid : id = requestId
      · subst hid
        rw [if_pos rfl, Option.some.injEq] at hlookup
        refine ⟨forced, s.budget.attempts, by rw [hfresh, lookup_cons, if_pos rfl]; rfl, le_rfl, ?_⟩
        rw [← hlookup, newMode, show s.budget.requests.lookup id = none from hnone]
      · rw [if_neg hid] at hlookup
        cases hlookup

/-- A correction is noted, and nothing else. -/
theorem correction_eq (requestId : String) (diagnosis : Bool) (tokens : ℤ) (seconds : ℚ)
    (s : Investigation) :
    (correction requestId diagnosis tokens seconds s).2.budget = s.budget ∧
      (correction requestId diagnosis tokens seconds s).2.modes = s.modes ∧
      (correction requestId diagnosis tokens seconds s).2.fixed = s.fixed := by
  unfold correction
  split
  · exact ⟨rfl, rfl, rfl⟩
  · split
    · exact ⟨rfl, rfl, rfl⟩
    · split <;> exact ⟨rfl, rfl, rfl⟩

theorem Fixes.next (h : Fixes s) {e : AttemptEvent} (he : s.next e = some s') : Fixes s' := by
  cases e with
  | mode requestId forced =>
    obtain rfl := Option.some.inj he
    exact h.fix requestId forced
  | call requestId fingerprint decisionKey context ticket =>
    obtain ⟨terminal, -, he⟩ := Option.bind_eq_some_iff.1 he
    obtain ⟨b', hb, rfl⟩ := Option.map_eq_some_iff.1 he
    exact h.operate hb
  | correction requestId diagnosis =>
    obtain rfl := Option.some.inj he
    obtain ⟨hbudget, hmodes, hfixed⟩ := correction_eq requestId diagnosis callTokens callSeconds s
    refine ⟨by rw [hmodes, hfixed]; exact h.keys, by rw [hbudget]; exact h.requests, ?_⟩
    rw [hbudget, hmodes, hfixed]
    exact h.modes
  | other e =>
    simp only [Investigation.next] at he
    split at he
    · cases he
    · obtain ⟨b', hb, rfl⟩ := Option.map_eq_some_iff.1 he
      exact h.operate hb

/-- The last call is what the purposes of the calls and the policy make it. -/
theorem lastTerminal_congr (hpurposes : s'.budget.purposes = s.budget.purposes)
    (hpolicy : s'.budget.policy = s.budget.policy) : LastTerminal s' ↔ LastTerminal s := by
  unfold LastTerminal RunBudget.Spent
  rw [attempts_eq, attempts_eq, hpurposes, hpolicy]

/-- A request that is not known has not been made. -/
theorem lookup_of_known {r : Reservation} {requestId : String} (hid : r.requestId = some requestId)
    (hkeys : ∀ p ∈ b.requests, p.1 ≠ "") (h : r.known b = none) :
    b.requests.lookup requestId = none := by
  by_cases hne : requestId = ""
  · rw [lookup_eq_none_iff, List.mem_map]
    rintro ⟨p, hp, hkey⟩
    exact hkeys p hp (hkey.trans hne)
  · rw [Reservation.known, hid] at h
    simpa [Option.filter, hne] using h

/-- A call of the model that is not known and not refused is granted. -/
theorem reserve_modelReservation {requestId fingerprint ticket : String}
    {decisionKey : Option String} {terminal : Bool} {context : List (String × Json)}
    {r : Reservation} (hr : r = modelReservation requestId fingerprint decisionKey terminal context)
    (hknown : r.known b = none) (hrefusal : r.refusal b = none) :
    (reserve r ticket b).2 = r.granted ticket b := by
  have hvalid : ¬(r.seconds < 0 ∨ r.tokens < 0 ∨ r.keepTokens < 0 ∨ r.keepSeconds < 0 ∨
      (r.kind = "tool" ∧ present r.key = false)) := by
    rw [hr]
    cases terminal <;> simp [modelReservation, callSeconds, callTokens] <;> decide
  rw [reserve, if_neg hvalid, hknown]
  simp only [hrefusal]

/-- A call is granted within the limit of the attempts. -/
theorem attempts_of_refusal {r : Reservation} (hkind : r.kind = "investigation_model")
    (hrefusal : r.refusal b = none) : b.attempts < b.policy.modelAttempts.getD 5 :=
  (within_of_refusal hrefusal).2.1 hkind

/-- **The call that takes the last attempt** is terminal exactly if it was forced to be, or its
mode was fixed by the limit that is enforced. -/
theorem mode_of_last {policy : BudgetPolicy} {attempts n : Nat} {forced : Bool}
    (hn : n ≤ attempts) (hlimit : attempts < policy.modelAttempts.getD 5)
    (hlast : policy.modelAttempts.getD 5 ≤ attempts + 1) :
    (forced || decide (policy.modelAttempts.getD 6 ≤ n + 1)) = true ↔
      forced = true ∨ (policy.modelAttempts.isSome ∧ n = attempts) := by
  rw [Bool.or_eq_true, decide_eq_true_eq]
  refine or_congr_right ?_
  cases hattempts : policy.modelAttempts with
  | none =>
    simp only [hattempts, Option.getD_none] at hlimit hlast ⊢
    refine ⟨fun h => by omega, fun h => by cases h.1⟩
  | some limit =>
    simp only [hattempts, Option.getD_some] at hlimit hlast ⊢
    exact ⟨fun h => ⟨rfl, by omega⟩, fun h => by omega⟩

theorem lastTerminal_call {requestId fingerprint ticket : String} {decisionKey : Option String}
    {terminal : Bool} {context : List (String × Json)} (h : Fixes s) (hlast : LastTerminal s)
    (hmode : s.modes.lookup requestId = some terminal)
    (hb : s.budget.next (.reserve
      (modelReservation requestId fingerprint decisionKey terminal context) ticket) = some b') :
    LastTerminal { s with budget := b' } ↔
      (AttemptEvent.call requestId fingerprint decisionKey context ticket).Allowed s := by
  obtain ⟨r, hr⟩ : ∃ r, r =
    modelReservation requestId fingerprint decisionKey terminal context := ⟨_, rfl⟩
  have hkind : r.kind = "investigation_model" := by rw [hr]; rfl
  have hallowed : (AttemptEvent.call requestId fingerprint decisionKey context ticket).Allowed s ↔
      (r.known s.budget = none → r.refusal s.budget = none →
        s.budget.policy.modelAttempts.getD 5 ≤ s.budget.attempts + 1 →
        ∃ forced n, s.fixed.lookup requestId = some (forced, n) ∧
          (forced = true ∨ (s.budget.policy.modelAttempts.isSome ∧ n = s.budget.attempts))) := by
    simp only [AttemptEvent.Allowed, hmode, Option.mem_some_iff, forall_eq', hr]
  rw [← hr] at hb
  simp only [RunBudget.next, Option.ite_none_right_eq_some, Option.some.injEq] at hb
  rw [hallowed]
  by_cases hgrant : r.known s.budget = none ∧ r.refusal s.budget = none
  · obtain ⟨hknown, hrefusal⟩ := hgrant
    obtain rfl : r.granted ticket s.budget = b' :=
      (reserve_modelReservation hr hknown hrefusal).symm.trans hb.2
    have hnone := lookup_of_known (by rw [hr]; rfl) h.requests hknown
    obtain ⟨forced, n, hfixed, hn, hvalue⟩ := h.modes requestId terminal hmode hnone
    have hlimit := attempts_of_refusal hkind hrefusal
    have hpurposes : (r.granted ticket s.budget).purposes = s.budget.purposes ++ [r.metadata] := by
      rw [purposes_granted, if_pos hkind]
    have hspent : (r.granted ticket s.budget).Spent ↔
        s.budget.policy.modelAttempts.getD 5 ≤ s.budget.attempts + 1 := by
      rw [RunBudget.Spent, attempts_eq, hpurposes, List.length_append, attempts_eq]
      rfl
    have hterminal : r.metadata.hasText "purpose" "terminal" = true ↔ terminal = true := by
      rw [hr]
      cases terminal <;> simp [modelReservation, Json.hasText, Json.get?]
    have hstate : LastTerminal { s with budget := r.granted ticket s.budget } ↔
        (s.budget.policy.modelAttempts.getD 5 ≤ s.budget.attempts + 1 → terminal = true) := by
      unfold LastTerminal
      rw [hspent, hpurposes, List.getLast?_concat, ← hterminal]
      simp
    rw [hstate]
    constructor
    · intro hterm _ _ hnow
      refine ⟨forced, n, hfixed, (mode_of_last hn hlimit hnow).1 ?_⟩
      rw [← hvalue]
      exact hterm hnow
    · intro hcondition hnow
      obtain ⟨f, m, hfixed', hmode'⟩ := hcondition hknown hrefusal hnow
      rw [hfixed, Option.some.injEq, Prod.mk.injEq] at hfixed'
      obtain ⟨rfl, rfl⟩ := hfixed'
      rw [hvalue]
      exact (mode_of_last hn hlimit hnow).2 hmode'
  · -- Nothing is reserved.
    refine iff_of_true ?_ fun hknown hrefusal => absurd ⟨hknown, hrefusal⟩ hgrant
    rcases reserve_cases r ticket s.budget with hsame | ⟨reason, hrefused⟩ | ⟨hk, hf, -⟩
    · rw [← hb.2, hsame]
      exact hlast
    · rw [← hb.2, hrefused]
      exact hlast
    · exact absurd ⟨hk, hf⟩ hgrant

/-- **An event keeps the last call terminal exactly when it is allowed.** -/
theorem lastTerminal_step (h : Fixes s) (hlast : LastTerminal s) {e : AttemptEvent}
    (he : s.next e = some s') : LastTerminal s' ↔ e.Allowed s := by
  cases e with
  | mode requestId forced =>
    obtain rfl := Option.some.inj he
    refine iff_of_true ?_ trivial
    have hbudget : (terminalMode requestId forced s).2.budget = s.budget := by
      unfold terminalMode
      cases s.modes.lookup requestId <;> rfl
    exact (lastTerminal_congr (by rw [hbudget]) (by rw [hbudget])).2 hlast
  | correction requestId diagnosis =>
    obtain rfl := Option.some.inj he
    refine iff_of_true ?_ trivial
    obtain ⟨hbudget, -⟩ := correction_eq requestId diagnosis callTokens callSeconds s
    exact (lastTerminal_congr (by rw [hbudget]) (by rw [hbudget])).2 hlast
  | other e =>
    simp only [Investigation.next] at he
    split at he
    · cases he
    · rename_i hother
      obtain ⟨b', hb, rfl⟩ := Option.map_eq_some_iff.1 he
      refine iff_of_true ?_ trivial
      rcases purposes_cases hb with ⟨hpurposes, hpolicy⟩ | ⟨r, ticket, rfl, hkind, -⟩
      · exact (lastTerminal_congr hpurposes hpolicy).2 hlast
      · exact absurd (by simpa [BudgetEvent.isModel] using hkind) hother
  | call requestId fingerprint decisionKey context ticket =>
    obtain ⟨terminal, hmode, he⟩ := Option.bind_eq_some_iff.1 he
    obtain ⟨b', hb, rfl⟩ := Option.map_eq_some_iff.1 he
    exact lastTerminal_call h hlast hmode hb

/-- **The last call is terminal exactly in the runs whose events are allowed.** -/
theorem last_terminal_iff (policy : BudgetPolicy) (events : List AttemptEvent) :
    Throughout Investigation.next LastTerminal (.initial policy) events ↔
      Along Investigation.next (fun s e => e.Allowed s) (.initial policy) events := by
  have hfixes : Fixes (.initial policy) :=
    ⟨rfl, fun _ hp => absurd hp List.not_mem_nil, fun _ _ hmode => by cases hmode⟩
  have hlast : LastTerminal (.initial policy) := fun _ metadata hmetadata => by cases hmetadata
  exact throughout_iff_along (fun _ _ _ h he => h.next he)
    (fun _ _ _ h hlast he => lastTerminal_step h hlast he) hfixes hlast events

end Steps

/-! ### A policy without the limit of the attempts -/

/-- A policy that was saved before the attempts were counted. -/
def unnumberedPolicy : BudgetPolicy := { currentPolicy with modelAttempts := none }

/-- Five decisions of an investigation, each with its mode and its call. -/
def fiveDecisions : List AttemptEvent :=
  [.mode "6b2:decision:1" false, .call "6b2:decision:1" "p1" (some "6b2:decision:1") [] "t1",
    .mode "6b2:decision:2" false, .call "6b2:decision:2" "p2" (some "6b2:decision:2") [] "t2",
    .mode "6b2:decision:3" false, .call "6b2:decision:3" "p3" (some "6b2:decision:3") [] "t3",
    .mode "6b2:decision:4" false, .call "6b2:decision:4" "p4" (some "6b2:decision:4") [] "t4",
    .mode "6b2:decision:5" false, .call "6b2:decision:5" "p5" (some "6b2:decision:5") [] "t5"]

/-- The fifth call may still collect, and no further call is granted after it. -/
theorem fifth_decision_not_terminal :
    ∃ s, run Investigation.next (.initial unnumberedPolicy) fiveDecisions = some s ∧
      s.budget.Spent ∧ (∃ metadata ∈ s.budget.purposes.getLast?,
        metadata.hasText "purpose" "terminal" = false) ∧
      (modelReservation "6b2:final:6" "p6" none true []).refusal s.budget =
        some "MODEL_ATTEMPT_LIMIT" := by
  have hrun : (run Investigation.next (.initial unnumberedPolicy) fiveDecisions).any fun s =>
      decide (s.budget.policy.modelAttempts.getD 5 ≤ s.budget.attempts) &&
        (s.budget.purposes.getLast?.any fun metadata =>
          !metadata.hasText "purpose" "terminal") &&
        decide ((modelReservation "6b2:final:6" "p6" none true []).refusal s.budget =
          some "MODEL_ATTEMPT_LIMIT") := by
    decide +kernel
  obtain ⟨s, hs, hfound⟩ := (Option.any_eq_true _ _).1 hrun
  simp only [Bool.and_eq_true, decide_eq_true_eq, Option.any_eq_true, Bool.not_eq_true'] at hfound
  exact ⟨s, hs, hfound.1.1, hfound.1.2, hfound.2⟩

end IncidentAgent
