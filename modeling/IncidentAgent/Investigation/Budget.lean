import IncidentAgent.Lib.Entries
import IncidentAgent.Lib.Transition
import IncidentAgent.Policy.Remediation
import Mathlib.Algebra.Order.Ring.Rat

/-!
# The budget of a run

Each run has a budget record: the totals of the seconds and the tokens that its calls have used,
and the calls themselves. A call reserves its seconds and tokens before it is made, and is settled
with what it has really taken; a call that is never settled keeps its reservation. The totals
are not recomputed: each operation of `RunBudget` corrects them.

Whatever the operations and their order, the totals are the sums over the calls
(`budget_conserved`). An operation is an edit of the saved record under the lease of the run, so
that operations follow each other; what an operation raises inside of its edit is not saved.
-/

namespace IncidentAgent

open Entries

/-! ### The record -/

/-- `policy`: what a run may use, where a limit that is absent is none. Policies that were saved
before the attempts were counted have no `model_attempts`. -/
structure BudgetPolicy where
  modelAttempts : Option Nat
  activeSeconds : Option ℚ
  extraSeconds : Option ℚ
  decisions : Option Nat
  tools : Option Nat
  totalTokens : Option ℤ
  writeReserveSeconds : ℚ
  deriving DecidableEq, Inhabited

/-- `POLICY`. -/
def currentPolicy : BudgetPolicy where
  modelAttempts := some 6
  activeSeconds := none
  extraSeconds := none
  decisions := some 5
  tools := none
  totalTokens := none
  writeReserveSeconds := 0

/-- The statuses of a call that is settled. -/
inductive CallStatus
  | completed
  | failedOrUnknown
  | usageUnavailable
  deriving DecidableEq, Inhabited

/-- What a call is settled with. -/
structure Settled where
  status : CallStatus
  elapsedSeconds : ℚ
  usage : Json
  chargedTokens : ℤ
  result : Option Json
  deriving DecidableEq, Inhabited

/-- A call. Until it is settled, its status is `started_or_interrupted`. -/
structure Call where
  kind : String
  reservedSeconds : ℚ
  extra : Bool
  reservedTokens : ℤ
  metadata : Json
  requestId : Option String
  fingerprint : Option String
  settled : Option Settled
  deriving DecidableEq, Inhabited

/-- The seconds that a call counts for: those that it took, or those that it reserved. -/
def Call.seconds (c : Call) : ℚ := c.settled.elim c.reservedSeconds (·.elapsedSeconds)

/-- The seconds of a call that are extra. -/
def Call.extraSeconds (c : Call) : ℚ := if c.extra then c.seconds else 0

/-- The tokens that a call counts for: those that it is charged, or those that it reserved. -/
def Call.tokens (c : Call) : ℤ := c.settled.elim c.reservedTokens (·.chargedTokens)

/-- The saved record of a run. -/
structure RunBudget where
  policy : BudgetPolicy
  seconds : ℚ
  extraSeconds : ℚ
  tokens : ℤ
  decisions : List String
  tools : List String
  /-- `calls`, by their tickets. -/
  calls : List (String × Call)
  /-- `requests`: the tickets of the requests that have an identifier. -/
  requests : List (String × String)
  exhausted : Option String
  deriving DecidableEq, Inhabited

/-- The record that a run starts with, under a policy. -/
def RunBudget.initial (policy : BudgetPolicy) : RunBudget :=
  ⟨policy, 0, 0, 0, [], [], [], [], none⟩

/-- `exceeds`. -/
def exceeds {α : Type} [LT α] [DecidableLT α] (value : α) (limit : Option α) : Bool :=
  limit.any fun l => decide (l < value)

/-- `sum(c["kind"] == "investigation_model" for c in calls.values())`. -/
def RunBudget.attempts (b : RunBudget) : Nat :=
  b.calls.countP fun c => c.2.kind = "investigation_model"

/-! ### Operations -/

/-- `BudgetExceeded(reason)`. -/
def budgetExceeded (reason : String) : Raised := ⟨"BudgetExceeded", none, some reason⟩

/-- The arguments of `reserve`. -/
structure Reservation where
  kind : String
  seconds : ℚ
  extra : Bool
  tokens : ℤ
  key : Option String
  metadata : Json
  requestId : Option String
  fingerprint : Option String
  decisionKey : Option String
  keepTokens : ℤ
  keepSeconds : ℚ
  deriving DecidableEq, Inhabited

/-- `decision_key and decision_key not in data["decisions"]`, the key. -/
def Reservation.newDecision (r : Reservation) (b : RunBudget) : Option String :=
  r.decisionKey.filter fun key => key ≠ "" && key ∉ b.decisions

/-- The ticket of a request that is known. -/
def Reservation.known (r : Reservation) (b : RunBudget) : Option String :=
  (r.requestId.filter (· ≠ "")).bind fun id => b.requests.lookup id

/-- Why a reservation is refused. -/
def Reservation.refusal (r : Reservation) (b : RunBudget) : Option String :=
  if (r.newDecision b).isSome && exceeds (b.decisions.length + 1) b.policy.decisions then
    some "INVESTIGATION_DECISION_LIMIT"
  else if r.kind = "investigation_model" && b.policy.modelAttempts.getD 5 ≤ b.attempts then
    some "MODEL_ATTEMPT_LIMIT"
  else if r.kind = "tool" && r.key.any (· ∈ b.tools) then some "DUPLICATE_TOOL_EVIDENCE"
  else if r.kind = "tool" && exceeds (b.tools.length + 1) b.policy.tools then
    some "TOOL_REQUEST_LIMIT"
  else if exceeds (b.seconds + r.seconds + r.keepSeconds) b.policy.activeSeconds ||
      r.extra && exceeds (b.extraSeconds + r.seconds) b.policy.extraSeconds then
    some "ACTIVE_TIME_LIMIT"
  else if exceeds (b.tokens + r.tokens + r.keepTokens) b.policy.totalTokens then
    some "MODEL_TOKEN_LIMIT"
  else none

/-- The call of a reservation. -/
def Reservation.call (r : Reservation) : Call where
  kind := r.kind
  reservedSeconds := r.seconds
  extra := r.extra
  reservedTokens := r.tokens
  metadata := r.metadata
  requestId := r.requestId.filter (· ≠ "")
  fingerprint := if present r.requestId then r.fingerprint else none
  settled := none

/-- The record after a reservation that was granted. -/
def Reservation.granted (r : Reservation) (ticket : String) (b : RunBudget) : RunBudget :=
  { b with
    seconds := b.seconds + r.seconds
    extraSeconds := b.extraSeconds + if r.extra then r.seconds else 0
    tokens := b.tokens + r.tokens
    tools := if r.kind = "tool" then b.tools ++ r.key.toList else b.tools
    decisions := b.decisions ++ (r.newDecision b).toList
    calls := b.calls ++ [(ticket, r.call)]
    requests := b.requests ++ ((r.requestId.filter (· ≠ "")).map fun id => (id, ticket)).toList }

/-- `reserve`, with the ticket that it draws: the ticket of the request, and whether it is new. -/
def reserve (r : Reservation) (ticket : String) (b : RunBudget) :
    Except Raised (String × Bool) × RunBudget :=
  if r.seconds < 0 ∨ r.tokens < 0 ∨ r.keepTokens < 0 ∨ r.keepSeconds < 0 ∨
      (r.kind = "tool" ∧ present r.key = false) then
    (.error (valueError "INVALID_BUDGET_RESERVATION"), b)
  else match r.known b with
    | some existing => match b.calls.lookup existing with
      | none => (.error ⟨"KeyError", none, none⟩, b)
      | some call =>
        if call.fingerprint ≠ r.fingerprint then (.error (valueError "REQUEST_INPUT_CHANGED"), b)
        else (.ok (existing, false), b)
    | none => match r.refusal b with
      | some reason => (.error (budgetExceeded reason), { b with exhausted := some reason })
      | none => (.ok (ticket, true), r.granted ticket b)

/-- The arguments of `settle`. -/
structure Settlement where
  ticket : String
  elapsed : ℚ
  tokens : Option ℤ
  usage : Json
  status : CallStatus
  result : Option Json
  deriving DecidableEq, Inhabited

/-- What a settlement makes of a call. -/
def Settlement.settled (s : Settlement) (call : Call) : Settled where
  status := s.status
  elapsedSeconds := max 0 s.elapsed
  usage := s.usage
  chargedTokens := s.tokens.getD call.reservedTokens
  result := s.result

/-- The record after a call was settled. -/
def Settlement.charged (s : Settlement) (call : Call) (b : RunBudget) : RunBudget :=
  let seconds := b.seconds + (max 0 s.elapsed - call.reservedSeconds)
  { b with
    seconds := seconds
    extraSeconds := b.extraSeconds +
      if call.extra then max 0 s.elapsed - call.reservedSeconds else 0
    tokens := b.tokens + s.tokens.elim 0 (· - call.reservedTokens)
    calls := update s.ticket (fun c => { c with settled := some (s.settled call) }) b.calls
    exhausted := if exceeds seconds b.policy.activeSeconds then some "ACTIVE_TIME_LIMIT"
      else b.exhausted }

/-- `settle`. -/
def settle (s : Settlement) (b : RunBudget) : Except Raised Unit × RunBudget :=
  match b.calls.lookup s.ticket with
  | none => (.error ⟨"KeyError", none, none⟩, b)
  | some call => if call.settled.isSome then (.ok (), b) else (.ok (), s.charged call b)

/-- `deny`. -/
def deny (reason : String) (b : RunBudget) : Except Raised Unit × RunBudget :=
  (.error (budgetExceeded reason), { b with exhausted := some reason })

/-- `decision`. -/
def decision (key : String) (b : RunBudget) : Except Raised Unit × RunBudget :=
  if key ∈ b.decisions then (.ok (), b)
  else if exceeds (b.decisions.length + 1) b.policy.decisions then
    deny "INVESTIGATION_DECISION_LIMIT" b
  else (.ok (), { b with decisions := b.decisions ++ [key] })

/-- `before_write`. -/
def beforeWrite (required : Option ℚ) (b : RunBudget) : Except Raised Unit × RunBudget :=
  if exceeds (b.seconds + (required.filter (· ≠ 0)).getD b.policy.writeReserveSeconds)
      b.policy.activeSeconds || exceeds b.tokens b.policy.totalTokens then
    deny "WRITE_VERIFICATION_BUDGET_NOT_RESERVED" b
  else (.ok (), b)

/-- The call of an activity. -/
def overhead : Call where
  kind := "control_overhead"
  reservedSeconds := 5
  extra := false
  reservedTokens := 0
  metadata := .obj []
  requestId := none
  fingerprint := none
  settled := none

/-- The beginning of `activity`, with the ticket that it draws. -/
def activity (ticket : String) (b : RunBudget) : RunBudget :=
  { b with
    seconds := b.seconds + 5
    calls := b.calls ++ [(ticket, overhead)] }

/-! ### Runs -/

/-- An operation, with the ticket that it draws. -/
inductive BudgetEvent
  | reserve (r : Reservation) (ticket : String)
  | settle (s : Settlement)
  | decision (key : String)
  | activity (ticket : String)
  | deny (reason : String)
  | beforeWrite (required : Option ℚ)
  deriving DecidableEq

/-- A ticket is not drawn twice. -/
def RunBudget.Fresh (b : RunBudget) (ticket : String) : Prop := ticket ∉ b.calls.map Prod.fst

instance (b : RunBudget) (ticket : String) : Decidable (b.Fresh ticket) := by
  unfold RunBudget.Fresh
  infer_instance

/-- What an operation does to the record of a run. -/
def RunBudget.next (b : RunBudget) : BudgetEvent → Option RunBudget
  | .reserve r ticket => if b.Fresh ticket then some (IncidentAgent.reserve r ticket b).2 else none
  | .settle s => some (IncidentAgent.settle s b).2
  | .decision key => some (IncidentAgent.decision key b).2
  | .activity ticket => if b.Fresh ticket then some (IncidentAgent.activity ticket b) else none
  | .deny reason => some (IncidentAgent.deny reason b).2
  | .beforeWrite required => some (IncidentAgent.beforeWrite required b).2

/-! ### Conservation -/

/-- **The record of a run accounts for its calls**, within its policy. -/
structure Accounts (policy : BudgetPolicy) (b : RunBudget) : Prop where
  samePolicy : b.policy = policy
  tickets : (b.calls.map Prod.fst).Nodup
  /-- The totals are the sums over the calls. -/
  seconds : b.seconds = total Call.seconds b.calls
  extraSeconds : b.extraSeconds = total Call.extraSeconds b.calls
  tokens : b.tokens = total Call.tokens b.calls
  /-- The limits are kept. -/
  attempts : b.attempts ≤ policy.modelAttempts.getD 5
  decisions : b.decisions.Nodup ∧ ∀ limit ∈ policy.decisions, b.decisions.length ≤ limit
  tools : b.tools.Nodup

section Steps

variable {policy : BudgetPolicy} {b b' : RunBudget} {r : Reservation} {s : Settlement}
  {ticket : String} {call : Call}

theorem exceeds_eq_false {α : Type} [LinearOrder α] {value : α} {limit : Option α} :
    exceeds value limit = false ↔ ∀ l ∈ limit, value ≤ l := by
  cases limit <;> simp [exceeds]

/-- What a reservation does: nothing but mark the record, or add its call. -/
theorem reserve_cases (r : Reservation) (ticket : String) (b : RunBudget) :
    (reserve r ticket b).2 = b ∨
      (∃ reason, reserve r ticket b =
        (.error (budgetExceeded reason), { b with exhausted := some reason })) ∨
      (r.known b = none ∧ r.refusal b = none ∧
        reserve r ticket b = (.ok (ticket, true), r.granted ticket b)) := by
  unfold reserve
  split
  · exact Or.inl rfl
  · cases r.known b with
    | some existing =>
      refine Or.inl ?_
      simp only
      cases b.calls.lookup existing with
      | none => rfl
      | some call =>
        simp only
        split <;> rfl
    | none =>
      refine Or.inr ?_
      simp only
      cases hr : r.refusal b with
      | some reason => exact Or.inl ⟨reason, rfl⟩
      | none => exact Or.inr ⟨trivial, rfl, rfl⟩

/-- What a settlement does: nothing, or charge its call. -/
theorem settle_cases (s : Settlement) (b : RunBudget) :
    (settle s b).2 = b ∨ ∃ call, b.calls.lookup s.ticket = some call ∧ call.settled = none ∧
      settle s b = (.ok (), s.charged call b) := by
  unfold settle
  cases hlookup : b.calls.lookup s.ticket with
  | none => exact Or.inl rfl
  | some call =>
    cases hsettled : call.settled with
    | some settled => exact Or.inl (by simp [hsettled])
    | none => exact Or.inr ⟨call, rfl, hsettled, by simp [hsettled]⟩

theorem calls_charged (s : Settlement) (call : Call) (b : RunBudget) : (s.charged call b).calls =
    update s.ticket (fun c => { c with settled := some (s.settled call) }) b.calls :=
  rfl

/-- What the limits allow a reservation that is not refused. -/
theorem within_of_refusal (h : r.refusal b = none) :
    ((r.newDecision b).isSome → ∀ limit ∈ b.policy.decisions, b.decisions.length + 1 ≤ limit) ∧
      (r.kind = "investigation_model" → b.attempts < b.policy.modelAttempts.getD 5) ∧
      (r.kind = "tool" → ∀ key ∈ r.key, key ∉ b.tools) := by
  unfold Reservation.refusal at h
  split at h
  · cases h
  · rename_i hdecisions
    split at h
    · cases h
    · rename_i hattempts
      split at h
      · cases h
      · rename_i htools
        refine ⟨fun hnew => ?_, fun hkind => ?_, fun hkind key hkey hmem => ?_⟩
        · rw [hnew, Bool.true_and, Bool.not_eq_true, exceeds_eq_false] at hdecisions
          exact hdecisions
        · simpa [hkind] using hattempts
        · exact htools (by simp [hkind, Option.mem_def.1 hkey, hmem])

/-- Marking the record changes nothing that is accounted for. -/
theorem Accounts.exhausted (h : Accounts policy b) (reason : Option String) :
    Accounts policy { b with exhausted := reason } :=
  ⟨h.samePolicy, h.tickets, h.seconds, h.extraSeconds, h.tokens, h.attempts, h.decisions, h.tools⟩

theorem nodup_concat {keys : List String} {key : String} (h : keys.Nodup) (hkey : key ∉ keys) :
    (keys ++ [key]).Nodup := by
  rw [List.nodup_append]
  refine ⟨h, by simp, fun a ha c hc hac => hkey ?_⟩
  rw [← (by simpa using hc : c = key), ← hac]
  exact ha

/-- The decisions with a new one. -/
theorem decisions_granted (h : Accounts policy b) (new : Option String)
    (hnew : ∀ key ∈ new, key ∉ b.decisions)
    (hlimit : new.isSome → ∀ limit ∈ b.policy.decisions, b.decisions.length + 1 ≤ limit) :
    (b.decisions ++ new.toList).Nodup ∧
      ∀ limit ∈ policy.decisions, (b.decisions ++ new.toList).length ≤ limit := by
  cases new with
  | none => simpa using h.decisions
  | some key =>
    refine ⟨nodup_concat h.decisions.1 (hnew key rfl), fun limit hl => ?_⟩
    rw [List.length_append]
    exact hlimit rfl limit (h.samePolicy ▸ hl)

/-- **A reservation that is granted is accounted for.** -/
theorem Accounts.granted (h : Accounts policy b) (hfresh : b.Fresh ticket)
    (hr : r.refusal b = none) :
    Accounts policy (r.granted ticket b) := by
  obtain ⟨hdecisions, hattempts, htools⟩ := within_of_refusal hr
  constructor
  · exact h.samePolicy
  · show ((b.calls ++ [(ticket, r.call)]).map Prod.fst).Nodup
    rw [List.map_append]
    exact nodup_concat h.tickets hfresh
  · show b.seconds + r.seconds = total _ (b.calls ++ [(ticket, r.call)])
    rw [total_append, h.seconds]
    simp [total, Call.seconds, Reservation.call]
  · show b.extraSeconds + _ = total _ (b.calls ++ [(ticket, r.call)])
    rw [total_append, h.extraSeconds]
    simp [total, Call.extraSeconds, Call.seconds, Reservation.call]
  · show b.tokens + r.tokens = total _ (b.calls ++ [(ticket, r.call)])
    rw [total_append, h.tokens]
    simp [total, Call.tokens, Reservation.call]
  · show (b.calls ++ [(ticket, r.call)]).countP _ ≤ _
    rw [List.countP_append, List.countP_singleton]
    have hcount : b.calls.countP (fun c => c.2.kind = "investigation_model") = b.attempts := rfl
    rw [hcount]
    by_cases hkind : r.kind = "investigation_model"
    · have hlt := hattempts hkind
      rw [h.samePolicy] at hlt
      rw [if_pos (by simpa [Reservation.call] using hkind)]
      omega
    · rw [if_neg (by simpa [Reservation.call] using hkind)]
      exact h.attempts
  · refine decisions_granted h _ (fun key hnew => ?_) hdecisions
    have hmem := (Option.filter_eq_some_iff.1 hnew).2
    simp only [Bool.and_eq_true, decide_eq_true_eq] at hmem
    exact hmem.2
  · show (if r.kind = "tool" then b.tools ++ r.key.toList else b.tools).Nodup
    split
    · rename_i hkind
      cases hk : r.key with
      | none => simpa using h.tools
      | some key => exact nodup_concat h.tools (htools hkind key hk)
    · exact h.tools

/-- **A settlement corrects the totals by what it changes.** -/
theorem Accounts.charged (h : Accounts policy b) (hcall : b.calls.lookup s.ticket = some call)
    (hopen : call.settled = none) : Accounts policy (s.charged call b) := by
  have hseconds : ∀ f : Call → ℚ, total f (s.charged call b).calls = total f b.calls +
      (f { call with settled := some (s.settled call) } - f call) := fun f =>
    total_update f (fun c => { c with settled := some (s.settled call) }) h.tickets hcall
  have htokens : ∀ f : Call → ℤ, total f (s.charged call b).calls = total f b.calls +
      (f { call with settled := some (s.settled call) } - f call) := fun f =>
    total_update f (fun c => { c with settled := some (s.settled call) }) h.tickets hcall
  constructor
  · exact h.samePolicy
  · rw [calls_charged, keys_update]
    exact h.tickets
  · rw [hseconds]
    show b.seconds + _ = _
    rw [h.seconds]
    simp [Call.seconds, hopen, Settlement.settled]
  · rw [hseconds]
    show b.extraSeconds + _ = _
    rw [h.extraSeconds]
    cases hextra : call.extra <;>
      simp [Call.extraSeconds, Call.seconds, hextra, hopen, Settlement.settled]
  · rw [htokens]
    show b.tokens + _ = _
    rw [h.tokens]
    cases ht : s.tokens <;> simp [Call.tokens, ht, hopen, Settlement.settled]
  · refine le_trans (le_of_eq ?_) h.attempts
    rw [RunBudget.attempts, calls_charged, update, List.countP_map]
    refine List.countP_congr fun c _ => ?_
    rw [Function.comp_apply]
    split <;> rfl
  · exact h.decisions
  · exact h.tools

theorem Accounts.decision (h : Accounts policy b) (key : String) :
    Accounts policy (IncidentAgent.decision key b).2 := by
  unfold IncidentAgent.decision
  split
  · exact h
  · split
    · exact h.exhausted _
    · rename_i hnew hlimit
      rw [Bool.not_eq_true, exceeds_eq_false] at hlimit
      have hd := decisions_granted h (some key) (by simpa using hnew) fun _ => hlimit
      exact ⟨h.samePolicy, h.tickets, h.seconds, h.extraSeconds, h.tokens, h.attempts, hd, h.tools⟩

theorem Accounts.activity (h : Accounts policy b) (hfresh : b.Fresh ticket) :
    Accounts policy (IncidentAgent.activity ticket b) := by
  constructor
  · exact h.samePolicy
  · show ((b.calls ++ [(ticket, overhead)]).map Prod.fst).Nodup
    rw [List.map_append]
    exact nodup_concat h.tickets hfresh
  · show b.seconds + 5 = total _ (b.calls ++ [(ticket, overhead)])
    rw [total_append, h.seconds]
    simp [total, Call.seconds, overhead]
  · show b.extraSeconds = total _ (b.calls ++ [(ticket, overhead)])
    rw [total_append, h.extraSeconds]
    simp [total, Call.extraSeconds, overhead]
  · show b.tokens = total _ (b.calls ++ [(ticket, overhead)])
    rw [total_append, h.tokens]
    simp [total, Call.tokens, overhead]
  · show (b.calls ++ [(ticket, overhead)]).countP _ ≤ _
    rw [List.countP_append, List.countP_singleton, if_neg (by simp [overhead])]
    exact h.attempts
  · exact h.decisions
  · exact h.tools

theorem Accounts.denied (h : Accounts policy b) (reason : String) :
    Accounts policy (deny reason b).2 :=
  h.exhausted (some reason)

/-- **Each operation keeps the accounts.** -/
theorem Accounts.next (h : Accounts policy b) {e : BudgetEvent} (he : b.next e = some b') :
    Accounts policy b' := by
  cases e with
  | reserve r ticket =>
    simp only [RunBudget.next, Option.ite_none_right_eq_some, Option.some.injEq] at he
    obtain ⟨hfresh, rfl⟩ := he
    rcases reserve_cases r ticket b with hsame | ⟨reason, hrefused⟩ | ⟨-, hr, hgranted⟩
    · rw [hsame]
      exact h
    · rw [hrefused]
      exact h.exhausted _
    · rw [hgranted]
      exact h.granted hfresh hr
  | settle s =>
    obtain rfl := Option.some.inj he
    rcases settle_cases s b with hsame | ⟨call, hcall, hopen, hcharged⟩
    · rw [hsame]
      exact h
    · rw [hcharged]
      exact h.charged hcall hopen
  | decision key =>
    obtain rfl := Option.some.inj he
    exact h.decision key
  | activity ticket =>
    simp only [RunBudget.next, Option.ite_none_right_eq_some, Option.some.injEq] at he
    obtain ⟨hfresh, rfl⟩ := he
    exact h.activity hfresh
  | deny reason =>
    obtain rfl := Option.some.inj he
    exact h.denied reason
  | beforeWrite required =>
    obtain rfl := Option.some.inj he
    unfold beforeWrite
    split
    · exact h.denied _
    · exact h

theorem Accounts.initial (policy : BudgetPolicy) : Accounts policy (RunBudget.initial policy) :=
  ⟨rfl, List.nodup_nil, rfl, rfl, rfl, Nat.zero_le _, ⟨List.nodup_nil, fun _ _ => Nat.zero_le _⟩,
    List.nodup_nil⟩

theorem Reachable.accounts (h : Transition.Reachable RunBudget.next (.initial policy) b) :
    Accounts policy b :=
  h.invariant (Accounts.initial policy) fun _ _ _ h he => h.next he

end Steps

/-- **A conserved record**: it accounts for its calls, no call is charged twice, and what is
refused leaves a mark at most. -/
structure Conserved (policy : BudgetPolicy) (b : RunBudget) : Prop extends Accounts policy b where
  /-- A call that has been settled is not settled again. -/
  resettled : ∀ first again : Settlement, again.ticket = first.ticket →
    (settle first b).1 = .ok () → settle again (settle first b).2 = (.ok (), (settle first b).2)
  /-- A reservation that is refused changes nothing but `exhausted`. -/
  refused : ∀ r ticket e, (reserve r ticket b).1 = .error e →
    ∃ exhausted, (reserve r ticket b).2 = { b with exhausted := exhausted }

/-- **The budget of a run is conserved**, for every policy and every sequence of operations. -/
theorem budget_conserved {policy : BudgetPolicy} {b : RunBudget}
    (h : Transition.Reachable RunBudget.next (.initial policy) b) : Conserved policy b where
  toAccounts := Reachable.accounts h
  resettled first again hticket hok := by
    -- Whichever way the first settlement went, its call is settled after it.
    obtain ⟨call, hcall, hsettled⟩ : ∃ call : Call,
        (settle first b).2.calls.lookup first.ticket = some call ∧ call.settled.isSome := by
      unfold settle at hok ⊢
      cases hlookup : b.calls.lookup first.ticket with
      | none => simp [hlookup] at hok
      | some call =>
        simp only
        split
        · exact ⟨call, hlookup, by assumption⟩
        · refine ⟨{ call with settled := some (first.settled call) }, ?_, rfl⟩
          show (first.charged call b).calls.lookup first.ticket = _
          rw [calls_charged, lookup_update, if_pos rfl, hlookup]
          rfl
    rw [settle, hticket, hcall]
    exact if_pos hsettled
  refused r ticket e he := by
    rcases reserve_cases r ticket b with hsame | ⟨reason, hrefused⟩ | ⟨-, -, hgranted⟩
    · exact ⟨b.exhausted, hsame⟩
    · exact ⟨some reason, by rw [hrefused]⟩
    · rw [hgranted] at he
      cases he

/-- A call of a model that reserves a minute. -/
def modelCall (requestId : String) : Reservation where
  kind := "investigation_model"
  seconds := 60
  extra := false
  tokens := 14000
  key := none
  metadata := .obj []
  requestId := some requestId
  fingerprint := some "prompt"
  decisionKey := some requestId
  keepTokens := 0
  keepSeconds := 0

/-- Two calls that overlap, of which the second is settled and the first is lost. -/
def overlappingCalls : List BudgetEvent :=
  [.activity "a", .reserve (modelCall "6b2:decision:1") "b", .reserve (modelCall "6b2:decision:2") "c",
    .settle ⟨"c", 3 / 2, some 900, .null, .completed, none⟩,
    .settle ⟨"c", 7, none, .null, .completed, none⟩, .beforeWrite none]

theorem budget_conserved_overlapping :
    ∃ b, Transition.Reachable RunBudget.next (.initial currentPolicy) b ∧
      (b.seconds = 133 / 2 ∧ b.tokens = 14900 ∧ b.attempts = 2) ∧ Conserved currentPolicy b := by
  obtain ⟨b, -, hb, hfound⟩ := Transition.exists_reachable RunBudget.next (.initial currentPolicy)
    [fun _ => overlappingCalls]
    (fun b => b.seconds = 133 / 2 ∧ b.tokens = 14900 ∧ b.attempts = 2) (by decide +kernel)
  exact ⟨b, hb, hfound, budget_conserved hb⟩

end IncidentAgent
