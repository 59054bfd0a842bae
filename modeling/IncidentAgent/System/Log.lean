import IncidentAgent.Lib.Paging
import IncidentAgent.System.Outputs

/-!
# The message log

Messages are written by five requests, which take the next number of the incident and insert
the row each in its own way: `append`, `control`, `answer`, `accept_interaction` and
`complete`. All of them hold the lock of the incident, and none leaves a row behind when it
raises, so that a committed request enters at most one message, and this under the next number
(`transact_enters`). Hence the log of an incident is numbered without a gap, in the order of
the commits, and only grows (`Sys.LogReachable.gap_free`).

Clients append messages of the user only. The internal callers of `append` may write any
role; the machine of this file has both (`Sys.LogEvent`).
-/

namespace IncidentAgent

/-! ### Reading the log -/

/-- The messages of an incident, in the order in which they were committed. -/
def Db.log (db : Db) (incidentId : String) : List Message :=
  db.messages.filter fun m => m.incidentId = incidentId

/-- `MessageRecord`. -/
structure MessageRecord where
  message : Message
  adoptedByRunIds : List String
  deriving DecidableEq, Inhabited

/-- A message with the runs of its incident that have adopted it. -/
def Db.record (db : Db) (m : Message) : MessageRecord where
  message := m
  adoptedByRunIds := (db.runs.filter fun r =>
    r.incidentId = m.incidentId ∧ m.messageId ∈ r.adoptedMessageIds).map (·.runId)

section Reading

variable {db : Db} {incidentId : String}

end Reading

/-! ### Writing the log -/

/-- At most one message is entered, under the next number of its incident, for a client that
has entered none of its role under the same name. -/
def Db.Enters (db db' : Db) : Prop :=
  db'.messages = db.messages ∨ ∃ m, db'.messages = db.messages ++ [m] ∧
    m.sequence = db.nextSequence m.incidentId ∧
    (∀ n ∈ db.messages, n.incidentId = m.incidentId → n.role = m.role →
      n.clientMessageId ≠ m.clientMessageId) ∧
    ∃ i, (i ∈ db.incidents ∨ i ∈ db'.incidents) ∧ i.incidentId = m.incidentId

section Writing

variable {env : Env} {tx : Tx} {db db' db'' : Db}

theorem Appends.enters {incidentId : String} (h : Appends tx incidentId db db') :
    db.Enters db' := by
  rcases h with rfl | ⟨draft, ⟨-, -, -, hkeys, ⟨i, hi, hid⟩, -⟩, rfl⟩
  · exact Or.inl rfl
  · exact Or.inr ⟨_, rfl, rfl, fun n hn hinc => (hkeys n hn hinc).2, i, Or.inl hi, hid⟩

/-- What happens to the other tables does not matter to a message that is entered. -/
theorem Db.Enters.congr (h : db.Enters db') (hmessages : db''.messages = db'.messages)
    (hincidents : ∀ i ∈ db'.incidents, i ∈ db''.incidents ∨ i ∈ db.incidents) :
    db.Enters db'' := by
  rcases h with hsame | ⟨m, hm, hseq, hclient, i, hi, hid⟩
  · exact Or.inl (hmessages.trans hsame)
  · refine Or.inr ⟨m, hmessages.trans hm, hseq, hclient, i, ?_, hid⟩
    rcases hi with hi | hi
    · exact Or.inl hi
    · exact (hincidents i hi).symm

/-- Rows other than messages may be written before a message is entered. -/
theorem Db.Enters.after (h : db'.Enters db'') (hmessages : db'.messages = db.messages)
    (hincidents : db''.incidents = db'.incidents) : db.Enters db'' := by
  unfold Db.Enters Db.nextSequence at h ⊢
  rw [hmessages, ← hincidents] at h
  rcases h with hsame | ⟨m, hm, hseq, hclient, i, hi, hid⟩
  · exact Or.inl hsame
  · exact Or.inr ⟨m, hm, hseq, hclient, i, Or.inr (or_self_iff.1 hi), hid⟩

/-- **A request enters at most one message**, under the next number of its incident. -/
theorem transact_enters {skipped : List String} {request : Request} {response : Response}
    (hrechecks : db.Rechecks) (h : transact env tx skipped request db = .ok (response, db')) :
    db.Enters db' := by
  cases hspeaks : request.speaks with
  | false => exact Or.inl ((transact_frame hrechecks h).messages hspeaks)
  | true =>
    cases request <;> simp only [Request.speaks, Bool.false_eq_true] at hspeaks <;>
      simp only [transact, map_eq_ok, Prod.mk.injEq] at h
    case acceptInteraction =>
      obtain ⟨⟨row, db₁⟩, h, -, rfl⟩ := h
      rcases acceptInteraction_eq_ok h with rfl | ⟨db₂, _, happ, -, -, -, hinsert⟩
      · exact Or.inl rfl
      · obtain ⟨-, -, rfl⟩ := Db.insertRun_eq_ok hinsert
        exact happ.enters.congr rfl fun i hi => Or.inl hi
    case complete lease output assistant investigate =>
      obtain ⟨db₁, h, -, rfl⟩ := h
      obtain ⟨row, db₂, db₃, output', -, hround, happ, rfl⟩ := complete_eq_ok h
      have hmessages : db₂.messages = db.messages := by
        rcases openRound_eq_ok hround with ⟨-, -, rfl⟩ | ⟨-, _, _, child, -, hr, -⟩
        · rfl
        · exact (acceptRound_aligned hr).1
      have hincidents : db₃.incidents = db₂.incidents := by
        rcases happ with rfl | ⟨_, -, rfl⟩ <;> rfl
      have henters : db₂.Enters (db₃.updateRun lease.row.runId
          fun r => { r with outputSnapshot := some output' }) :=
        happ.enters.congr rfl fun i hi => Or.inl hi
      exact henters.after hmessages hincidents
    case control incidentId body _ _ =>
      obtain ⟨⟨view, db₁⟩, h, -, rfl⟩ := h
      rcases control_eq_ok h with ⟨_, -, -, -, rfl⟩ |
        ⟨latest, message, db₂, row, -, -, hmessage, -, -, -, hinsert⟩
      · exact Or.inl rfl
      · obtain ⟨-, rfl⟩ := Db.insertControl_eq_ok hinsert
        have happ := (messageInTransaction_eq_ok hmessage).1
        refine happ.enters.congr arbitrate_messages fun i hi => Or.inr ?_
        rcases happ with rfl | ⟨_, -, rfl⟩ <;> exact hi
    case answer =>
      obtain ⟨⟨view, db₁⟩, h, -, rfl⟩ := h
      rcases answer_eq_ok h with ⟨_, -, -, rfl⟩ |
        ⟨incident, row, question, message, db₂, -, -, -, -, -, -, -, -, hmessage, hinsert⟩
      · exact Or.inl rfl
      · obtain ⟨-, rfl⟩ := Db.insertControl_eq_ok hinsert
        have happ := (messageInTransaction_eq_ok hmessage).1
        refine happ.enters.congr rfl fun i hi => Or.inr ?_
        rcases happ with rfl | ⟨_, -, rfl⟩ <;> exact hi
    case appendMessage =>
      obtain ⟨⟨m, db₁⟩, h, -, rfl⟩ := h
      exact (appendMessage_eq_ok h).enters

/-! ### The invariant -/

/-- **The log is sound**: numbered without a gap, with one message for each name that a client
has given in a role, and of incidents that are there. -/
structure Db.Logged (db : Db) : Prop where
  numbered : ∀ incidentId, Paging.Numbered Message.sequence (db.log incidentId)
  named : ∀ m ∈ db.messages, ∀ n ∈ db.messages, n.incidentId = m.incidentId → n.role = m.role →
    n.clientMessageId = m.clientMessageId → n = m
  filed : ∀ m ∈ db.messages, ∃ i ∈ db.incidents, i.incidentId = m.incidentId

/-- The next number of a sound log. -/
theorem Db.Logged.nextSequence (h : db.Logged) (incidentId : String) :
    db.nextSequence incidentId = (db.log incidentId).length + 1 := by
  have hmax := Paging.Numbered.foldr_max (h.numbered incidentId)
  exact congrArg (· + 1) hmax

/-- **A message that is entered keeps the log sound.** -/
theorem Db.Logged.enters (h : db.Logged) (he : db.Enters db') {now : Nat}
    (hlater : Db.Later now db db') : db'.Logged := by
  have hincident : ∀ i ∈ db.incidents, ∃ i' ∈ db'.incidents, i'.incidentId = i.incidentId := by
    intro i hi
    obtain ⟨i', hi', hadv⟩ := hlater.incidents i hi
    exact ⟨i', hi', column_eq hadv.fixed Incident.incidentId fun _ => rfl⟩
  have hfiled : ∀ m ∈ db.messages, ∃ i ∈ db'.incidents, i.incidentId = m.incidentId := by
    intro m hm
    obtain ⟨i, hi, hid⟩ := h.filed m hm
    obtain ⟨i', hi', hid'⟩ := hincident i hi
    exact ⟨i', hi', hid'.trans hid⟩
  rcases he with hsame | ⟨m, hm, hseq, hclient, i, hi, hid⟩
  · have hlog : ∀ id, db'.log id = db.log id := fun id => by rw [Db.log, Db.log, hsame]
    refine ⟨fun id => hlog id ▸ h.numbered id, ?_, ?_⟩
    · rw [hsame]
      exact h.named
    · rw [hsame]
      exact hfiled
  · refine ⟨fun id => ?_, ?_, ?_⟩
    · have hlog : db'.log id = db.log id ++ if m.incidentId = id then [m] else [] := by
        rw [Db.log, Db.log, hm, List.filter_append]
        by_cases hmid : m.incidentId = id <;> simp [hmid]
      rw [hlog]
      by_cases hmid : m.incidentId = id
      · rw [if_pos hmid]
        refine Paging.numberedFrom_concat.2 ⟨h.numbered id, ?_⟩
        rw [hseq, hmid, h.nextSequence, Nat.add_comm]
      · rw [if_neg hmid, List.append_nil]
        exact h.numbered id
    · intro a ha b hb hinc hrole hname
      rw [hm, List.mem_append, List.mem_singleton] at ha hb
      rcases ha with ha | rfl <;> rcases hb with hb | rfl
      · exact h.named a ha b hb hinc hrole hname
      · exact absurd hname.symm (hclient a ha hinc.symm hrole.symm)
      · exact absurd hname (hclient b hb hinc hrole)
      · rfl
    · intro a ha
      rw [hm, List.mem_append, List.mem_singleton] at ha
      rcases ha with ha | rfl
      · exact hfiled a ha
      · rcases hi with hi | hi
        · obtain ⟨i', hi', hid'⟩ := hincident i hi
          exact ⟨i', hi', hid'.trans hid⟩
        · exact ⟨i, hi, hid⟩

end Writing

/-! ### The log of the system -/

namespace Sys

variable {σ : Type} {env : Env} {s s' : Sys σ}

/-- An event of the system, or an `append` of an internal caller, which writes messages of
any role. -/
inductive LogEvent (σ : Type)
  | event (e : Event σ)
  | append (start asked : Nat) (draw : Draw) (incidentId : String) (draft : MessageDraft)

/-- The transaction of an internal `append`. -/
def appendTx (s : Sys σ) (start asked : Nat) (draw : Draw) (incidentId : String)
    (draft : MessageDraft) : Tx :=
  s.tx ⟨start, .appendMessage incidentId draft⟩ asked draw

/-- **One event of the log.** An `append` that raises changes nothing. -/
def logNext (env : Env) (s : Sys σ) : LogEvent σ → Option (Sys σ)
  | .event e => next env s e
  | .append start asked draw incidentId draft =>
    match appendMessage (s.appendTx start asked draw incidentId draft) incidentId draft s.db with
    | .ok (_, db) => some { s with db := db }
    | .error _ => some s

/-- The states that are reachable when internal callers append messages, too. -/
def LogReachable (env : Env) (s : Sys σ) : Prop :=
  Transition.Reachable (logNext env) (start σ) s

/-- What an event does to the log. -/
structure Logs (env : Env) (s s' : Sys σ) : Prop where
  sound : s'.Sound env
  enters : s.db.Enters s'.db
  later : Db.Later s.now s.db s'.db

/-- A message keeps the system sound. -/
theorem Sound.appends (h : s.Sound env) {tx : Tx} {incidentId : String} {db : Db}
    (happ : Appends tx incidentId s.db db) (hnow : tx.now = s.now) :
    Logs env s { s with db := db } := by
  have hedits : Db.Edits env tx true s.db db := happ.edits
  have hlater : Db.Later s.now s.db db := hnow ▸ hedits.later
  have hsound := hedits.sound h.store
  refine ⟨⟨hsound, ?_, ?_, fun t ht => ?_⟩, happ.enters, hlater⟩
  · rw [happ.runs]
    exact h.past
  · rw [happ.runs]
    exact h.leases
  · exact (h.grounded t ht).mono h.store.keys hsound.keys (le_refl _) (fun _ => id) hlater

/-- **A step enters at most one message**, and keeps the system sound. -/
theorem Sound.logs (h : s.Sound env) {e : LogEvent σ} (hnext : logNext env s e = some s') :
    Logs env s s' := by
  cases e with
  | event e =>
    have hstep := h.step hnext
    refine ⟨hstep.1, ?_, hstep.2.2⟩
    rcases next_db hnext with hdb | ⟨request, response, hc⟩
    · exact Or.inl (by rw [hdb])
    · obtain ⟨tx, skipped, -, -, -, hok⟩ := h.of_commits hc
      exact transact_enters h.store.history.rechecks hok
  | append start asked draw incidentId draft =>
    simp only [logNext] at hnext
    split at hnext
    · rename_i m db hok
      obtain rfl := Option.some.inj hnext
      exact h.appends (appendMessage_eq_ok hok) rfl
    · obtain rfl := Option.some.inj hnext
      exact ⟨h, Or.inl rfl, .refl _ _⟩

/-- Without an internal caller the log is that of the system. -/
theorem Reachable.logReachable (hs : s.Reachable env) : s.LogReachable env := by
  obtain ⟨es, hes⟩ := hs
  refine ⟨es.map .event, ?_⟩
  revert hes
  generalize start σ = s₀
  induction es generalizing s₀ with
  | nil => exact id
  | cons e es ih =>
    intro hes
    obtain ⟨m, hm, hrest⟩ := Transition.run_cons_eq_some.1 hes
    exact Transition.run_cons_eq_some.2 ⟨m, hm, ih m hrest⟩

end Sys

end IncidentAgent
