import IncidentAgent.System.Frozen

/-!
# Starting what was asked for

A control to investigate that comes while a write is under way waits, and the workers poll:
once the diagnosis it stands on has ended and nothing is unresolved, they start its round by
a nested call of `accept_round`. Whether that call accepts is decided by two functions that
check different things. What the poll has checked takes care of all the refusals of
`accept_round` but one (`Db.Sound.started`): a round is refused as long as the saved state of
the last diagnosis still waits for an approval, unless the diagnosis was withdrawn. A worker
that gives up after the decision of the human, before the graph has consumed it, leaves such
a state behind, and every later poll raises (`Sys.not_started`).

`Sys.Reachable.started_iff` is the exact condition.
-/

namespace IncidentAgent

/-- **What a poll has found** when it starts a control: the control is pending, and passes the
checks of `activate_pending` against the latest diagnosis of its incident. -/
structure Control.Starts (c : Control) (db : Db) (latest : Run) : Prop where
  recorded : c ∈ db.controls
  pending : c.status = .pending
  last : db.latest c.incidentId = some latest
  startable : startable db c latest

/-- The diagnosis was withdrawn by a human, or what is saved of it waits for no approval. -/
def Control.Unhindered (c : Control) (latest : Run) : Prop :=
  (latest.status = .cancelled ∧ latest.invalidatedAt.isSome) ∨
    awaitsApproval (previousState latest c) = false

/-- The identifiers drawn by `uuid4()` for the child are nobody's. -/
def Tx.Unused (tx : Tx) (db : Db) : Prop :=
  ∀ r ∈ db.runs, r.runId ≠ tx.runId ∧ r.threadId ≠ tx.threadId

section Store

variable {env : Env} {tx : Tx} {db : Db} {c : Control} {latest : Run}

/-- **A pending control has a message to answer**: the last message of the user came after the
one that the latest diagnosis is for, and no diagnosis is for it. -/
theorem Db.Sound.unanswered (hs : db.Sound env) (h : c.Starts db latest) :
    ∃ message, db.lastUserMessage c.incidentId = some message ∧ message ∈ db.messages ∧
      message.incidentId = c.incidentId ∧ message.role = .user ∧
      latest.inputMessageSequence.getD 0 < message.sequence ∧
      ∀ r ∈ db.runs, r.sourceMessageId ≠ some message.messageId := by
  obtain ⟨-, p, hp, hid, -, -, asked, hasked, hinc, hrole, hlater⟩ :=
    hs.standing.stands c h.recorded h.pending
  have hmem := (Db.mem_lane.1 (Db.mem_lane_of_latest h.last)).1
  obtain rfl := hs.keys.runs.eq_of_key hp hmem (hid.trans h.startable.1.symm)
  cases hlast : db.lastUserMessage c.incidentId with
  | none =>
    have hnone := Table.latestBy_eq_none.1 hlast asked hasked
    simp [hinc, hrole] at hnone
  | some message =>
    obtain ⟨hmessage, hof, hmax⟩ := Table.latestBy_spec hlast
    simp only [decide_eq_true_eq] at hof
    have hseq : p.inputMessageSequence.getD 0 < message.sequence :=
      lt_of_lt_of_le hlater (hmax asked hasked (by simp [hinc, hrole]))
    refine ⟨message, rfl, hmessage, hof.1, hof.2, hseq, fun r hr hsource => ?_⟩
    -- A diagnosis for that message would be a later one than the latest.
    obtain ⟨hkind, m, hm, hmid, hminc, -, hrseq⟩ := hs.history.sources r hr _ hsource
    obtain rfl := hs.keys.messages.eq_of_key hm hmessage hmid
    have hle := (hs.history.le_latest h.last (Db.mem_lane.2 ⟨hr, hminc.symm.trans hof.1, hkind⟩)).2
    rw [hrseq, Option.getD_some] at hle
    omega

/-- The child of a control may be inserted. -/
theorem Db.Sound.insertable (hs : db.Sound env) (h : c.Starts db latest) (hunused : tx.Unused db)
    {incident : Incident} (hincident : db.incident? c.incidentId = some incident)
    {message : Message} (hmessage : message ∈ db.messages)
    (hsource : ∀ r ∈ db.runs, r.sourceMessageId ≠ some message.messageId)
    (digest : String) (context : Json) :
    ∃ db', db.insertRun (Run.round env tx incident (some latest) message
      ("control-" ++ c.controlId) digest context) = .ok db' := by
  obtain ⟨hi, hiid⟩ := Db.mem_of_incident? hincident
  obtain ⟨hmem, hinc, hkind⟩ := Db.mem_lane.1 (Db.mem_lane_of_latest h.last)
  have hkey := hs.standing.unnamed hs.history h.recorded h.pending h.last h.startable.1
  have hidle : ¬ db.activeDiagnosis c.incidentId := hs.history.not_activeDiagnosis fun r hr => by
    obtain rfl := Option.some.inj (h.last.symm.trans hr)
    simp [Run.active, h.startable.2.1]
  simp only [Db.insertRun, bind_eq_ok, raiseIf_eq_ok, pure_eq_ok, not_not]
  refine ⟨_, ⟨⟩, ?_, ⟨⟩, ⟨hunused, ?_, ?_, ⟨incident, hi, rfl⟩, ?_, ?_⟩, rfl⟩
  · rintro ⟨k, hk, r, hr, he⟩
    obtain rfl := Option.some.inj hk
    exact hkey r hr (he.trans (by rw [Control.key, hiid]))
  · intro m hm
    obtain rfl := Option.some.inj hm
    exact hsource
  · exact fun _ r hr hrinc hrkind hactive => hidle ⟨r, hr, hrinc.trans hiid, hrkind, hactive⟩
  · intro p hp
    obtain rfl := Option.some.inj hp
    exact ⟨latest, hmem, rfl⟩
  · intro m hm
    obtain rfl := Option.some.inj hm
    exact ⟨message, hmessage, rfl⟩

/-- What `accept_round` asks of the last diagnosis and its saved state: for a control that a
poll starts, only the saved state is still open. -/
theorem Control.Starts.available (h : c.Starts db latest) :
    (c.Unhindered latest →
      roundAvailable db c.incidentId (some latest) (previousState latest c) = .ok ⟨⟩) ∧
    (¬ c.Unhindered latest →
      roundAvailable db c.incidentId (some latest) (previousState latest c) =
        .error .roundConflict) := by
  obtain ⟨-, hended, hresolved, hfree⟩ := h.startable
  constructor
  · intro hopen
    simp only [roundAvailable, bind_eq_ok, raiseIf_eq_ok]
    refine ⟨⟨⟩, hfree, ⟨⟩, ?_, ⟨⟩, by simp, ⟨⟩, by simp, hresolved⟩
    rcases hopen with hwithdrawn | hsettled
    · simp [Run.active, hwithdrawn, RunStatus.terminal]
    · simp [Run.active, hended, hsettled]
  · intro hwaits
    have hwaits' : ¬ (latest.status = .cancelled ∧ latest.invalidatedAt.isSome) ∧
        awaitsApproval (previousState latest c) = true := by
      simpa [Control.Unhindered, not_or] using hwaits
    have hwaiting : Option.any Run.active (some latest) = true ∨
        Option.any (fun r => decide (r.status = .cancelled ∧ r.invalidatedAt.isSome)) (some latest) =
          false ∧ awaitsApproval (previousState latest c) = true :=
      Or.inr ⟨by simpa using hwaits'.1, hwaits'.2⟩
    rw [roundAvailable, raiseIf_of_not hfree, ok_bind]
    simp only [raiseIf_of hwaiting, error_bind]

/-- **The nested call comes down to the saved state**: the round of a control that a poll
starts is accepted, or refused for the approval that the saved state waits for. -/
theorem Db.Sound.started (hs : db.Sound env) (h : c.Starts db latest) (hunused : tx.Unused db)
    (hkey : keyPattern ("control-" ++ c.controlId) = true) :
    (c.Unhindered latest → ∃ child db', acceptForControl env tx c latest db = .ok (child, db')) ∧
      (¬ c.Unhindered latest → acceptForControl env tx c latest db = .error .roundConflict) := by
  obtain ⟨message, hlast, hmessage, hinc, hrole, hseq, hsource⟩ := hs.unanswered h
  obtain ⟨hmem, hlinc, -⟩ := Db.mem_lane.1 (Db.mem_lane_of_latest h.last)
  obtain ⟨incident, hi, hiid⟩ := hs.history.homes latest hmem
  have hincident : db.incident? c.incidentId = some incident := by
    rw [← hlinc, ← hiid]
    exact hs.keys.incident?_eq hi
  have hnone : db.runByKey? (roundScope c.incidentId) ("control-" ++ c.controlId) = none := by
    refine List.find?_eq_none.2 fun r hr => ?_
    have hunnamed := hs.standing.unnamed hs.history h.recorded h.pending h.last h.startable.1 r hr
    simpa [Control.key] using hunnamed
  have hfound : db.messages.find? (fun m => m.incidentId = c.incidentId ∧
      m.messageId = message.messageId ∧ m.role = .user) = some message := by
    cases hfind : db.messages.find? (fun m => m.incidentId = c.incidentId ∧
        m.messageId = message.messageId ∧ m.role = .user) with
    | none =>
      have hno := List.find?_eq_none.1 hfind message hmessage
      simp [hinc, hrole] at hno
    | some other =>
      have hother := List.find?_some hfind
      simp only [decide_eq_true_eq] at hother
      rw [hs.keys.messages.eq_of_key (List.mem_of_find?_eq_some hfind) hmessage hother.2.1]
  have hvalid : validateKey (some ("control-" ++ c.controlId)) = .ok ⟨⟩ := by
    simp [validateKey, hkey]
  have hnewer : ¬ Option.any (fun r => decide (message.sequence ≤ r.inputMessageSequence.getD 0))
      (some latest) = true := by simpa using hseq
  have hunused' : ¬ ∃ r ∈ db.runs, r.sourceMessageId = some message.messageId := by
    rintro ⟨r, hr, he⟩
    exact hsource r hr he
  obtain ⟨haccepts, hrefuses⟩ := h.available
  simp only [acceptForControl, hlast, rowOr, ok_bind, acceptRound, hvalid, hincident, hnone, h.last,
    Option.map_some, raiseIf_of_not (not_not.2 rfl : ¬ some latest.runId ≠ some latest.runId)]
  constructor
  · intro hopen
    have hinsert := hs.insertable h hunused hincident hmessage hsource
    simp only [haccepts hopen, ok_bind, hfound, raiseIf_of_not hnewer, raiseIf_of_not hunused',
      insertRound, bind_eq_ok, pure_eq_ok, Prod.mk.injEq]
    exact Exists.elim (hinsert _ _) fun db₁ hdb => ⟨_, _, _, ⟨db₁, hdb, rfl⟩, rfl, rfl⟩
  · intro hwaits
    simp only [hrefuses hwaits, error_bind]

end Store

/-! ### Runs of the system -/

namespace Sys

variable {σ : Type} {env : Env} {s : Sys σ}

/-- **When `accept_round` accepts what `activate_pending` starts**, in every reachable state:
exactly when the last diagnosis was withdrawn, or what is saved of it waits for no approval.
Otherwise it raises `RoundConflict`. -/
theorem Reachable.started_iff (h : Reachable env s) {c : Control} {latest : Run}
    (hstarts : c.Starts s.db latest) (hkey : keyPattern ("control-" ++ c.controlId) = true)
    {tx : Tx} (hunused : tx.Unused s.db) :
    ((∃ child db', acceptForControl env tx c latest s.db = .ok (child, db')) ↔
      c.Unhindered latest) ∧
    (acceptForControl env tx c latest s.db = .error .roundConflict ↔ ¬ c.Unhindered latest) := by
  obtain ⟨haccepts, hrefuses⟩ := h.sound.store.started hstarts hunused hkey
  refine ⟨⟨?_, haccepts⟩, ⟨?_, hrefuses⟩⟩
  · rintro ⟨child, db', hok⟩
    by_contra hwaits
    rw [hrefuses hwaits] at hok
    cases hok
  · intro herror hopen
    obtain ⟨child, db', hok⟩ := haccepts hopen
    rw [hok] at herror
    cases herror

/-- A human asks for another diagnosis; the diagnosis is read in some phase. -/
def investigates (phase : String) : Request :=
  .control "incident" ⟨"client-1", "Look again.", .investigate⟩ (some "run-1")
    (.obj [("phase", .str phase)])

/-- The control that was recorded last, the latest diagnosis, and the poll of a worker. -/
def recorded (s : Sys σ) : Control := s.db.controls.getLast?.getD default

def latest (s : Sys σ) : Run := (s.db.latest "incident").getD default

def poll (s : Sys σ) : Tx :=
  s.tx ⟨s.now, .assertOwned s.lease⟩ s.now ⟨"run-2", "thread-2", "", "", ""⟩

/-- What a poll has to find is decided row by row. -/
instance (s : Sys σ) : Decidable (s.recorded.Starts s.db s.latest ∧ s.poll.Unused s.db) :=
  have : Decidable (s.poll.Unused s.db) := by
    unfold Tx.Unused
    infer_instance
  decidable_of_iff ((s.recorded ∈ s.db.controls ∧ s.recorded.status = .pending ∧
      s.db.latest s.recorded.incidentId = some s.latest ∧
      startable s.db s.recorded s.latest) ∧ s.poll.Unused s.db)
    ⟨fun h => ⟨⟨h.1.1, h.1.2.1, h.1.2.2.1, h.1.2.2.2⟩, h.2⟩,
      fun h => ⟨⟨h.1.recorded, h.1.pending, h.1.last, h.1.startable⟩, h.2⟩⟩

/-- The diagnosis succeeds, and a human asks for another one. -/
def asked : List (Sys σ → List (Event σ)) :=
  [ask (fun s => .finish s.lease .succeeded
      ⟨some "verification_succeeded", none, none, none, none, none⟩) default,
    ask (fun _ => investigates "verification_succeeded") ⟨"", "", "message-1", "control", ""⟩]

theorem started_asked : ∃ s : Sys Unit, s.Reachable .plain ∧
    ((∃ child db', acceptForControl .plain s.poll s.recorded s.latest s.db = .ok (child, db')) ↔
      s.recorded.Unhindered s.latest) := by
  obtain ⟨s, -, hs, ⟨hstarts, hunused⟩, hkey⟩ :=
    Transition.exists_reachable (next .plain) (start Unit) (opening ++ asked)
      (fun s => (s.recorded.Starts s.db s.latest ∧ s.poll.Unused s.db) ∧
        keyPattern ("control-" ++ s.recorded.controlId) = true)
      (by decide +kernel)
  exact ⟨s, hs, (Reachable.started_iff hs hstarts hkey hunused).1⟩

/-- A human approves the plan, and the worker gives up before the graph is resumed. Another
one asks for a new diagnosis. -/
def givenUp : List (Sys σ → List (Event σ)) :=
  [ask (fun s => .finish s.lease .waitingApproval
      ⟨some "awaiting_approval", none, none, none, none, none⟩) default,
    ask (fun _ => .queueApproval "run-1" default "binding") default,
    ask (fun _ => .claim "worker-2" 30 3) default,
    ask (fun s => .finish s.lease .failed
      ⟨none, some "WORKER_FAILED", none, none, none, none⟩) default,
    ask (fun _ => investigates "awaiting_approval") ⟨"", "", "message-1", "control", ""⟩]

/-- **A control that every poll raises on**: it passes the checks of `activate_pending`, and
its round is refused. -/
theorem not_started : ¬ ∀ (s : Sys Unit) (c : Control) (latest : Run) (tx : Tx),
    s.Reachable .plain → c.Starts s.db latest →
      keyPattern ("control-" ++ c.controlId) = true → tx.Unused s.db →
        ∃ child db', acceptForControl .plain tx c latest s.db = .ok (child, db') := by
  intro hclaim
  obtain ⟨s, -, hs, ⟨hstarts, hunused⟩, hkey, hraises⟩ :=
    Transition.exists_reachable (next .plain) (start Unit) (opening ++ givenUp)
      (fun s => (s.recorded.Starts s.db s.latest ∧ s.poll.Unused s.db) ∧
        keyPattern ("control-" ++ s.recorded.controlId) = true ∧
        (acceptForControl .plain s.poll s.recorded s.latest s.db).isOk = false)
      (by decide +kernel)
  obtain ⟨child, db', hok⟩ := hclaim s s.recorded s.latest s.poll hs hstarts hkey hunused
  rw [hok] at hraises
  cases hraises

end Sys

end IncidentAgent
