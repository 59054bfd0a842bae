import IncidentAgent.Store.Operations

/-!
# The arbiter between humans and workers

What the arbitration is for, without tables and transactions. To the arbiter, the work on a
diagnosis is five things: its status, whether a human asked it to stop and invalidated it,
whether it is current (no input has reached its incident since), and the state of its
write. Workers and humans move it by the steps of `Work.Step`, one for each kind of
transaction that matters.

The rule of the arbiter is that a human wins before the dispatch and the write wins after
it. Before, the human *withdraws* the work: it is cancelled, and a prepared write is
rejected. After, the work may only be asked to stop: it goes on to the outcome of its
write, and its result is never published as one. `Work.Sound` is the invariant behind it
(`Work.Step.sound`), and the consequences are `Work.Step.withdrawn_for_good` and
`Work.Step.never_published`.
-/

namespace IncidentAgent

/-- The work on a diagnosis, as the arbiter sees it. -/
structure Work where
  status : RunStatus
  stop : Bool
  invalidated : Bool
  current : Bool
  write : Option OperationState
  deriving DecidableEq, Inhabited

/-- The results and the waits for a human, which a stopped diagnosis does not publish. -/
def RunStatus.published : RunStatus → Bool
  | .succeeded | .failed | .waitingUser | .waitingApproval => true
  | _ => false

namespace Work

/-- The work on a diagnosis that was just accepted. -/
def fresh : Work := ⟨.queued, false, false, true, none⟩

/-- Whether its write was dispatched. -/
def dispatched (w : Work) : Bool := w.write.any OperationState.dispatched

/-- **What may happen to the work** on a diagnosis. -/
inductive Step : Work → Work → Prop
  | idle (w : Work) : Step w w
  /-- An input reaches the incident of a diagnosis that has ended. -/
  | outdated {w : Work} {current : Bool} (hended : w.status.terminal = true) :
      Step w { w with current := current }
  | claimed {w : Work}
      (hs : w.status = .queued ∨ w.status = .retryScheduled ∨ w.status = .running) :
      Step w { w with status := .running }
  /-- A worker publishes a status: of a stopped diagnosis, no result and no wait. -/
  | finished {w : Work} {p : RunStatus} (hs : w.status = .running) (hp : p ≠ .queued)
      (hstop : w.stop = true → p.published = false)
      (hcancel : p = .cancelled → w.stop = true ∧ w.write.any OperationState.uncertain = false)
      (hretry : p = .retryScheduled → w.dispatched = false) :
      Step w { w with status := p }
  | approved {w : Work} (hs : w.status = .waitingApproval) (hc : w.current = true)
      (hn : w.stop = false) : Step w { w with status := .queued }
  | prepared {w : Work} (hs : w.status = .running) (hc : w.current = true)
      (hn : w.stop = false) (hw : w.write = none) : Step w { w with write := some .prepared }
  | sent {w : Work} (hs : w.status = .running) (hc : w.current = true) (hn : w.stop = false)
      (hw : w.write = some .prepared) : Step w { w with write := some .dispatching }
  | recorded {w : Work} {o p : OperationState} (hs : w.status = .running) (hw : w.write = some o)
      (hp : recordAllowed p o = true) : Step w { w with write := some p }
  | answered {w : Work} (hs : w.status = .waitingUser) (hn : w.stop = false) :
      Step w { w with status := .queued, current := true }
  /-- A human wins before the dispatch. -/
  | withdrawn {w : Work} {current : Bool} (ha : w.status.terminal = false)
      (hw : w.dispatched = false) :
      Step w ⟨.cancelled, true, true, current, w.write.map fun _ => .rejected⟩
  /-- The write wins after it. -/
  | stopped {w : Work} {current : Bool} (ha : w.status.terminal = false)
      (hw : w.dispatched = true) :
      Step w { w with stop := true, invalidated := true, current := current }

/-- To recognize work that is outdated. -/
theorem Step.of_outdated {w w' : Work} (hended : w.status.terminal = true)
    (hstatus : w'.status = w.status) (hstop : w'.stop = w.stop)
    (hinv : w'.invalidated = w.invalidated) (hwrite : w'.write = w.write) : Step w w' := by
  have heq : w' = { w with current := w'.current } := by
    cases w'
    simp_all
  rw [heq]
  exact .outdated hended

/-- To recognize work that is withdrawn. -/
theorem Step.of_withdrawn {w w' : Work} (ha : w.status.terminal = false)
    (hw : w.dispatched = false) (hstatus : w'.status = .cancelled) (hstop : w'.stop = true)
    (hinv : w'.invalidated = true) (hwrite : w'.write = w.write.map fun _ => .rejected) :
    Step w w' := by
  have heq : w' = ⟨.cancelled, true, true, w'.current, w.write.map fun _ => .rejected⟩ := by
    cases w'
    simp_all
  rw [heq]
  exact .withdrawn ha hw

/-- To recognize work that is stopped. -/
theorem Step.of_stopped {w w' : Work} (ha : w.status.terminal = false)
    (hw : w.dispatched = true) (hstatus : w'.status = w.status) (hstop : w'.stop = true)
    (hinv : w'.invalidated = true) (hwrite : w'.write = w.write) : Step w w' := by
  have heq : w' = { w with stop := true, invalidated := true, current := w'.current } := by
    cases w'
    simp_all
  rw [heq]
  exact .stopped ha hw

/-- **The invariant of the arbiter.** Active work that was not stopped is current; active
work that was stopped had dispatched its write; cancelled work has no write, or one whose
outcome is known. -/
structure Sound (w : Work) : Prop where
  current : w.status.terminal = false → w.stop = false → w.current = true
  sent : w.status.terminal = false → w.stop = true → ∃ o ∈ w.write, o ≠ .prepared
  stopped : w.stop = true → w.invalidated = true
  cancelled : w.status = .cancelled → w.stop = true ∧
    ∀ o ∈ w.write, o = .rejected ∨ o = .succeeded ∨ o = .reconciled

theorem sound_fresh : fresh.Sound := by
  constructor <;> simp [fresh]

/-- What `record` leaves was dispatched before or is rejected. -/
theorem ne_prepared_of_recordAllowed {p o : OperationState} (h : recordAllowed p o = true) :
    p ≠ .prepared :=
  (recordAllowed_ne h).1

/-- A write whose outcome is not uncertain, and which is not prepared, has ended. -/
theorem ended_of_not_uncertain {o : OperationState} (h : o.uncertain = false)
    (hp : o ≠ .prepared) : o = .rejected ∨ o = .succeeded ∨ o = .reconciled := by
  cases o <;> simp_all [OperationState.uncertain]

/-- **Every step keeps the arbiter sound.** -/
theorem Step.sound {w w' : Work} (h : Step w w') (hs : w.Sound) : w'.Sound := by
  cases h with
  | idle => exact hs
  | outdated hended =>
    exact ⟨fun ha => by simp [hended] at ha, hs.sent, hs.stopped, hs.cancelled⟩
  | claimed hstatus =>
    have hactive : w.status.terminal = false := by
      rcases hstatus with h | h | h <;> rw [h] <;> rfl
    exact ⟨fun _ => hs.current hactive, fun _ => hs.sent hactive, hs.stopped, fun h => by cases h⟩
  | finished hstatus _ _ hcancel _ =>
    have hactive : w.status.terminal = false := by rw [hstatus]; rfl
    refine ⟨fun _ => hs.current hactive, fun _ => hs.sent hactive, hs.stopped, fun hp => ?_⟩
    obtain ⟨hstop, hcertain⟩ := hcancel hp
    refine ⟨hstop, fun o ho => ?_⟩
    obtain ⟨q, hq, hne⟩ := hs.sent hactive hstop
    obtain rfl : q = o := Option.some.inj (hq.symm.trans ho)
    have hq : w.write = some q := hq
    exact ended_of_not_uncertain (by simpa [hq] using hcertain) hne
  | approved hstatus _ _ =>
    have hactive : w.status.terminal = false := by rw [hstatus]; rfl
    exact ⟨fun _ => hs.current hactive, fun _ => hs.sent hactive, hs.stopped, fun h => by cases h⟩
  | prepared hstatus _ hn _ =>
    exact ⟨hs.current, fun _ hstop => by simp [hn] at hstop, hs.stopped,
      fun h => by simp [hstatus] at h⟩
  | sent hstatus _ _ _ =>
    exact ⟨hs.current, fun _ _ => ⟨_, rfl, by decide⟩, hs.stopped, fun h => by simp [hstatus] at h⟩
  | recorded hstatus _ hp =>
    exact ⟨hs.current, fun _ _ => ⟨_, rfl, ne_prepared_of_recordAllowed hp⟩, hs.stopped,
      fun h => by simp [hstatus] at h⟩
  | answered hstatus hn =>
    exact ⟨fun _ _ => rfl, fun _ hstop => by simp [hn] at hstop, hs.stopped, fun h => by cases h⟩
  | withdrawn ha hw =>
    refine ⟨fun h => by simp [RunStatus.terminal] at h, fun h => by simp [RunStatus.terminal] at h,
      fun _ => rfl, fun _ => ⟨rfl, fun o ho => ?_⟩⟩
    obtain ⟨_, -, rfl⟩ := Option.map_eq_some_iff.1 ho
    exact Or.inl rfl
  | stopped ha hw =>
    refine ⟨fun _ h => by simp at h, fun _ _ => ?_, fun _ => rfl, fun h => ?_⟩
    · obtain ⟨o, ho, hdispatched⟩ : ∃ o, w.write = some o ∧ o.dispatched = true := by
        simpa [dispatched, Option.any_eq_true] using hw
      exact ⟨o, ho, by rintro rfl; simp [OperationState.dispatched] at hdispatched⟩
    · simp [show w.status = .cancelled from h, RunStatus.terminal] at ha

/-- A request to stop is never taken back. -/
theorem Step.stop {w w' : Work} (h : Step w w') (hstop : w.stop = true) : w'.stop = true := by
  cases h <;> first | exact hstop | rfl

/-- What has ended has ended as it did. -/
theorem Step.ended {w w' : Work} (h : Step w w') (hended : w.status.terminal = true) :
    w'.status = w.status := by
  cases h with
  | idle => rfl
  | outdated _ => rfl
  | claimed hs => rcases hs with hs | hs | hs <;> simp [hs, RunStatus.terminal] at hended
  | prepared _ _ _ _ => rfl
  | sent _ _ _ _ => rfl
  | recorded _ _ _ => rfl
  | finished hs _ _ _ _ => simp [hs, RunStatus.terminal] at hended
  | approved hs _ _ => simp [hs, RunStatus.terminal] at hended
  | answered hs _ => simp [hs, RunStatus.terminal] at hended
  | withdrawn ha _ => simp [ha] at hended
  | stopped _ _ => rfl

/-- **Stopped work publishes nothing**: no step takes it to a result or to a wait. -/
theorem Step.never_published {w w' : Work} (h : Step w w') (hstop : w.stop = true)
    (hp : w'.status.published = true) : w'.status = w.status := by
  cases h with
  | idle => rfl
  | outdated _ => rfl
  | claimed _ => simp [RunStatus.published] at hp
  | finished _ _ hn _ _ => simp [hn hstop] at hp
  | approved _ _ hn => simp [hstop] at hn
  | prepared _ _ _ _ => rfl
  | sent _ _ _ _ => rfl
  | recorded _ _ _ => rfl
  | answered _ hn => simp [hstop] at hn
  | withdrawn _ _ => simp [RunStatus.published] at hp
  | stopped _ _ => rfl

/-- **No write is left prepared behind**, unless a worker publishes a result over it: that
is the one step that does not keep the work of a prepared write open. -/
theorem Step.open_of_prepared {w w' : Work} (h : Step w w')
    (hopen : w.write = some .prepared → w.status.terminal = false)
    (hfinish : w.status = .running → w.write = some .prepared → w'.status.terminal = false)
    (hw : w'.write = some .prepared) : w'.status.terminal = false := by
  cases h with
  | idle => exact hopen hw
  | outdated _ => exact hopen hw
  | claimed _ => rfl
  | finished hstatus _ _ _ _ => exact hfinish hstatus hw
  | approved _ _ _ => rfl
  | prepared hstatus _ _ _ => exact hstatus ▸ rfl
  | sent hstatus _ _ _ => exact hstatus ▸ rfl
  | recorded hstatus _ _ => exact hstatus ▸ rfl
  | answered _ _ => rfl
  | withdrawn _ _ =>
    obtain ⟨_, -, h⟩ := Option.map_eq_some_iff.1 hw
    cases h
  | stopped ha _ => exact ha

end Work

end IncidentAgent
