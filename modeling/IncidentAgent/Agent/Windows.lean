import IncidentAgent.Agent.Observation
import Mathlib.Data.List.Chain

/-!
# What a persisted window says

`WindowPayload.Sound` is what holds of a window whenever it is persisted: how many samples it
has, when they began and ended, which target they saw, and for a window that passed, the
streak that made it pass. `WindowPayload.Later` is what a later value of the same window keeps
of an earlier one. Each change that a runner makes to a window in memory is here shown to lead
from a sound window to a sound and later one; nothing in this file is about runs.
-/

namespace IncidentAgent

/-- The durations that a verdict depends on are not negative. -/
structure ObservationPolicy.Valid (p : ObservationPolicy) : Prop where
  total : 0 ≤ p.totalSeconds
  business : 0 ≤ p.businessSeconds

instance (p : ObservationPolicy) : Decidable p.Valid :=
  decidable_of_iff (0 ≤ p.totalSeconds ∧ 0 ≤ p.businessSeconds)
    ⟨fun h => ⟨h.1, h.2⟩, fun h => ⟨h.total, h.business⟩⟩

/-- A sample that found the resources ready. -/
def Sample.ready (x : Sample) : Bool := x.resourceStatus = some .ready

/-- What identifies a sample, and the moment it began. -/
def Sample.stamp (x : Sample) : Nat × String × Int := (x.sequence, x.segment, x.startedEpoch)

/-- A sample begins an interval after the end of the one before it, if that has ended. -/
def Sample.Apart (interval : Int) (x y : Sample) : Prop :=
  ∀ f ∈ x.finishedEpoch, f + interval ≤ y.startedEpoch

/-- **A sample that counts** for the verdict of a window: it passed in the segment, on the
target of the window, and ended before the deadlines. -/
structure Sample.Counts (x : Sample) (w : WindowPayload) (segment : String) : Prop where
  segment : x.segment = segment
  passed : x.status = .passed ∧ x.resourceStatus = some .ready ∧ x.businessStatus = some .passed
  target : ∃ t, x.target = some t ∧ w.target = some t
  finished : ∃ f, x.finishedEpoch = some f ∧ f < w.deadline ∧ ∀ b ∈ w.businessDeadline, f < b

namespace WindowPayload

/-- The last `n` samples. -/
def recent (w : WindowPayload) (n : Nat) : List Sample := w.samples.drop (w.samples.length - n)

/-- The samples that the window counts in a row are there, and count. -/
structure Streak (w : WindowPayload) (segment : String) : Prop where
  length : w.consecutive ≤ w.samples.length
  counts : ∀ x ∈ w.recent w.consecutive, x.Counts w segment

/-- **A sound window.** -/
structure Sound (w : WindowPayload) : Prop where
  valid : w.policy.Valid
  opened : 0 < w.startedAt
  deadline : w.deadline = w.startedAt + w.policy.totalSeconds
  bounded : w.samples.length ≤ w.policy.maxSamples
  apart : w.samples.IsChain (Sample.Apart w.policy.intervalSeconds)
  begun : ∀ x ∈ w.samples, 0 < x.startedEpoch
  /-- The first sample that found the resources ready has fixed the business deadline. -/
  business : w.businessDeadline = (w.samples.find? Sample.ready).map fun x =>
    min w.deadline (x.startedEpoch + w.policy.businessSeconds)
  targets : w.status = .running ∨ w.status = .passed →
    ∀ x ∈ w.samples, ∀ t ∈ x.target, w.target = some t
  passed : w.status = .passed → w.policy.requiredConsecutive ≤ w.consecutive ∧
    ∃ segment, w.Streak segment

/-- **A later window**: the policy and the deadlines are what they were, no sample is lost, and
what is settled stays settled. -/
structure Later (a b : WindowPayload) : Prop where
  policy : b.policy = a.policy
  startedAt : b.startedAt = a.startedAt
  deadline : b.deadline = a.deadline
  resourceDeadline : b.resourceDeadline = a.resourceDeadline
  business : ∀ d ∈ a.businessDeadline, b.businessDeadline = some d
  samples : a.samples.map Sample.stamp <+: b.samples.map Sample.stamp
  settled : a.status ≠ .running → b.status = a.status ∧ b.samples = a.samples ∧
    b.target = a.target

theorem Streak.congr {a b : WindowPayload} {segment : String} (h : a.Streak segment)
    (hsamples : b.samples = a.samples) (hcount : b.consecutive = a.consecutive)
    (htarget : b.target = a.target) (hdeadline : b.deadline = a.deadline)
    (hbusiness : b.businessDeadline = a.businessDeadline) : b.Streak segment where
  length := by
    rw [hsamples, hcount]
    exact h.length
  counts x hx := by
    rw [recent, hsamples, hcount] at hx
    obtain ⟨hsegment, hpassed, htargets, hfinished⟩ := h.counts x hx
    exact ⟨hsegment, hpassed, htarget ▸ htargets, by rw [hdeadline, hbusiness]; exact hfinished⟩

theorem Later.refl (a : WindowPayload) : a.Later a :=
  ⟨rfl, rfl, rfl, rfl, fun _ h => h, List.prefix_rfl, fun _ => ⟨rfl, rfl, rfl⟩⟩

theorem Later.trans {a b c : WindowPayload} (h : a.Later b) (h' : b.Later c) : a.Later c where
  policy := h'.policy.trans h.policy
  startedAt := h'.startedAt.trans h.startedAt
  deadline := h'.deadline.trans h.deadline
  resourceDeadline := h'.resourceDeadline.trans h.resourceDeadline
  business d hd := h'.business d (h.business d hd)
  samples := h.samples.trans h'.samples
  settled ha := by
    obtain ⟨hstatus, hsamples, htarget⟩ := h.settled ha
    obtain ⟨hstatus', hsamples', htarget'⟩ := h'.settled (by rwa [hstatus])
    exact ⟨hstatus'.trans hstatus, hsamples'.trans hsamples, htarget'.trans htarget⟩

theorem Later.length {a b : WindowPayload} (h : a.Later b) :
    a.samples.length ≤ b.samples.length := by
  simpa using h.samples.length_le

end WindowPayload

namespace ObservationWindow

variable {w : WindowPayload}

/-! ### Opening and resuming -/

theorem initial_sound {policy : ObservationPolicy} (hvalid : policy.Valid) {started : Int}
    (hstarted : 0 < started) : (initial policy started).Sound where
  valid := hvalid
  opened := hstarted
  deadline := rfl
  bounded := Nat.zero_le _
  apart := by simp [initial]
  begun := by simp [initial]
  business := rfl
  targets _ := by simp [initial]
  passed h := by simp [initial] at h

/-- What a new segment does to a sample. -/
def interrupt (x : Sample) : Sample :=
  if x.status = .sampling then { x with status := .interrupted } else x

theorem interrupt_stamp (x : Sample) : (interrupt x).stamp = x.stamp := by
  unfold interrupt
  split <;> rfl

theorem interrupt_fields (x : Sample) : (interrupt x).finishedEpoch = x.finishedEpoch ∧
    (interrupt x).startedEpoch = x.startedEpoch ∧
    (interrupt x).resourceStatus = x.resourceStatus ∧ (interrupt x).target = x.target := by
  unfold interrupt
  split <;> exact ⟨rfl, rfl, rfl, rfl⟩

theorem resumed_samples : (resumed w).samples = w.samples.map interrupt := rfl

theorem resumed_sound (h : w.Sound) (hrunning : w.status = .running) : (resumed w).Sound where
  valid := h.valid
  opened := h.opened
  deadline := h.deadline
  bounded := by
    show (resumed w).samples.length ≤ w.policy.maxSamples
    rw [resumed_samples, List.length_map]
    exact h.bounded
  apart := by
    rw [resumed_samples, List.isChain_map]
    refine h.apart.imp fun x y hxy => ?_
    unfold Sample.Apart
    rw [(interrupt_fields x).1, (interrupt_fields y).2.1]
    exact hxy
  begun x hx := by
    obtain ⟨y, hy, rfl⟩ := List.mem_map.1 hx
    have hy' := h.begun y hy
    rwa [← (interrupt_fields y).2.1] at hy'
  business := by
    have hready : Sample.ready ∘ interrupt = Sample.ready := by
      funext x
      simp [Sample.ready, (interrupt_fields x).2.2.1]
    rw [resumed_samples, List.find?_map, hready]
    refine h.business.trans ?_
    cases w.samples.find? Sample.ready with
    | none => rfl
    | some x => simp [resumed, (interrupt_fields x).2.1]
  targets _ x hx t ht := by
    obtain ⟨y, hy, rfl⟩ := List.mem_map.1 hx
    rw [show (if y.status = .sampling then { y with status := .interrupted } else y) =
      interrupt y from rfl, (interrupt_fields y).2.2.2] at ht
    exact h.targets (Or.inl hrunning) y hy t ht
  passed hp := by
    rw [show (resumed w).status = w.status from rfl, hrunning] at hp
    cases hp

/-- A new segment starts with an empty streak. -/
theorem resumed_streak {segment : String} : (resumed w).Streak segment where
  length := Nat.zero_le _
  counts x hx := by
    have hnil : (resumed w).recent 0 = [] := by simp [WindowPayload.recent]
    have hx : x ∈ (resumed w).recent 0 := hx
    simp [hnil] at hx

theorem resumed_later (hrunning : w.status = .running) : w.Later (resumed w) where
  policy := rfl
  startedAt := rfl
  deadline := rfl
  resourceDeadline := rfl
  business _ hd := hd
  samples := by
    have hstamp : Sample.stamp ∘ interrupt = Sample.stamp := funext interrupt_stamp
    have hsame : (resumed w).samples.map Sample.stamp = w.samples.map Sample.stamp := by
      rw [resumed_samples, List.map_map, hstamp]
    exact hsame ▸ List.prefix_rfl
  settled h := absurd hrunning h

/-! ### Announcing a sample -/

/-- The window with a sample in flight. -/
def announced (w : WindowPayload) (segment : String) (now : Int) : WindowPayload :=
  { w with samples := w.samples ++ [begun w segment now] }

variable {segment : String} {now : Int}

theorem chain_append {interval : Int} {xs : List Sample} {x : Sample}
    (h : xs.IsChain (Sample.Apart interval))
    (hgap : ∀ last ∈ xs.getLast?, Sample.Apart interval last x) :
    (xs ++ [x]).IsChain (Sample.Apart interval) := by
  refine List.isChain_append.2 ⟨h, List.isChain_singleton _, fun y hy z hz => ?_⟩
  obtain rfl : x = z := by simpa using hz
  exact hgap y hy

theorem announced_sound (h : w.Sound) (hrunning : w.status = .running)
    (hroom : w.samples.length < w.policy.maxSamples) (hnow : 0 < now)
    (hgap : ∀ last ∈ w.samples.getLast?, ∀ f ∈ last.finishedEpoch,
      f + w.policy.intervalSeconds ≤ now) : (announced w segment now).Sound where
  valid := h.valid
  opened := h.opened
  deadline := h.deadline
  bounded := by
    show (w.samples ++ [begun w segment now]).length ≤ w.policy.maxSamples
    rw [List.length_append, List.length_singleton]
    exact hroom
  apart := chain_append h.apart hgap
  begun x hx := by
    rcases List.mem_append.1 hx with hx | hx
    · exact h.begun x hx
    · rw [List.mem_singleton.1 hx]
      exact hnow
  business := by
    have hnot : (begun w segment now).ready = false := rfl
    refine h.business.trans ?_
    show _ = ((w.samples ++ [begun w segment now]).find? Sample.ready).map _
    rw [List.find?_append, List.find?_singleton, hnot]
    cases w.samples.find? Sample.ready <;> rfl
  targets _ x hx t ht := by
    rcases List.mem_append.1 hx with hx | hx
    · exact h.targets (Or.inl hrunning) x hx t ht
    · rw [List.mem_singleton.1 hx] at ht
      cases ht
  passed hp := by
    rw [show (announced w segment now).status = w.status from rfl, hrunning] at hp
    cases hp

theorem announced_later (hrunning : w.status = .running) : w.Later (announced w segment now) where
  policy := rfl
  startedAt := rfl
  deadline := rfl
  resourceDeadline := rfl
  business _ hd := hd
  samples := by simp [announced]
  settled h := absurd hrunning h

/-! ### Judging a sample -/

variable {o : Observed} {finished : Int} {late : Bool}

/-- The window with a sample that has returned, before the verdict. -/
def taken (w : WindowPayload) (segment : String) (now : Int) (o : Observed) (finished : Int) :
    WindowPayload :=
  { w with
    samples := w.samples ++ [ended (begun w segment now) o finished]
    lastResult := o.result }

/-- The same, with the deadline that the sample may have fixed. -/
def returned (w : WindowPayload) (segment : String) (now : Int) (o : Observed) (finished : Int) :
    WindowPayload :=
  if o.resourceStatus = some .ready ∧ w.businessDeadline = none then
    charged (taken w segment now o finished) now
  else taken w segment now o finished

/-- What is the same in the window before and after the deadline is fixed. -/
theorem returned_eq (w : WindowPayload) (segment : String) (now : Int) (o : Observed)
    (finished : Int) : ∃ business, returned w segment now o finished =
    { taken w segment now o finished with businessDeadline := business } ∧
    (∀ d ∈ w.businessDeadline, business = some d) ∧
    business = (w.businessDeadline.or
      (if o.resourceStatus = some .ready then
        some (min w.deadline (now + w.policy.businessSeconds)) else none)) := by
  unfold returned
  split
  · rename_i h
    refine ⟨_, rfl, fun d hd => ?_, ?_⟩
    · rw [h.2] at hd
      cases hd
    · rw [h.2, if_pos h.1]
      rfl
  · rename_i h
    refine ⟨w.businessDeadline, rfl, fun d hd => hd, ?_⟩
    cases hb : w.businessDeadline with
    | some b => rfl
    | none => rw [if_neg fun hr => h ⟨hr, hb⟩]; rfl

/-- The window with a sample that was in time and on the target, before it is known whether
the samples in a row are enough. -/
def counted (w : WindowPayload) (o : Observed) : WindowPayload :=
  { w with
    target := o.target.or w.target
    consecutive := if passes o then w.consecutive + 1 else 0 }

theorem judged_eq : judged w o late =
    if o.invalidated = true ∨ ∃ t ∈ o.target, ∃ u ∈ w.target, t ≠ u then
      { w with status := .invalidated, reason := some "TARGET_CHANGED", consecutive := 0 }
    else if late = true then
      { w with status := .unknown, reason := some "DEADLINE_EXCEEDED", consecutive := 0 }
    else if w.policy.requiredConsecutive ≤ (counted w o).consecutive then
      { counted w o with status := .passed, reason := some "CONSECUTIVE_SAMPLES_PASSED" }
    else counted w o := rfl

/-- **What a verdict leaves alone**: everything but the verdict itself, the target and the
count. -/
theorem judged_frame (w : WindowPayload) (o : Observed) (late : Bool) :
    ∃ status reason consecutive target, judged w o late =
      { w with status := status, reason := reason, consecutive := consecutive, target := target } := by
  rw [judged_eq]
  split
  · exact ⟨_, _, _, w.target, rfl⟩
  · split
    · exact ⟨_, _, _, w.target, rfl⟩
    · split <;> exact ⟨_, _, _, _, rfl⟩

/-- A verdict that is not the end, or is a success, was in time and on the target. -/
theorem judged_cases (o : Observed) (late : Bool) (hstatus : (judged w o late).status = .running ∨
      (judged w o late).status = .passed) (hrunning : w.status = .running) :
    late = false ∧ (∀ t ∈ o.target, ∀ u ∈ w.target, t = u) ∧
    (judged w o late).target = (counted w o).target ∧
    (judged w o late).consecutive = (counted w o).consecutive ∧
    ((judged w o late).status = .passed →
      w.policy.requiredConsecutive ≤ (judged w o late).consecutive) := by
  rw [judged_eq] at hstatus ⊢
  split at hstatus
  · simp at hstatus
  · rename_i hsame
    split at hstatus
    · simp at hstatus
    · rename_i hlate
      rw [if_neg hsame, if_neg hlate]
      refine ⟨by simpa using hlate, fun t ht u hu => ?_, ?_⟩
      · by_contra hne
        exact hsame (Or.inr ⟨t, ht, u, hu, hne⟩)
      · split
        · rename_i hmany
          exact ⟨rfl, rfl, fun _ => hmany⟩
        · refine ⟨rfl, rfl, fun hp => ?_⟩
          rw [show w.status = .passed from hp] at hrunning
          cases hrunning

/-- A business deadline is not the zero of the clock, so it is the deadline of the phase. -/
theorem phaseDeadline_of_some (h : w.Sound) {b : Int} (hb : w.businessDeadline = some b) :
    phaseDeadline w = b := by
  have hpos : 0 < b := by
    rw [h.business] at hb
    obtain ⟨x, hx, rfl⟩ := Option.map_eq_some_iff.1 hb
    have := h.begun x (List.mem_of_find?_eq_some hx)
    have := h.valid.business
    have := h.valid.total
    have := h.opened
    have := h.deadline
    omega
  unfold phaseDeadline
  rw [hb]
  exact if_neg (by omega)

/-- Where no sample found the resources ready, none counts in a row. -/
theorem recent_eq_nil (hstreak : w.Streak segment)
    (h : w.Sound) (hb : w.businessDeadline = none) : w.recent w.consecutive = [] := by
  refine List.eq_nil_iff_forall_not_mem.2 fun x hx => ?_
  have hready : x.ready = true := by simpa [Sample.ready] using (hstreak.counts x hx).passed.2.1
  have hnone := h.business
  rw [hb, eq_comm, Option.map_eq_none_iff, List.find?_eq_none] at hnone
  exact hnone x (List.mem_of_mem_drop hx) hready

/-- The window with the verdict on its sample. -/
def verdict (w : WindowPayload) (o : Observed) (late : Bool) (finished : Int) : WindowPayload :=
  if (judged w o late).status = .running then judged w o late
  else { judged w o late with finishedAt := some finished }

/-- The time at which a window ended matters to nothing. -/
theorem verdict_eq (w : WindowPayload) (o : Observed) (late : Bool) (finished : Int) :
    ∃ finishedAt, verdict w o late finished =
    { judged w o late with finishedAt := finishedAt } := by
  unfold verdict
  split
  · exact ⟨_, rfl⟩
  · exact ⟨_, rfl⟩

section Verdict

variable (h : w.Sound) (hrunning : w.status = .running)
  (hroom : w.samples.length < w.policy.maxSamples) (hnow : 0 < now)
  (hgap : ∀ last ∈ w.samples.getLast?, ∀ f ∈ last.finishedEpoch,
    f + w.policy.intervalSeconds ≤ now)

include h hrunning hroom hnow hgap

/-- **A sample that has returned leaves the window sound** under any verdict that is
justified. -/
theorem returned_sound {status : WindowStatus} {reason : Option String} {consecutive : Nat}
    {target : Option ObservationTarget} {finishedAt : Option Int}
    (htargets : status = .running ∨ status = .passed →
      target = o.target.or w.target ∧ ∀ t ∈ o.target, ∀ u ∈ w.target, t = u)
    (hpassed : status = .passed → w.policy.requiredConsecutive ≤ consecutive ∧
      ∃ segment', ({ returned w segment now o finished with
        status := status, reason := reason, consecutive := consecutive, target := target,
        finishedAt := finishedAt } : WindowPayload).Streak segment') :
    ({ returned w segment now o finished with
      status := status, reason := reason, consecutive := consecutive, target := target,
      finishedAt := finishedAt } : WindowPayload).Sound := by
  obtain ⟨business, hreturned, -, hbusiness⟩ :=
    returned_eq w segment now o finished
  rw [hreturned] at hpassed ⊢
  refine ⟨h.valid, h.opened, h.deadline, ?_, chain_append h.apart hgap, fun x hx => ?_, ?_,
    fun hstatus x hx t ht => ?_, hpassed⟩
  · show (w.samples ++ [ended (begun w segment now) o finished]).length ≤ w.policy.maxSamples
    rw [List.length_append, List.length_singleton]
    exact hroom
  · rcases List.mem_append.1 hx with hx | hx
    · exact h.begun x hx
    · rw [List.mem_singleton.1 hx]
      exact hnow
  · show business = ((w.samples ++ [ended (begun w segment now) o finished]).find?
      Sample.ready).map _
    rw [hbusiness, h.business, List.find?_append, List.find?_singleton]
    cases w.samples.find? Sample.ready with
    | some x => rfl
    | none =>
      by_cases hready : o.resourceStatus = some .ready
      · simp [Sample.ready, ended, begun, hready, taken]
      · simp [Sample.ready, ended, hready]
  · obtain ⟨htarget, hsame⟩ := htargets hstatus
    show target = some t
    rw [htarget]
    rcases List.mem_append.1 hx with hx | hx
    · have hold := h.targets (Or.inl hrunning) x hx t ht
      cases ho : o.target with
      | none => exact hold
      | some u => exact congrArg some (hsame u ho t hold)
    · rw [List.mem_singleton.1 hx] at ht
      have ht : o.target = some t := ht
      rw [ht]
      rfl

/-- **A sample that has returned leaves the streak of its segment a streak**, if it was in
time and on the target. -/
theorem counted_streak (hstreak : w.Streak segment)
    (hsame : ∀ t ∈ o.target, ∀ u ∈ w.target, t = u)
    (hdead : finished < w.deadline)
    (hphase : finished < phaseDeadline (returned w segment now o finished)) :
    (counted (returned w segment now o finished) o).Streak segment := by
  have hsound : ({ returned w segment now o finished with
      status := .unknown, reason := none, consecutive := 0, target := none,
      finishedAt := none } : WindowPayload).Sound :=
    returned_sound h hrunning hroom hnow hgap (by simp) (by simp)
  obtain ⟨business, hreturned, hkept, hbusiness⟩ :=
    returned_eq w segment now o finished
  rw [hreturned] at hsound hphase ⊢
  have hbefore : ∀ b ∈ business, finished < b := fun b hb =>
    hphase.trans_eq (phaseDeadline_of_some hsound hb)
  -- What counted before counts now: the target and the business deadline are as they were.
  have hold : ∀ x ∈ w.recent w.consecutive, x.Counts (counted { taken w segment now o finished with
      businessDeadline := business } o) segment := by
    intro x hx
    have hcounts := hstreak.counts x hx
    obtain ⟨t, hxt, hwt⟩ := hcounts.target
    obtain ⟨f, hf, hfd, hfb⟩ := hcounts.finished
    refine ⟨hcounts.segment, hcounts.passed, ⟨t, hxt, ?_⟩, f, hf, hfd, fun b hb => ?_⟩
    · show o.target.or w.target = some t
      cases ho : o.target with
      | none => exact hwt
      | some u => exact congrArg some (hsame u ho t hwt)
    · cases hwb : w.businessDeadline with
      | none => simp [recent_eq_nil hstreak h hwb] at hx
      | some d =>
        have hd : business = some d := hkept d hwb
        rw [show business = some b from hb] at hd
        obtain rfl := Option.some.inj hd
        exact hfb b hwb
  by_cases hpasses : passes o = true
  · have hall := hpasses
    simp only [passes, Bool.and_eq_true, decide_eq_true_eq, Option.isSome_iff_exists] at hall
    obtain ⟨⟨⟨hpassed, hready⟩, hbusinessPassed⟩, t, ht⟩ := hall
    have hnew : (ended (begun w segment now) o finished).Counts
        (counted { taken w segment now o finished with businessDeadline := business } o)
        segment := by
      refine ⟨rfl, ⟨hpassed, hready, hbusinessPassed⟩, ⟨t, ht, ?_⟩, finished, rfl, hdead, hbefore⟩
      show o.target.or w.target = some t
      rw [ht]
      rfl
    have hlength := hstreak.length
    have hcount : (counted { taken w segment now o finished with businessDeadline := business }
        o).consecutive = w.consecutive + 1 := if_pos hpasses
    refine ⟨?_, fun x hx => ?_⟩
    · rw [hcount]
      show w.consecutive + 1 ≤ (w.samples ++ [ended (begun w segment now) o finished]).length
      rw [List.length_append, List.length_singleton]
      omega
    · rw [hcount] at hx
      have hx : x ∈ (w.samples ++ [ended (begun w segment now) o finished]).drop
        ((w.samples ++ [ended (begun w segment now) o finished]).length - (w.consecutive + 1)) := hx
      rw [List.length_append, List.length_singleton, Nat.add_sub_add_right,
        List.drop_append_of_le_length (Nat.sub_le _ _)] at hx
      rcases List.mem_append.1 hx with hx | hx
      · exact hold x hx
      · rw [List.mem_singleton.1 hx]
        exact hnew
  · have hcount : (counted { taken w segment now o finished with businessDeadline := business }
        o).consecutive = 0 := if_neg hpasses
    refine ⟨hcount ▸ Nat.zero_le _, fun x hx => ?_⟩
    rw [hcount] at hx
    simp [WindowPayload.recent] at hx

/-- **A verdict leaves the window sound**, and a running window with its streak. -/
theorem verdict_sound (hstreak : w.Streak segment)
    (hlate : late = false → finished < w.deadline ∧
      finished < phaseDeadline (returned w segment now o finished)) :
    (verdict (returned w segment now o finished) o late finished).Sound ∧
    ((verdict (returned w segment now o finished) o late finished).status = .running →
      (verdict (returned w segment now o finished) o late finished).Streak segment) := by
  obtain ⟨finishedAt, hverdict⟩ := verdict_eq (returned w segment now o finished) o late finished
  obtain ⟨status, reason, consecutive, target, hjudged⟩ := judged_frame
    (returned w segment now o finished) o late
  have hfixed : (returned w segment now o finished).status = w.status ∧
      (returned w segment now o finished).target = w.target ∧
      (returned w segment now o finished).policy = w.policy ∧
      (returned w segment now o finished).deadline = w.deadline := by
    unfold returned
    split <;> exact ⟨rfl, rfl, rfl, rfl⟩
  have hcases := judged_cases (w := returned w segment now o finished) o late
  rw [hverdict]
  rw [hjudged] at hcases ⊢
  have hcounts : status = .running ∨ status = .passed →
      (target = o.target.or w.target ∧ ∀ t ∈ o.target, ∀ u ∈ w.target, t = u) ∧
      (status = .passed → w.policy.requiredConsecutive ≤ consecutive) ∧
      (counted (returned w segment now o finished) o).Streak segment ∧
      (counted (returned w segment now o finished) o).target = target ∧
      (counted (returned w segment now o finished) o).consecutive = consecutive := by
    intro hstatus
    obtain ⟨hnot, hsame, htarget, hconsecutive, henough⟩ := hcases hstatus (hfixed.1.trans hrunning)
    rw [hfixed.2.1] at hsame
    rw [hfixed.2.2.1] at henough
    obtain ⟨hdead, hphase⟩ := hlate hnot
    refine ⟨⟨?_, hsame⟩, henough,
      counted_streak h hrunning hroom hnow hgap hstreak hsame hdead hphase, htarget.symm,
      hconsecutive.symm⟩
    rw [← hfixed.2.1]
    exact htarget
  have hmoved : status = .running ∨ status = .passed →
      ({ returned w segment now o finished with
        status := status, reason := reason, consecutive := consecutive, target := target,
        finishedAt := finishedAt } : WindowPayload).Streak segment := by
    intro hstatus
    obtain ⟨-, -, hcounted, htarget, hconsecutive⟩ := hcounts hstatus
    exact hcounted.congr rfl hconsecutive.symm htarget.symm rfl rfl
  refine ⟨returned_sound h hrunning hroom hnow hgap (fun hstatus => (hcounts hstatus).1)
    fun hp => ⟨(hcounts (Or.inr hp)).2.1 hp, segment, hmoved (Or.inr hp)⟩, fun hr => ?_⟩
  exact hmoved (Or.inl hr)

end Verdict

theorem verdict_later (hrunning : w.status = .running) : (announced w segment now).Later
    (verdict (returned w segment now o finished) o late finished) := by
  obtain ⟨finishedAt, hverdict⟩ := verdict_eq (returned w segment now o finished) o late finished
  obtain ⟨status, reason, consecutive, target, hjudged⟩ := judged_frame
    (returned w segment now o finished) o late
  obtain ⟨business, hreturned, hkept, -⟩ :=
    returned_eq w segment now o finished
  rw [hverdict, hjudged, hreturned]
  refine ⟨rfl, rfl, rfl, rfl, hkept, ?_, fun hne => absurd hrunning hne⟩
  show (w.samples ++ [_]).map Sample.stamp <+: (w.samples ++ [_]).map Sample.stamp
  rw [List.map_append, List.map_append]
  exact List.prefix_rfl

theorem verdict_length : (verdict (returned w segment now o finished) o late
    finished).samples.length = w.samples.length + 1 := by
  obtain ⟨finishedAt, hverdict⟩ := verdict_eq (returned w segment now o finished) o late finished
  obtain ⟨status, reason, consecutive, target, hjudged⟩ := judged_frame
    (returned w segment now o finished) o late
  obtain ⟨business, hreturned, -⟩ := returned_eq w segment now o finished
  rw [hverdict, hjudged, hreturned]
  exact List.length_append

theorem verdict_policy : (verdict (returned w segment now o finished) o late finished).policy =
    w.policy := by
  obtain ⟨finishedAt, hverdict⟩ := verdict_eq (returned w segment now o finished) o late finished
  obtain ⟨status, reason, consecutive, target, hjudged⟩ := judged_frame
    (returned w segment now o finished) o late
  obtain ⟨business, hreturned, -⟩ := returned_eq w segment now o finished
  rw [hverdict, hjudged, hreturned]
  rfl

/-! ### The end of a run -/

/-- The window with which a run ends. -/
def closed (w : WindowPayload) (now : Int) : WindowPayload :=
  { settled w with finishedAt := some now }

theorem closed_samples : (closed w now).samples = w.samples := by
  unfold closed settled
  split <;> rfl

theorem closed_sound (h : w.Sound) : (closed w now).Sound := by
  unfold closed settled
  split
  · exact ⟨h.valid, h.opened, h.deadline, h.bounded, h.apart, h.begun, h.business, by simp, by simp⟩
  · exact ⟨h.valid, h.opened, h.deadline, h.bounded, h.apart, h.begun, h.business, h.targets,
      fun hp => ⟨(h.passed hp).1, (h.passed hp).2.imp fun _ hs => hs.congr rfl rfl rfl rfl rfl⟩⟩

theorem closed_later : w.Later (closed w now) := by
  unfold closed settled
  split
  · rename_i hrunning
    exact ⟨rfl, rfl, rfl, rfl, fun _ hd => hd, List.prefix_rfl, fun hne => absurd hrunning hne⟩
  · exact ⟨rfl, rfl, rfl, rfl, fun _ hd => hd, List.prefix_rfl, fun _ => ⟨rfl, rfl, rfl⟩⟩

end ObservationWindow

end IncidentAgent
