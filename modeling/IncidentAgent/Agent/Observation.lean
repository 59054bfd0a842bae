import IncidentAgent.Lib.Prog
import IncidentAgent.Store.Observations
import IncidentAgent.System.Machine

/-!
# The observation of a repair

`ObservationWindow.run` samples a service until it has passed several times in a row, until
its target has changed, or until one of three deadlines is over. The window is persisted
before and after each sample, so that a runner that crashed is followed by another one, which
starts a new streak but inherits the deadlines.

The loop of the source runs until a deadline, or until `max_samples` samples have been taken;
here what is left of the latter is what the recursion is on. A runner reads the clocks of its
process, which never go back and which a sleep advances by its duration at least. Several
runners may share a key, each under the token of its store; the transactions are those of
`ObservationStore`, `openWindow` and `saveWindow`, on the database of the system.
-/

namespace IncidentAgent

/-- `POLICY["version"]`. -/
def policyVersion : String := "recovery-window-v1"

/-- `POLICY`, with durations in seconds. -/
def observationPolicy : ObservationPolicy where
  version := policyVersion
  resourceSeconds := 60
  businessSeconds := 30
  totalSeconds := 120
  intervalSeconds := 5
  requiredConsecutive := 3
  maxSamples := 25

/-- What a sample returns. -/
structure Observed where
  status : SampleStatus
  resourceStatus : Option ResourceStatus
  businessStatus : Option BusinessStatus
  target : Option ObservationTarget
  errorCode : Option String
  invalidated : Bool
  result : Option Json
  deriving Inhabited

/-! ### The program -/

/-- What a runner asks of the world. -/
inductive WindowQuery
  | clock
  | monotonic
  | segment
  | sleep (duration : Int)
  | openWindow (initial : WindowPayload)
  | saveWindow (payload : WindowPayload)
  | sample (seconds : Int)

/-- The answers. -/
def WindowQuery.Answer : WindowQuery → Type
  | .clock | .monotonic => Int
  | .segment => String
  | .sleep _ | .saveWindow _ => Unit
  | .openWindow _ => WindowPayload
  | .sample _ => Observed

/-- A program of a runner. -/
def WindowProg (α : Type) : Type := Prog WindowQuery WindowQuery.Answer α

instance : Monad WindowProg := inferInstanceAs (Monad (Prog WindowQuery WindowQuery.Answer))

namespace ObservationWindow

def clock : WindowProg Int := Prog.ask WindowQuery.clock
def monotonic : WindowProg Int := Prog.ask WindowQuery.monotonic
def uuid4 : WindowProg String := Prog.ask WindowQuery.segment
def sleep (duration : Int) : WindowProg Unit := Prog.ask (WindowQuery.sleep duration)

def storeOpen (initial : WindowPayload) : WindowProg WindowPayload :=
  Prog.ask (WindowQuery.openWindow initial)

def storeSave (payload : WindowPayload) : WindowProg Unit :=
  Prog.ask (WindowQuery.saveWindow payload)

def sample (seconds : Int) : WindowProg Observed := Prog.ask (WindowQuery.sample seconds)

/-- The payload with which a window is opened first. -/
def initial (policy : ObservationPolicy) (started : Int) : WindowPayload where
  policy := policy
  startedAt := started
  deadline := started + policy.totalSeconds
  resourceDeadline := started + policy.resourceSeconds
  businessDeadline := none
  samples := []
  consecutive := 0
  status := .running
  target := none
  lastResult := none
  reason := none
  finishedAt := none

/-- A new segment: the streak starts again, and the samples that a crash left in flight are
interrupted. -/
def resumed (w : WindowPayload) : WindowPayload :=
  { w with
    consecutive := 0
    samples := w.samples.map fun x =>
      if x.status = .sampling then { x with status := .interrupted } else x }

/-- `window["business_deadline"] or window["resource_deadline"]`. -/
def phaseDeadline (w : WindowPayload) : Int :=
  match w.businessDeadline with
  | some b => if b = 0 then w.resourceDeadline else b
  | none => w.resourceDeadline

/-- What is left of the three deadlines, at two readings of the wall clock and one of the
monotonic clock. -/
def left (w : WindowPayload) (monoDeadline now now' mono : Int) : Int :=
  min (min (w.deadline - now) (phaseDeadline w - now')) (monoDeadline - mono)

/-- `remaining()`. -/
def remaining (w : WindowPayload) (monoDeadline : Int) : WindowProg Int := do
  let now ← clock
  let now' ← clock
  let mono ← monotonic
  pure (left w monoDeadline now now' mono)

/-- The wait before a sample: the gap is measured from the end of the previous one. -/
def pause (w : WindowPayload) (monoDeadline : Int) : WindowProg Unit :=
  match w.samples.getLast? with
  | none => pure ()
  | some last => do
    let fallback ← clock
    let now ← clock
    let delay := max 0 (last.finishedEpoch.getD fallback + w.policy.intervalSeconds - now)
    let rest ← remaining w monoDeadline
    sleep (min delay (max 0 rest))

/-- The item of a sample that begins. -/
def begun (w : WindowPayload) (segment : String) (now : Int) : Sample where
  sequence := w.samples.length + 1
  segment := segment
  startedEpoch := now
  finishedEpoch := none
  status := .sampling
  resourceStatus := none
  businessStatus := none
  target := none
  errorCode := none

/-- The item of a sample that has returned. -/
def ended (item : Sample) (o : Observed) (finished : Int) : Sample :=
  { item with
    finishedEpoch := some finished
    status := o.status
    resourceStatus := o.resourceStatus
    businessStatus := o.businessStatus
    target := o.target
    errorCode := o.errorCode }

/-- Whether a sample counts as passed. -/
def passes (o : Observed) : Bool :=
  o.status = .passed && o.resourceStatus = some .ready && o.businessStatus = some .passed &&
    o.target.isSome

/-- The first sample that finds the resources ready fixes the business deadline, from its own
start. -/
def charged (w : WindowPayload) (started : Int) : WindowPayload :=
  { w with businessDeadline := some (min w.deadline (started + w.policy.businessSeconds)) }

/-- The verdict on a sample. -/
def judged (w : WindowPayload) (o : Observed) (late : Bool) : WindowPayload :=
  if o.invalidated = true ∨ ∃ t ∈ o.target, ∃ u ∈ w.target, t ≠ u then
    { w with status := .invalidated, reason := some "TARGET_CHANGED", consecutive := 0 }
  else if late = true then
    { w with status := .unknown, reason := some "DEADLINE_EXCEEDED", consecutive := 0 }
  else
    let w := { w with
      target := o.target.or w.target
      consecutive := if passes o then w.consecutive + 1 else 0 }
    if w.policy.requiredConsecutive ≤ w.consecutive then
      { w with status := .passed, reason := some "CONSECUTIVE_SAMPLES_PASSED" }
    else w

/-- Whether a sample came too late, and the window with the deadline that it may have fixed. -/
def lateness (w : WindowPayload) (monoDeadline started : Int) (o : Observed) :
    WindowProg (WindowPayload × Bool) := do
  let rest ← remaining w monoDeadline
  if o.resourceStatus = some .ready ∧ w.businessDeadline = none then
    if rest ≤ 0 then pure (charged w started, true)
    else do
      let rest ← remaining (charged w started) monoDeadline
      pure (charged w started, decide (rest ≤ 0))
  else pure (w, decide (rest ≤ 0))

/-- One turn of the loop: a sample is announced, taken and judged. -/
def observe (w : WindowPayload) (monoDeadline : Int) (segment : String) :
    WindowProg WindowPayload := do
  let now ← clock
  let item := begun w segment now
  let announced := { w with samples := w.samples ++ [item] }
  -- The window is persisted before anything is read from outside.
  storeSave announced
  let rest ← remaining announced monoDeadline
  let o ← sample (max 0 (min rest w.policy.businessSeconds))
  let finished ← clock
  let taken := { w with
    samples := w.samples ++ [ended item o finished]
    lastResult := o.result }
  let (charged, late) ← lateness taken monoDeadline now o
  let verdict := judged charged o late
  let verdict := if verdict.status = .running then verdict
    else { verdict with finishedAt := some finished }
  storeSave verdict
  pure verdict

/-- The loop, with what is left of `max_samples`. -/
def loop (monoDeadline : Int) (segment : String) : Nat → WindowPayload → WindowProg WindowPayload
  | 0, w => pure w
  | n + 1, w => do
    let rest ← remaining w monoDeadline
    if rest ≤ 0 then pure w
    else do
      pause w monoDeadline
      let rest ← remaining w monoDeadline
      if rest ≤ 0 then pure w
      else do
        let w ← observe w monoDeadline segment
        if w.status = .running then loop monoDeadline segment n w else pure w

/-- The window when the loop is over. -/
def settled (w : WindowPayload) : WindowPayload :=
  if w.status = .running then
    { w with status := .unknown, reason := some "INSUFFICIENT_STABLE_SAMPLES" }
  else w

/-- `ObservationWindow.run`. -/
def run (policy : ObservationPolicy) : WindowProg (Except String WindowPayload) := do
  let started ← clock
  let w ← storeOpen (initial policy started)
  if w.status ≠ .running then pure (.ok w)
  else if w.policy.version ≠ policyVersion then
    pure (.error "UNSUPPORTED_VERIFICATION_POLICY")
  else do
    let segment ← uuid4
    let w := resumed w
    storeSave w
    let mono ← monotonic
    let now ← clock
    let monoDeadline := mono + max 0 (w.deadline - now)
    let w ← loop monoDeadline segment (w.policy.maxSamples - w.samples.length) w
    let w := settled w
    let now ← clock
    let w := { w with finishedAt := some now }
    storeSave w
    pure (.ok w)

end ObservationWindow

/-! ### The world of the runners -/

/-- A runner of a window: its store, with the key, the token and the lease of the run if there
is one, its policy, and the latest readings of its clocks. -/
structure Runner where
  key : String
  incidentId : String
  token : String
  lease : Option Lease
  policy : ObservationPolicy
  wall : Int
  mono : Int
  /-- Whether the runner has opened its window. -/
  opened : Bool

/-- The world of the runners: the database, the samples that were announced and have not
begun, each under its key and the token of its runner, and those that have begun, under their
keys. These two, and the tokens that have opened a window, are a history that no program
reads. -/
structure Observatory where
  db : Db
  tokens : List String
  announced : List (String × String)
  sampled : List String

/-- What the world chooses in a transaction. -/
structure WindowChoice where
  tx : Tx
  delayedId : String

/-- The window of a key. -/
def Db.window? (db : Db) (key : String) : Option Window :=
  db.windows.find? fun w => w.observationKey = key

/-- The number of samples of the window of a key. -/
def Db.sampleCount (db : Db) (key : String) : Nat :=
  (db.window? key).elim 0 fun w => w.payload.samples.length

/-- **What a query of a runner does**, if the world may answer so. -/
def Runner.perform (c : WindowChoice) (s : Observatory) (l : Runner) :
    (q : WindowQuery) → q.Answer → Option (Observatory × Runner)
  | .clock, (now : Int) => if l.wall ≤ now then some (s, { l with wall := now }) else none
  | .monotonic, (now : Int) => if l.mono ≤ now then some (s, { l with mono := now }) else none
  | .segment, _ => some (s, l)
  | .sleep duration, _ => some (s,
      { l with wall := l.wall + max 0 duration, mono := l.mono + max 0 duration })
  | .openWindow initial, (payload : WindowPayload) =>
    match openWindow c.tx l.lease l.key l.incidentId l.token initial s.db with
    | .ok (saved, db) =>
      if payload = saved then
        some ({ s with db := db, tokens := l.token :: s.tokens }, { l with opened := true })
      else none
    | .error _ => none
  | .saveWindow payload, _ =>
    match saveWindow c.tx l.lease l.key l.incidentId l.token c.delayedId payload s.db with
    | .ok db => some ({ s with
        db := db
        announced := if s.db.sampleCount l.key < payload.samples.length then
          (l.key, l.token) :: s.announced else s.announced }, l)
    | .error _ => none
  | .sample _, _ => some ({ s with
      announced := s.announced.erase (l.key, l.token)
      sampled := l.key :: s.sampled }, l)

end IncidentAgent
