import IncidentAgent.Lib.Json

/-!
# Observation windows

The persisted value of an observation: the policy it runs under, the samples taken so
far, how many of them passed in a row, and the verdict. The fields are those that
`ObservationWindow.run` of `agent/observation.py` reads and sets; the moments of a sample
are readings of the wall clock of the process that took it.
-/

namespace IncidentAgent

/-- `POLICY` of an observation. -/
structure ObservationPolicy where
  version : String
  resourceSeconds : Int
  businessSeconds : Int
  totalSeconds : Int
  intervalSeconds : Int
  requiredConsecutive : Nat
  maxSamples : Nat
  deriving DecidableEq, Inhabited

/-- `identity(profile, evidence)`: what an observation is about. -/
structure ObservationTarget where
  digest : Json
  deploymentUid : Json
  deploymentGeneration : Json
  serviceUid : Json
  selector : Json
  ports : Json
  deriving DecidableEq, Inhabited

/-- The status of a sample. -/
inductive SampleStatus
  | sampling
  | interrupted
  | passed
  | failed
  | unknown
  deriving DecidableEq, Inhabited

/-- `resource_status` of a sample. -/
inductive ResourceStatus
  | ready
  | notReady
  | unknown
  deriving DecidableEq, Inhabited

/-- `business_status` of a sample. -/
inductive BusinessStatus
  | passed
  | failed
  | unknown
  | skipped
  deriving DecidableEq, Inhabited

/-- One item of `window["samples"]`. -/
structure Sample where
  sequence : Nat
  segment : String
  startedEpoch : Int
  finishedEpoch : Option Int
  status : SampleStatus
  resourceStatus : Option ResourceStatus
  businessStatus : Option BusinessStatus
  target : Option ObservationTarget
  errorCode : Option String
  deriving DecidableEq, Inhabited

/-- `window["status"]`. -/
inductive WindowStatus
  | running
  | passed
  | unknown
  | invalidated
  deriving DecidableEq, Inhabited

/-- The payload of an observation window. -/
structure WindowPayload where
  policy : ObservationPolicy
  startedAt : Int
  deadline : Int
  resourceDeadline : Int
  businessDeadline : Option Int
  samples : List Sample
  consecutive : Nat
  status : WindowStatus
  target : Option ObservationTarget
  lastResult : Option Json
  reason : Option String
  finishedAt : Option Int
  deriving DecidableEq, Inhabited

end IncidentAgent
