import IncidentAgent.Agent.Observation
import IncidentAgent.Lib.Raising
import IncidentAgent.Worker.Classify

/-!
# What a worker does under a lease

A worker that was granted a lease runs one program: it reads rows, sends transactions to the
store, enters the graph of the run or calls what an interaction depends on, and publishes what came
of it. Whatever it asks may raise, and it may be lost between any two queries.

`WorkerQuery` is what such a program asks. The model calls and the graph are queries of which
nothing is assumed, and so is the reading of the cluster by the recheck service: what is said of a
worker is said for all their answers. Most transactions are requests of the machine of the system.
-/

namespace IncidentAgent

/-! ### Errors -/

/-- An exception, as far as the worker tells them apart. -/
inductive WorkerError
  | leaseLost
  | unsafeRetry
  /-- Any other one, by its type and whether `transient` holds of it. -/
  | raised (errorType : String) (transient : Bool)
  deriving DecidableEq, Inhabited

/-- `transient(error)`. -/
def WorkerError.transient : WorkerError → Bool
  | .raised _ transient => transient
  | _ => false

/-- `type(error).__name__`. -/
def WorkerError.typeName : WorkerError → String
  | .leaseLost => "LeaseLost"
  | .unsafeRetry => "UnsafeRetry"
  | .raised errorType _ => errorType

/-- An exception with the value that `reading_checkpoint` has where it is handled. -/
structure WorkerFault where
  error : WorkerError
  reading : Bool
  deriving DecidableEq, Inhabited

/-- An exception that is neither handled specially nor transient. -/
def WorkerFault.of (errorType : String) : WorkerFault := ⟨.raised errorType false, false⟩

/-- How reading a malformed document fails. -/
def Halt.fault : Halt → WorkerFault
  | .raised errorType => .of errorType
  | .failed code | .reconciling code => .of code

/-! ### Queries -/

/-- The purpose of a model call. -/
inductive Purpose
  | route
  | explain
  deriving DecidableEq, Inhabited

def Purpose.text : Purpose → String
  | .route => "route"
  | .explain => "explain"

/-- What a model call is recorded with: `str(uuid4())`, `model.model_name` and the time. -/
structure CallStamp where
  id : String
  model : String
  startedAt : String
  deriving DecidableEq, Inhabited

/-- What a graph is invoked with. -/
inductive GraphInput
  /-- `Command(resume=value)`. -/
  | resume (value : Json)
  /-- `None`. -/
  | continued
  /-- The initial state, with the context of a round and the run that it is of. -/
  | initial (incidentId : String) (request : Json) (round : Option (Json × String))

/-- **What a worker asks** while it executes a lease. -/
inductive WorkerQuery
  /-- `lost.is_set()`. -/
  | isLost
  /-- A transaction of the store. -/
  | store (request : Request)
  /-- A transaction on the delayed recheck of the run, with the row that it leaves. -/
  | delayed (request : Request)
  | operation
  | progress
  | status
  | savedRecheck
  /-- The read of the target by which a write is reconciled. -/
  | readTarget (operation : Operation)
  /-- Reservations of the budget, by their tickets. -/
  | openActivity
  | closeActivity (ticket : String)
  | openStage (name : String) (seconds : Int)
  | closeStage (ticket : String) (completed : Bool)
  | openGraph
  | closeGraph
  | getState
  | acceptAnswer (answer question : Json)
  | invoke (input : GraphInput)
  /-- `model_factory()`, and the stamp of its call. -/
  | newCall (purpose : Purpose)
  | callModel (purpose : Purpose) (content : Json) (references : List Json)
  | elapsed
  /-- `collector_factory()`, and the checks of the recheck service before it collects. -/
  | target (state : Json)
  | collect (state : Json)
  /-- What the recheck service makes of a collection, or of none. -/
  | assess (state : Json) (note : String) (bundle : Option Json)
  /-- What is kept of a window that has ended, under a new identifier. -/
  | keep (note : String) (window : WindowPayload)
  | token
  | clock
  | monotonic
  | sleep (duration : Int)

/-- The answers, when nothing is raised. -/
@[reducible] def WorkerQuery.Answer : WorkerQuery → Type
  | .isLost => Bool
  | .store _ => Response
  | .delayed _ => DelayedRecheck
  | .operation => Option Operation
  | .progress | .status => Json
  | .savedRecheck => Option Json
  | .readTarget _ => ResourceSnapshot
  | .openActivity | .openStage _ _ | .token => String
  | .closeActivity _ | .closeStage _ _ | .openGraph | .closeGraph | .invoke _ | .target _
  | .sleep _ => Unit
  | .getState => Snapshot
  | .acceptAnswer _ _ => Json
  | .newCall _ => CallStamp
  | .callModel _ _ _ => Json × Json
  | .elapsed | .clock | .monotonic => Int
  | .collect _ => Json
  | .assess _ _ _ => String × Observed
  | .keep _ _ => String × Json

/-- **The queries that repeat work**: the graph is started, continued or resumed, a model is
called, or the cluster is sampled. -/
def WorkerQuery.Works : WorkerQuery → Prop
  | .acceptAnswer _ _ | .invoke _ | .callModel _ _ _ | .collect _ => True
  | _ => False

/-- A program of a worker. -/
abbrev WorkerProg (α : Type) : Type :=
  Act WorkerQuery (fun q => Except WorkerError q.Answer) WorkerFault α

/-! ### The programs that all workers share -/

namespace Worker

/-- A query, which raises outside of the reads of a checkpoint. -/
def ask (q : WorkerQuery) : WorkerProg q.Answer := Act.ask (fun error => ⟨error, false⟩) q

/-- `raise ValueError(…)`, and the other exceptions by which a worker gives up. -/
def give {α : Type} (errorType : String) : WorkerProg α := throw (WorkerFault.of errorType)

/-- What reading a document returns or raises. -/
def read {α : Type} (x : Except Halt α) : WorkerProg α := Act.ofExcept (x.mapError Halt.fault)

/-- `if condition: raise error`. -/
def giveIf (condition : Prop) [Decidable condition] (errorType : String) : WorkerProg Unit :=
  if condition then give errorType else pure ()

/-- `reading_checkpoint = True` for a part of the program. -/
def reading {α : Type} (p : WorkerProg α) : WorkerProg α :=
  tryCatch p fun fault => throw { fault with reading := true }

/-- A transaction whose answer nothing depends on. -/
def store (request : Request) : WorkerProg Unit := do
  let _ ← ask (.store request)
  pure ()

/-- The lock of the worker is not lost: `if self.lost.is_set(): raise LeaseLost`. -/
def unlost : WorkerProg Unit := do
  let lost ← ask .isLost
  if lost then throw ⟨.leaseLost, false⟩ else pure ()

/-- `owned()`. -/
def owned (lease : Lease) : WorkerProg Unit := do
  unlost
  store (.assertOwned lease)

/-- `with budget.stage(name, seconds)`. -/
def stage {α : Type} (name : String) (seconds : Int) (body : WorkerProg α) : WorkerProg α :=
  Act.within (ask (.openStage name seconds))
    (fun ticket completed => ask (.closeStage ticket completed)) body

/-- `with budget.activity()`. -/
def activity {α : Type} (body : WorkerProg α) : WorkerProg α :=
  Act.within (ask .openActivity) (fun ticket _ => ask (.closeActivity ticket)) body

/-! ### What they ask -/

section Avoids

variable {α : Type} {bad : WorkerQuery → Prop}

theorem avoids_ask {q : WorkerQuery} (hq : ¬ bad q) : (ask q).Avoids bad := Act.avoids_ask hq

theorem avoids_give (errorType : String) : (give errorType : WorkerProg α).Avoids bad :=
  Act.avoids_throw _

theorem avoids_read (x : Except Halt α) : (read x).Avoids bad := Act.avoids_ofExcept _

theorem avoids_giveIf (c : Prop) [Decidable c] (errorType : String) :
    (giveIf c errorType).Avoids bad :=
  Act.avoids_ite (fun _ => avoids_give _) fun _ => Act.avoids_pure _

theorem avoids_reading {p : WorkerProg α} (hp : p.Avoids bad) : (reading p).Avoids bad :=
  Act.avoids_tryCatch hp fun _ => Act.avoids_throw _

theorem avoids_store {request : Request} (h : ¬ bad (.store request)) :
    (store request).Avoids bad :=
  Act.avoids_bind (avoids_ask h) fun _ => Act.avoids_pure _

theorem avoids_unlost (h : ¬ bad .isLost) : unlost.Avoids bad :=
  Act.avoids_bind (avoids_ask h) fun _ =>
    Act.avoids_ite (fun _ => Act.avoids_throw _) fun _ => Act.avoids_pure _

theorem avoids_owned {lease : Lease} (hlost : ¬ bad .isLost)
    (hstore : ¬ bad (.store (.assertOwned lease))) : (owned lease).Avoids bad :=
  Act.avoids_bind (avoids_unlost hlost) fun _ => avoids_store hstore

theorem avoids_stage {name : String} {seconds : Int} {body : WorkerProg α}
    (henter : ¬ bad (.openStage name seconds)) (hleave : ∀ t b, ¬ bad (.closeStage t b))
    (hbody : body.Avoids bad) : (stage name seconds body).Avoids bad :=
  Act.avoids_within (avoids_ask henter) (fun _ _ => avoids_ask (hleave _ _)) hbody

theorem avoids_activity {body : WorkerProg α} (henter : ¬ bad .openActivity)
    (hleave : ∀ t, ¬ bad (.closeActivity t)) (hbody : body.Avoids bad) :
    (activity body).Avoids bad :=
  Act.avoids_within (avoids_ask henter) (fun _ _ => avoids_ask (hleave _)) hbody

end Avoids

end Worker

end IncidentAgent
