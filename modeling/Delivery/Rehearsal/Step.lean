import Delivery.Courier
import Delivery.Registry

/-!
# Steps of a rehearsal

A rehearsal goes through steps, and each step has a result. Calls that are made on the way end as
they are scripted: after further steps, after some time, with a value or a failure. Values are of a
type `ν` that does not matter here.
-/

namespace Delivery.Rehearsal

/-- A failure as it is scripted. It may say itself whether it counts as a cancellation. -/
structure ScriptedFailure where
  error : TransportError
  cancellation : Option Bool := none
  deriving DecidableEq, Repr, Inhabited

instance : Classified ScriptedFailure where
  kind e := e.error.kind
  isCancellation e := e.cancellation.getD (Classified.isCancellation e.error)

instance : Describable ScriptedFailure where
  describe e := describe e.error

structure Outcome (step ν : Type) where
  during : List step := []
  sleep : Option Duration := none
  observe : Bool := false
  cancel : Bool := false
  result : Except ScriptedFailure ν

inductive IdRef where
  | literal (id : EntryId)
  | shown (index : Nat)
  deriving DecidableEq, Repr

inductive BreakerStep where
  | state
  | name
  | stats
  | acquire
  | success
  | failure (e : Option ScriptedFailure)
  | reset
  | debug
  | subscribe (label : Option String)
  | unsubscribe (index : Nat)
  deriving DecidableEq, Repr

inductive RegistryStep where
  | get (name : String) (settings : Option BreakerSettings)
  | find (name : String)
  | remove (name : String)
  | states
  | names
  | size
  | resetAll
  | debug
  | subscribeAll (label : Option String)
  | unsubscribeAll (index : Nat)
  deriving DecidableEq, Repr

inductive DeadLetterStep where
  | enqueue (message : Message) (reason : Reason) (failure : Option ScriptedFailure)
      (metadata : Metadata)
  | get (id : IdRef)
  | entries (f : Filter)
  | ids (f : Filter)
  | count (f : Filter)
  | countByReason
  | purge (cutoff : Timestamp) (replayedOnly : Bool)
  | purgeExpired
  | plan
  | insert (e : Entry)
  | claim (id : IdRef)
  | mark (id : IdRef) (time : Timestamp)
  | release (id : IdRef)
  | size
  | requests
  | handler
  deriving DecidableEq, Repr

inductive Step (ν : Type) where
  | now
  | advance (d : Duration)
  | sleep (d : Duration)
  | giveWay
  | again (times : Nat) (step : Step ν)
  | within (d : Duration) (step : Step ν)
  | together (steps : List (Step ν))
  | breaker (handle : Nat) (step : BreakerStep)
  | execute (handle : Nat) (cancelled : Bool) (outcome : Outcome (Step ν) ν)
  | registry (step : RegistryStep)
  | deadLetters (step : DeadLetterStep)
  | replay (id : IdRef)
  | replayBatch (f : Filter)
  -- Begins a replay and drops it where it first waits, with nobody to look after its claim.
  | abandon (id : IdRef)
  | servePurge (advances : List Duration)
  | deliver (transport : String) (message : Message) (script : List (Outcome (Step ν) ν))
      (cancelled : Bool) (cancelAfter : Option Duration)

abbrev CallOutcome (ν : Type) := Outcome (Step ν) ν

inductive Result (ν : Type) where
  | nothing
  | instant (t : Instant)
  | number (n : Nat)
  | truth (b : Bool)
  | text (s : String)
  | texts (s : List String)
  | size (n : Nat)
  | state (s : CircuitState)
  | stats (s : CircuitStats)
  | admission (refusal : Option CircuitOpen)
  | call (r : Except (CallError ScriptedFailure) ν)
  | breaker (handle : Nat) (name : String)
  | states (s : List (String × CircuitState))
  | registryError (e : RegistryError)
  | deadLetterError (e : DeadLetterError)
  | id (id : EntryId)
  | ids (ids : List EntryId)
  | entry (e : Option Entry)
  | entries (es : List Entry)
  | counts (counts : List (Reason × Nat))
  | plan (p : Option RetentionPlan)
  | handler (present : Bool)
  | abandoned (finished : Bool)
  -- How many dead letters there were after each advance, whether the loop had ended by itself, and
  -- whether it could run.
  | purgeLoop (sizes : List Nat) (finishedEarly ran : Bool)
  | delivery (r : Except DeliveryError DeliveryOutcome)
  | timed (r : Option (Result ν))
  | several (rs : List (Result ν))

inductive Event (ν : Type) where
  | change (listener : String) (c : StateChange)
  | published (transport : String) (message : Message) (time : Instant)
  | replayed (message : Message) (time : Instant)
  | during (r : Result ν)

def Result.shownIds {ν : Type} : Result ν → List EntryId
  | .id i => [i]
  | .ids is => is
  | .entry e => e.toList.map (·.id)
  | .entries es => es.map (·.id)
  | .delivery (.ok (.deadLettered i _)) => [i]
  | _ => []

end Delivery.Rehearsal
