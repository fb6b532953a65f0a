import Delivery.Retry
import Delivery.Breaker.Gate
import Delivery.Failure.TransportError
import Delivery.DeadLetter.Queue
import Delivery.Settings.Registry

/-!
# The courier

The courier publishes a message on a transport. Every attempt goes through the breaker of the
transport, and the attempts follow the retry policy; an attempt that an open circuit refuses is
retried like one that failed. A message that could not be delivered becomes a dead letter, with a
reason that follows from its last failure. A delivery that was cancelled leaves nothing behind.
-/

namespace Delivery

/-! ### Outcomes -/

inductive DeliveryOutcome where
  | delivered (attempts : Nat)
  | deadLettered (id : EntryId) (reason : Reason)
  deriving DecidableEq, Repr

inductive DeliveryError where
  | cancelled
  | registry (error : RegistryError)
  | settings (error : SettingsError)
  | deadLetter (error : DeadLetterError)
  deriving DecidableEq, Repr

namespace DeliveryError

def message : DeliveryError → String
  | cancelled => "Dispatch cancelled"
  | registry e => e.message
  | settings e => e.message
  | deadLetter e => "Failed to dead-letter message: " ++ e.message

def isCancelled : DeliveryError → Bool
  | cancelled => true
  | _ => false

end DeliveryError

/-! ### Reasons -/

namespace Reason

def ofKinds : List (Kind × Reason) :=
  [(.validation, validationFailed), (.deserialization, deserializationFailed),
   (.authorization, authorizationFailed), (.handlerNotFound, handlerNotFound),
   (.expired, messageExpired), (.poison, poisonMessage), (.circuitOpen, circuitBreakerOpen)]

/-- The reason for a failure of a kind. One that has no reason of its own ran out of attempts if
such failures are retried. -/
def ofKind (k : Kind) (retriable : Bool) : Reason :=
  (ofKinds.lookup k).getD (if retriable then maxRetriesExceeded else unhandledException)

end Reason

/-! ### Delivering -/

namespace Caller

variable {m : Type → Type} [Monad m] {σ : Type}

def lift (c : Caller m) : Caller (StateT σ m) where
  cancelled := StateT.lift c.cancelled
  pause d := StateT.lift (c.pause d)
  sample := StateT.lift c.sample

end Caller

namespace Gate

variable {m : Type → Type} [Monad m] {σ : Type}

def lift (g : Gate m) : Gate (StateT σ m) where
  acquire := StateT.lift g.acquire
  recordSuccess := StateT.lift g.recordSuccess
  recordFailure incident := StateT.lift (g.recordFailure incident)

end Gate

structure Transport (m : Type → Type) where
  name : String
  publish : Message → m (Except TransportError Unit)

/-- A retry policy, the breakers of the transports, and a queue for what is not delivered. -/
structure Courier (m : Type → Type) where
  retry : RetryPolicy
  gate : String → m (Except RegistryError (Gate m))
  deadLetters : DeadLetterQueue m

namespace Courier

variable {m : Type → Type} [Monad m]

/-- Publishes a message until it is taken or the policy gives up. Counts the publications. -/
def publish (c : Courier m) (caller : Caller m) (gate : Gate m) (t : Transport m)
    (message : Message) : m (Except (CallError TransportError) Unit × Nat) := do
  let counted : StateT Nat m (Except TransportError Unit) := do
    modify (· + 1)
    StateT.lift (t.publish message)
  let (result, count) ←
    (c.retry.execute caller.lift (gate.lift.guard caller.lift counted)).run 0
  return (result.mapError CallError.flatten, count)

def deadLetter (c : Courier m) (t : Transport m) (message : Message) (count : Nat)
    (failure : CallError TransportError) : ExceptT DeadLetterError m DeliveryOutcome := do
  let k := Classified.kind failure
  let reason := Reason.ofKind k (c.retry.isRetriable failure)
  let archived := { message with attempts := addCounts message.attempts count }
  let metadata := Metadata.ofList [("transport", t.name), ("error_kind", k.tag)]
  let id ← c.deadLetters.enqueue archived reason (some (.capture failure)) metadata
  return .deadLettered id reason

def deliver (c : Courier m) (caller : Caller m) (t : Transport m) (message : Message) :
    m (Except DeliveryError DeliveryOutcome) := do
  match ← c.gate t.name with
  | .error e => return .error (.registry e)
  | .ok gate =>
    let (result, count) ← c.publish caller gate t message
    match result with
    | .ok () => return .ok (.delivered count)
    | .error .cancelled => return .error .cancelled
    | .error failure =>
      let stored ← (c.deadLetter t message count failure).run
      return stored.mapError .deadLetter

end Courier

end Delivery
