import Delivery.Caller
import Delivery.Breaker.Basic

/-!
# Guarded calls

A call through a breaker asks for admission first. The breaker hears how an admitted call ended,
unless it was cancelled, which says nothing about the health of the transport.
-/

namespace Delivery

structure Gate (m : Type → Type) where
  acquire : m (Except CircuitOpen Unit)
  recordSuccess : m Unit
  recordFailure : Incident → m Unit

namespace Gate

variable {m : Type → Type} {ε α : Type}

def ofServe [Monad m] (serve : BreakerRequest → m BreakerAnswer) : Gate m where
  acquire := do
    match ← serve .acquire with
    | .refused e => return .error e
    | _ => return .ok ()
  recordSuccess := discard (serve .recordSuccess)
  recordFailure incident := discard (serve (.recordFailure (some incident)))

def guard [Monad m] [Classified ε] [Describable ε] (gate : Gate m) (caller : Caller m)
    (call : m (Except ε α)) : m (Except (CallError ε) α) := do
  match ← gate.acquire with
  | .error refusal => return .error (.circuitOpen refusal)
  | .ok () =>
    match ← call with
    | .ok value =>
      gate.recordSuccess
      return .ok value
    | .error e =>
      let stopped ← caller.cancelled
      if Classified.isCancellation e || stopped then return .error .cancelled
      gate.recordFailure (.ofFailure e)
      return .error (.operation e)

end Gate

end Delivery
