import Delivery.Caller
import Delivery.Failure.CallError
import Delivery.Settings.Retry

/-!
# Retrying

A call that fails is made again after a delay, up to a number of attempts, unless

* it was cancelled, or its failure is a cancellation: the call ends as cancelled,
* failures of its kind are not retried, or no attempt is left: the call ends with that failure,
* the caller asks to stop during the delay: the call ends as cancelled.

The first attempt is made even when the caller has already asked to stop.
-/

namespace Delivery

structure Retrying where
  maxAttempts : Nat
  backoff : Backoff
  -- The kinds that are retried; none means all.
  retriable : List Kind := []
  nonRetriable : List Kind := []

namespace Retrying

variable {m : Type → Type} {ε α : Type}

def create (maxAttempts : Nat) (backoff : Backoff) : Except SettingsError Retrying :=
  if maxAttempts = 0 then .error (.invalid "max_retry_attempts" "must be at least 1")
  else .ok { maxAttempts, backoff }

def ofSettings (s : RetrySettings) : Except SettingsError Retrying := do
  s.validate
  let p ← create s.maxRetryAttempts (← s.backoff).toBackoff
  return { p with retriable := s.retriableKinds, nonRetriable := s.nonRetriableKinds }

def isRetriable [Classified ε] (p : Retrying) (e : ε) : Bool :=
  !Classified.isCancellation e &&
  !p.nonRetriable.contains (Classified.kind e) &&
  (p.retriable.isEmpty || p.retriable.contains (Classified.kind e))

/-- The delay after an attempt; none when the backoff has none. -/
def delayAfter (p : Retrying) (attempt : Nat) (sample : Double) : Duration :=
  match p.backoff.delay attempt sample with
  | .ok d => d
  | .error _ => 0

def attempts [Monad m] [Classified ε] (p : Retrying) (caller : Caller m) (call : m (Except ε α)) :
    (attempt left : Nat) → m (Except (CallError ε) α)
  | attempt, left => do
    match ← call with
    | .ok value => return .ok value
    | .error e =>
      let stopped ← caller.cancelled
      if stopped || Classified.isCancellation e then return .error .cancelled
      if !p.isRetriable e then return .error (.operation e)
      match left with
      | 0 => return .error (.operation e)
      | left + 1 =>
        let cut ← caller.pause (p.delayAfter attempt (← caller.sample))
        if cut then return .error .cancelled
        p.attempts caller call (attempt + 1) left

def execute [Monad m] [Classified ε] (p : Retrying) (caller : Caller m) (call : m (Except ε α)) :
    m (Except (CallError ε) α) :=
  p.attempts caller call 1 (p.maxAttempts - 1)

def kindSet (kinds : List Kind) : String :=
  Text.braced (kinds.eraseDups.map fun k => Text.variant "ErrorKind" (Text.quoted k.tag))

def diagnostic (p : Retrying) : String :=
  Text.record "DefaultRetryPolicy"
    [("max_attempts", toString p.maxAttempts), ("backoff", p.backoff.diagnostic),
     ("retriable", kindSet p.retriable), ("non_retriable", kindSet p.nonRetriable)]

end Retrying

/-- How a call is made: once, or with retries. -/
inductive RetryPolicy where
  | once
  | retrying (p : Retrying)

namespace RetryPolicy

variable {m : Type → Type} {ε α : Type}

/-- Settings that are switched off, or that allow a single attempt, make a call once; they are not
checked then. -/
def ofSettings (s : RetrySettings) : Except SettingsError RetryPolicy :=
  if !s.enabled || s.maxRetryAttempts = 1 then .ok .once
  else (Retrying.ofSettings s).map .retrying

def maxAttempts : RetryPolicy → Nat
  | once => 1
  | retrying p => p.maxAttempts

def isRetriable [Classified ε] (policy : RetryPolicy) (e : ε) : Bool :=
  match policy with
  | once => false
  | retrying p => p.isRetriable e

/-- Makes a call once. A failure counts as a cancellation when the caller has asked to stop. -/
def executeOnce [Monad m] [Classified ε] (caller : Caller m) (call : m (Except ε α)) :
    m (Except (CallError ε) α) := do
  match ← call with
  | .ok value => return .ok value
  | .error e =>
    let stopped ← caller.cancelled
    if stopped || Classified.isCancellation e then return .error .cancelled
    return .error (.operation e)

def execute [Monad m] [Classified ε] (policy : RetryPolicy) (caller : Caller m)
    (call : m (Except ε α)) : m (Except (CallError ε) α) :=
  match policy with
  | once => executeOnce caller call
  | retrying p => p.execute caller call

def diagnostic : RetryPolicy → String
  | once => Text.variant "NoRetry" "NoRetryPolicy"
  | retrying p => Text.variant "Default" p.diagnostic

end RetryPolicy

end Delivery
