import Delivery.Duration
import Delivery.Double.Text
import Delivery.Text.Record
import Delivery.Backoff.Error

/-!
# Backoff

The delay before the next attempt grows with the number of attempts made so far: not at all, by the
same amount each time, or by the same factor each time. The last kind works in binary64 numbers of
nanoseconds and can be spread at random over a window around its value; a sample from nought to one
says where in the window the delay falls.
-/

namespace Delivery

/-- The delay after each attempt. A sample from nought to one stands for chance. -/
structure Backoff where
  delay : (attempt : Nat) → (sample : Double) → Except BackoffError Duration
  diagnostic : String

namespace Backoff

def defaultMaxDelay : Duration := Duration.ofMinutes 30

def checkAttempt (attempt : Nat) : Except BackoffError Unit :=
  if attempt = 0 then .error (.outOfRange "attempt" "must be at least 1") else .ok ()

def checkPositive (parameter : String) (d : Duration) : Except BackoffError Unit :=
  if d = 0 then .error (.outOfRange parameter "must be greater than zero") else .ok ()

end Backoff

/-! ### Fixed -/

structure FixedBackoff where
  period : Duration
  deriving DecidableEq, Repr

namespace FixedBackoff

def create (period : Duration) : Except BackoffError FixedBackoff := do
  Backoff.checkPositive "delay" period
  return ⟨period⟩

def delay (b : FixedBackoff) (attempt : Nat) : Except BackoffError Duration := do
  Backoff.checkAttempt attempt
  return b.period

def toBackoff (b : FixedBackoff) : Backoff where
  delay attempt _ := b.delay attempt
  diagnostic := Text.record "FixedBackoff" [("delay", b.period.text)]

end FixedBackoff

/-! ### Linear -/

structure LinearBackoff where
  base : Duration
  maxDelay : Duration
  deriving DecidableEq, Repr

namespace LinearBackoff

def create (base : Duration) (maxDelay : Option Duration) : Except BackoffError LinearBackoff := do
  Backoff.checkPositive "base_delay" base
  let cap := maxDelay.getD Backoff.defaultMaxDelay
  Backoff.checkPositive "max_delay" cap
  return ⟨base, cap⟩

def delay (b : LinearBackoff) (attempt : Nat) : Except BackoffError Duration := do
  Backoff.checkAttempt attempt
  return match b.base.times? attempt with
    | some d => min d b.maxDelay
    | none => b.maxDelay

def toBackoff (b : LinearBackoff) : Backoff where
  delay attempt _ := b.delay attempt
  diagnostic := Text.record "LinearBackoff"
    [("base", b.base.text), ("max_delay", b.maxDelay.text)]

end LinearBackoff

/-! ### Exponential -/

/-- A delay that grows by a factor with every attempt, up to a cap, with or without jitter. -/
structure ExponentialBackoff where
  base : Duration
  maxDelay : Duration
  multiplier : Double
  jitter : Option Double := none
  deriving DecidableEq

namespace ExponentialBackoff

/-- The largest exponent that is used; larger attempts have the delay of this one. -/
def exponentLimit : Nat := Nat.pow 2 31 - 1

def create (base maxDelay : Duration) (multiplier : Double) :
    Except BackoffError ExponentialBackoff := do
  Backoff.checkPositive "base_delay" base
  Backoff.checkPositive "max_delay" maxDelay
  if !multiplier.isFinite || multiplier.lt .one then
    throw (.outOfRange "multiplier"
      ("must be a finite value of at least 1.0, got " ++ multiplier.text .plain))
  return { base, maxDelay, multiplier }

def withJitter (b : ExponentialBackoff) (factor : Double) :
    Except BackoffError ExponentialBackoff := do
  if Double.zero.le factor && factor.le .one then
    return { b with jitter := some factor }
  throw (.outOfRange "jitter_factor" ("must be within [0, 1], got " ++ factor.text .plain))

def rawNanos (b : ExponentialBackoff) (attempt : Nat) : Double :=
  (Double.ofNat b.base).mul (b.multiplier.power (min (attempt - 1) exponentLimit))

def spread (factor sample : Double) : Double :=
  Double.fma (Double.two.mul factor) sample.clampUnit (Double.one.sub factor)

def capped (b : ExponentialBackoff) (nanos : Double) : Duration :=
  if !nanos.isFinite || (Double.ofNat b.maxDelay).le nanos then b.maxDelay else nanos.toWord

/-- The delay after an attempt, where the sample says. A half is the middle of the window. -/
def delay (b : ExponentialBackoff) (attempt : Nat) (sample : Double) :
    Except BackoffError Duration := do
  Backoff.checkAttempt attempt
  let raw := b.rawNanos attempt
  let nanos := match b.jitter with
    | some factor => if Double.zero.lt factor then raw.mul (spread factor sample) else raw
    | none => raw
  return b.capped nanos

def toBackoff (b : ExponentialBackoff) : Backoff where
  delay := b.delay
  diagnostic := Text.record "ExponentialBackoff"
    [("base", b.base.text), ("max_delay", b.maxDelay.text),
     ("multiplier", b.multiplier.text .diagnostic),
     ("jitter", Text.optional (b.jitter.map (·.text .diagnostic)))]

end ExponentialBackoff

end Delivery
