import Delivery.Failure.Kind
import Delivery.Backoff.Strategy
import Delivery.Settings.Error

/-!
# Settings of a retry policy
-/

namespace Delivery

structure RetrySettings where
  enabled : Bool := true
  maxRetryAttempts : Nat := 3
  baseDelayMs : Nat := 200
  maxDelayMs : Nat := 30000
  backoffMultiplier : Double := .two
  jitterEnabled : Bool := true
  jitterFactor : Double := .ofDecimal false 2 (-1)
  -- Kinds that are retried; none means all but cancellations.
  retriableKinds : List Kind := []
  nonRetriableKinds : List Kind := []
  deriving DecidableEq

namespace RetrySettings

def baseDelay (s : RetrySettings) : Duration := .ofMillis s.baseDelayMs

def maxDelay (s : RetrySettings) : Duration := .ofMillis s.maxDelayMs

def backoffOptions (s : RetrySettings) : BackoffOptions where
  baseDelayMs := s.baseDelayMs
  maxDelayMs := some s.maxDelayMs
  multiplier := s.backoffMultiplier
  jitterEnabled := s.jitterEnabled
  jitterFactor := s.jitterFactor

def backoff (s : RetrySettings) : Except SettingsError BuiltBackoff :=
  (Strategy.exponential.build (some s.backoffOptions)).mapError .backoff

/-- Checks the number of attempts, then the two delays against each other, then the backoff. -/
def validate (s : RetrySettings) : Except SettingsError Unit := do
  if s.maxRetryAttempts = 0 then
    throw (.invalid "max_retry_attempts" "must be at least 1")
  if s.maxDelayMs < s.baseDelayMs then
    throw (.invalid "max_delay_ms" ("must not be lower than base_delay_ms (" ++
      toString s.maxDelayMs ++ " < " ++ toString s.baseDelayMs ++ ")"))
  discard s.backoff

end RetrySettings

end Delivery
