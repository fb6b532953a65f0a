import Delivery.Duration
import Delivery.Text.Record
import Delivery.Settings.Error

/-!
# Settings of a circuit breaker
-/

namespace Delivery

structure BreakerSettings where
  enabled : Bool := true
  failureThreshold : Nat := 5
  openDurationMs : Nat := 30000
  successThreshold : Nat := 1
  deriving DecidableEq, Repr, Inhabited

namespace BreakerSettings

def openDuration (s : BreakerSettings) : Duration := .ofMillis s.openDurationMs

def validate (s : BreakerSettings) : Except SettingsError Unit :=
  if s.failureThreshold = 0 then .error (.invalid "failure_threshold" "must be at least 1")
  else if s.successThreshold = 0 then .error (.invalid "success_threshold" "must be at least 1")
  else if s.openDurationMs = 0 then .error (.invalid "open_duration_ms" "must be greater than zero")
  else .ok ()

def diagnostic (s : BreakerSettings) : String :=
  Text.record "CircuitBreakerConfig"
    [("enabled", Text.yesNo s.enabled), ("failure_threshold", toString s.failureThreshold),
     ("open_duration_ms", toString s.openDurationMs),
     ("success_threshold", toString s.successThreshold)]

theorem validate_eq_ok_iff (s : BreakerSettings) :
    s.validate = .ok () ↔
      0 < s.failureThreshold ∧ 0 < s.successThreshold ∧ 0 < s.openDurationMs := by
  unfold validate
  split
  · simp only [reduceCtorEq, false_iff]; omega
  · split
    · simp only [reduceCtorEq, false_iff]; omega
    · split
      · simp only [reduceCtorEq, false_iff]; omega
      · simp only [true_iff]; omega

end BreakerSettings

end Delivery
