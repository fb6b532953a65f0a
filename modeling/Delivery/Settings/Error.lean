import Delivery.Backoff.Error

/-!
# Failures of settings
-/

namespace Delivery

inductive SettingsError where
  | invalid (field reason : String)
  | backoff (error : BackoffError)
  deriving DecidableEq, Repr

def SettingsError.message : SettingsError → String
  | invalid field reason => "Invalid configuration for " ++ field ++ ": " ++ reason
  | backoff error => error.message

end Delivery
