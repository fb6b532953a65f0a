import Delivery.Settings.Logging
import Delivery.Settings.Retry
import Delivery.Settings.Registry
import Delivery.DeadLetter.Settings

/-!
# Settings of a courier
-/

namespace Delivery

structure CourierSettings where
  logging : LogSettings := {}
  retry : RetrySettings := {}
  breakers : RegistrySettings := {}
  deadLetters : DeadLetterSettings := .memory
  deriving DecidableEq

end Delivery
