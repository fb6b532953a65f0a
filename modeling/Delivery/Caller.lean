import Delivery.Duration
import Delivery.Double.Basic

/-!
# Callers

A call is made for somebody who may ask it to stop, on a clock, with a source of chance. The rules
of retrying and of guarded calls need no more of their surroundings than this.
-/

namespace Delivery

structure Caller (m : Type → Type) where
  cancelled : m Bool
  -- Waits that long, or until the caller asks to stop; says whether that cut the wait short.
  pause : Duration → m Bool
  sample : m Double

end Delivery
