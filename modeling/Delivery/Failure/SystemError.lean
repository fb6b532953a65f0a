import Delivery.Failure.Kind
import Delivery.Failure.Description

/-!
# Failures of the operating system

Input and output fail under a condition that the system names. The conditions with a meaning for
delivery have a kind; all others are of unknown kind.
-/

namespace Delivery

structure SystemError where
  condition : String
  message : String
  deriving DecidableEq, Repr, Inhabited

namespace SystemError

def kinds : List (String × Kind) :=
  [("TimedOut", .timeout),
   ("ConnectionRefused", .connection), ("ConnectionReset", .connection),
   ("ConnectionAborted", .connection), ("NotConnected", .connection), ("BrokenPipe", .connection),
   ("Interrupted", .transient), ("WouldBlock", .transient),
   ("InvalidData", .deserialization), ("UnexpectedEof", .deserialization),
   ("InvalidInput", .validation), ("PermissionDenied", .authorization)]

instance : Classified SystemError where
  kind e := (kinds.lookup e.condition).getD .unknown

instance : Describable SystemError where
  describe e :=
    { message := e.message
      diagnostic := Text.record "Custom" [("kind", e.condition), ("error", Text.quoted e.message)] }

end SystemError

end Delivery
