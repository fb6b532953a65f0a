import Delivery.Duration
import Delivery.Failure.Kind
import Delivery.Failure.Description

/-!
# Failures around dead letters
-/

namespace Delivery

inductive DeadLetterError where
  | storage (operation target : String) (source : Description)
  | timeout (operation target : String) (after : Duration)
  | configuration (reason : String)
  | noReplayHandler
  | serialization (reason : String)
  | unknownReason (text : String)
  deriving DecidableEq, Repr

namespace DeadLetterError

def message : DeadLetterError → String
  | .storage operation target source =>
    "Dead-letter " ++ operation ++ " failed for " ++ target ++ ": " ++ source.message
  | .timeout operation target after =>
    "Dead-letter " ++ operation ++ " for " ++ target ++ " timed out after " ++ after.text
  | .configuration reason => "Invalid dead-letter configuration: " ++ reason
  | .noReplayHandler => "No replay handler configured"
  | .serialization reason => "Serialization error: " ++ reason
  | .unknownReason text => "Unknown dead-letter reason: " ++ text

def isTransient : DeadLetterError → Bool
  | .storage _ _ _ | .timeout _ _ _ => true
  | _ => false

instance : Classified DeadLetterError where
  kind
    | .storage _ _ _ => .connection
    | .timeout _ _ _ => .timeout
    | .configuration _ | .noReplayHandler => .validation
    | .serialization _ | .unknownReason _ => .deserialization

def diagnostic : DeadLetterError → String
  | .storage operation target source =>
    Text.record "Storage" [("operation", Text.quoted operation), ("target", Text.quoted target),
      ("source", source.diagnostic)]
  | .timeout operation target after =>
    Text.record "Timeout" [("operation", Text.quoted operation), ("target", Text.quoted target),
      ("after", after.text)]
  | .configuration reason => Text.variant "Configuration" (Text.quoted reason)
  | .noReplayHandler => "NoReplayHandler"
  | .serialization reason => Text.variant "Serialization" (Text.quoted reason)
  | .unknownReason text => Text.variant "UnknownReason" (Text.quoted text)

instance : Describable DeadLetterError where
  describe e :=
    { message := e.message
      diagnostic := e.diagnostic
      causes := match e with
        | .storage _ _ source => source.asCauses
        | _ => [] }

end DeadLetterError

end Delivery
