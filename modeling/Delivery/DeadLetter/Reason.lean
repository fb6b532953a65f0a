/-!
# Reasons for dead-lettering
-/

namespace Delivery

inductive Reason where
  | maxRetriesExceeded
  | circuitBreakerOpen
  | deserializationFailed
  | handlerNotFound
  | validationFailed
  | manualRejection
  | messageExpired
  | authorizationFailed
  | unhandledException
  | poisonMessage
  | unknown
  deriving DecidableEq, Repr, Inhabited

namespace Reason

def all : List Reason :=
  [maxRetriesExceeded, circuitBreakerOpen, deserializationFailed, handlerNotFound, validationFailed,
   manualRejection, messageExpired, authorizationFailed, unhandledException, poisonMessage, unknown]

def text : Reason → String
  | maxRetriesExceeded => "MaxRetriesExceeded"
  | circuitBreakerOpen => "CircuitBreakerOpen"
  | deserializationFailed => "DeserializationFailed"
  | handlerNotFound => "HandlerNotFound"
  | validationFailed => "ValidationFailed"
  | manualRejection => "ManualRejection"
  | messageExpired => "MessageExpired"
  | authorizationFailed => "AuthorizationFailed"
  | unhandledException => "UnhandledException"
  | poisonMessage => "PoisonMessage"
  | unknown => "Unknown"

def sameLetters (a b : String) : Bool :=
  a.toList.map Char.toLower == b.toList.map Char.toLower

def read? (s : String) : Option Reason := all.find? fun r => sameLetters r.text s

theorem mem_all (r : Reason) : r ∈ all := by cases r <;> decide

theorem read?_text (r : Reason) : read? r.text = some r := by cases r <;> decide +kernel

end Reason

end Delivery
