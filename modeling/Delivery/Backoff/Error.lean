/-!
# Failures of backoff settings
-/

namespace Delivery

inductive BackoffError where
  | outOfRange (parameter reason : String)
  | unknownStrategy (tag : String)
  | missingOptions
  deriving DecidableEq, Repr

namespace BackoffError

def message : BackoffError → String
  | outOfRange parameter reason => parameter ++ " is out of range: " ++ reason
  | unknownStrategy tag => "Unknown backoff strategy: " ++ tag
  | missingOptions => "Backoff options are required"

end BackoffError

end Delivery
