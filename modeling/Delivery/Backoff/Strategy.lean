import Delivery.Unicode.Lowercase
import Delivery.Double.Decimal
import Delivery.Backoff.Calculator

/-!
# Backoff strategies

A strategy is chosen by a tag, in one of several spellings, and becomes a backoff together with
options.
-/

namespace Delivery

inductive Strategy where
  | fixed
  | linear
  | exponential
  | exponentialWithJitter
  deriving DecidableEq, Repr, Inhabited

namespace Strategy

def text : Strategy → String
  | fixed => "fixed"
  | linear => "linear"
  | exponential => "exponential"
  | exponentialWithJitter => "exponential_with_jitter"

def name : Strategy → String
  | fixed => "Fixed"
  | linear => "Linear"
  | exponential => "Exponential"
  | exponentialWithJitter => "ExponentialWithJitter"

def all : List Strategy := [fixed, linear, exponential, exponentialWithJitter]

def spellings : List (String × Strategy) :=
  [("fixed", fixed), ("constant", fixed), ("fixeddelay", fixed),
   ("linear", linear), ("linearbackoff", linear),
   ("exponential", exponential), ("exponentialbackoff", exponential),
   ("exponentialwithjitter", exponentialWithJitter), ("jitter", exponentialWithJitter),
   ("exponentialjitter", exponentialWithJitter)]

def bareTag (tag : String) : String :=
  String.ofList ((tag.toList.filter fun c => c ≠ '_' ∧ c ≠ '-' ∧ c ≠ ' ').flatMap Unicode.lowerChar)

def read (tag : String) : Except BackoffError Strategy :=
  match spellings.lookup (bareTag tag) with
  | some s => .ok s
  | none => .error (.unknownStrategy tag)

end Strategy

structure BackoffOptions where
  baseDelayMs : Nat := 200
  maxDelayMs : Option Nat := none
  multiplier : Double := .two
  jitterEnabled : Bool := false
  jitterFactor : Double := .ofDecimal false 2 (-1)
  deriving DecidableEq

namespace BackoffOptions

def baseDelay (o : BackoffOptions) : Duration := .ofMillis o.baseDelayMs

def maxDelay (o : BackoffOptions) : Duration :=
  (o.maxDelayMs.map .ofMillis).getD Backoff.defaultMaxDelay

end BackoffOptions

/-- A backoff that is ready to use, with the exponential one still apart from the others. -/
inductive BuiltBackoff where
  | fixed (b : FixedBackoff)
  | linear (b : LinearBackoff)
  | exponential (b : ExponentialBackoff)
  deriving DecidableEq

namespace BuiltBackoff

def toBackoff : BuiltBackoff → Backoff
  | .fixed b => b.toBackoff
  | .linear b => b.toBackoff
  | .exponential b => b.toBackoff

def jitter? : BuiltBackoff → Option Double
  | .exponential b => b.jitter
  | _ => none

end BuiltBackoff

namespace Strategy

def build (s : Strategy) (options : Option BackoffOptions) : Except BackoffError BuiltBackoff := do
  let some o := options | throw .missingOptions
  match s with
  | fixed => return .fixed (← FixedBackoff.create o.baseDelay)
  | linear => return .linear (← LinearBackoff.create o.baseDelay (o.maxDelayMs.map .ofMillis))
  | exponential =>
    let b ← ExponentialBackoff.create o.baseDelay o.maxDelay o.multiplier
    if o.jitterEnabled then return .exponential (← b.withJitter o.jitterFactor)
    return .exponential b
  | exponentialWithJitter =>
    let b ← ExponentialBackoff.create o.baseDelay o.maxDelay o.multiplier
    return .exponential (← b.withJitter o.jitterFactor)

/-- The backoff of the strategy with a tag; a tag that names none is the first failure. -/
def buildTagged (tag : String) (options : Option BackoffOptions) :
    Except BackoffError BuiltBackoff := do
  (← read tag).build options

end Strategy

end Delivery
