import Delivery.DeadLetter.Entry

/-!
# Filters

A filter selects dead letters by up to eight criteria, all of which have to hold, and cuts a window
out of what it selects. Counting ignores the window.
-/

namespace Delivery

/-- Criteria for dead letters; one that is not set holds of all. The two dates are inclusive. -/
structure Filter where
  messageType : Option String := none
  reason : Option Reason := none
  enqueuedFrom : Option Timestamp := none
  enqueuedTo : Option Timestamp := none
  replayed : Option Bool := none
  sourceQueue : Option String := none
  correlationId : Option String := none
  minAttempts : Option Nat := none
  skip : Nat := 0
  limit : Option Nat := none
  deriving DecidableEq, Repr, Inhabited

namespace Filter

def holds {α : Type} (criterion : Option α) (test : α → Bool) : Bool :=
  (criterion.map test).getD true

def unpaginated (f : Filter) : Filter := { f with skip := 0, limit := none }

def accepts (f : Filter) (e : Entry) : Bool :=
  holds f.messageType (e.messageType == ·) &&
  holds f.reason (e.reason == ·) &&
  holds f.enqueuedFrom (· ≤ e.enqueuedAt) &&
  holds f.enqueuedTo (e.enqueuedAt ≤ ·) &&
  holds f.replayed (e.replayed == ·) &&
  holds f.sourceQueue (e.sourceQueue == some ·) &&
  holds f.correlationId (e.correlationId == some ·) &&
  holds f.minAttempts (· ≤ e.attempts)

/-- The window of a list: what comes after the skipped ones, up to the limit. -/
def window {α : Type} (f : Filter) (xs : List α) : List α :=
  match f.limit with
  | some n => (xs.drop f.skip).take n
  | none => xs.drop f.skip

@[simp] theorem holds_none {α : Type} (test : α → Bool) : holds none test = true := rfl

@[simp] theorem holds_some {α : Type} (a : α) (test : α → Bool) :
    holds (some a) test = test a := rfl

@[simp] theorem accepts_unpaginated (f : Filter) (e : Entry) :
    f.unpaginated.accepts e = f.accepts e := rfl

end Filter

end Delivery
