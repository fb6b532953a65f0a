/-!
# Messages

A message is a type, an opaque payload, and where it came from. The count of attempts never goes
past the largest 32-bit number.
-/

namespace Delivery

def countLimit : Nat := Nat.pow 2 32 - 1

def addCounts (a b : Nat) : Nat := min (a + b) countLimit

structure Message where
  messageType : String
  payload : List UInt8 := []
  correlationId : Option String := none
  causationId : Option String := none
  sourceQueue : Option String := none
  attempts : Nat := 0
  deriving DecidableEq, Repr, Inhabited

theorem addCounts_le (a b : Nat) : addCounts a b ≤ countLimit := Nat.min_le_right _ _

end Delivery
