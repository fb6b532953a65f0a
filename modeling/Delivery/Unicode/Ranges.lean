/-!
# Ranges of code points

A character class is a list of closed ranges of code points in ascending order.
-/

namespace Delivery.Unicode

abbrev Range := Nat × Nat

def inRanges (ranges : List Range) (c : Char) : Bool :=
  ranges.any fun r => r.1 ≤ c.toNat && c.toNat ≤ r.2

end Delivery.Unicode
