import Delivery.Double.Basic

/-!
# The fewest digits that read back

For a positive finite number the digits are found on decimal grids, coarse to fine: the first grid
that has a point which rounds to the number decides how many digits are written. Of two such points
the nearer is taken, and of two equally near ones the larger.
-/

namespace Delivery.Double

def digitCount (n : Nat) : Nat := (Nat.toDigits 10 n).length

/-- The power of ten of the first digit: `10 ^ e ≤ value < 10 ^ (e + 1)`. -/
def leadingExponent (units : Nat) : Int :=
  digitCount (units * Nat.pow 10 400 / unitsPerOne) - 401

/-- Twice the distance from a count of units down to where rounding leaves it, and up. -/
def margins (units : Nat) : Nat × Nat :=
  let g := gap units
  if units = g * Nat.pow 2 52 ∧ 1 < g then (g / 2, g) else (g, g)

/-- The ratio of a point of the grid `10 ^ k` to half a unit, as numerator and denominator. -/
def gridPoint (c : Nat) (k : Int) : Nat × Nat :=
  match k with
  | .ofNat e => (2 * c * Nat.pow 10 e * unitsPerOne, 1)
  | .negSucc e => (2 * c * unitsPerOne, Nat.pow 10 (e + 1))

def readsBack (units c : Nat) (k : Int) : Bool :=
  let (num, den) := gridPoint c k
  let (down, up) := margins units
  let low := (2 * units - down) * den
  let high := (2 * units + up) * den
  if units / gap units % 2 = 0 then low ≤ num && num ≤ high else low < num && num < high

def onGrid? (units : Nat) (k : Int) : Option Nat :=
  let (num, den) := gridPoint 1 k
  let c := 2 * units * den / num
  let below := 2 * units * den - c * num
  match readsBack units c k && c ≠ 0, readsBack units (c + 1) k with
  | true, true => if 2 * below < num then some c else some (c + 1)
  | true, false => some c
  | false, true => some (c + 1)
  | false, false => none

def searchGrids (units : Nat) (first : Int) : (fuel digits : Nat) → Nat × Int
  | 0, _ => (0, 0)
  | fuel + 1, digits =>
    let k := first + 1 - digits
    match onGrid? units k with
    | some c => (c, k)
    | none => searchGrids units first fuel (digits + 1)

/-- The digits as a natural number, and the power of ten of the last one. Seventeen digits always
read back. -/
def shortest (units : Nat) : Nat × Int :=
  searchGrids units (leadingExponent units) 17 1

end Delivery.Double
