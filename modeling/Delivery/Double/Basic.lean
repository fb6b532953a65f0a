/-!
# Binary64 numbers, exactly

A finite number is a sign and a count of units, where one unit is `2 ^ -1074`, the smallest step of
the format; so sums, products and comparisons are done on natural numbers and rounded once. The
counts that the format holds are those with at most 53 significant bits, below `2 ^ 2098`.
-/

namespace Delivery

inductive Double where
  | nan
  | infinite (negative : Bool)
  | finite (negative : Bool) (units : Nat)
  deriving DecidableEq, Inhabited

namespace Double

def unitsPerOne : Nat := Nat.pow 2 1074

def unitsLimit : Nat := Nat.pow 2 2098

def zero : Double := .finite false 0
def one : Double := .finite false unitsPerOne
def two : Double := .finite false (2 * unitsPerOne)
def half : Double := .finite false (Nat.pow 2 1073)

/-! ### Rounding -/

/-- The natural number nearest to `num / den`; of two equally near ones, the even one. -/
def nearestEven (num den : Nat) : Nat :=
  let q := num / den
  let r := num % den
  if 2 * r < den then q
  else if den < 2 * r then q + 1
  else q + q % 2

def gap (units : Nat) : Nat := Nat.pow 2 (Nat.log2 units - 52)

/-- The count of the format nearest to `num / den` units, ties to an even significand. -/
def nearestUnits (num den : Nat) : Nat :=
  let g := gap (num / den)
  nearestEven num (den * g) * g

def round (negative : Bool) (num den : Nat) : Double :=
  let units := nearestUnits num den
  if units < unitsLimit then .finite negative units else .infinite negative

def ofNat (n : Nat) : Double := round false (n * unitsPerOne) 1

/-! ### Views -/

def isFinite : Double → Bool
  | .finite _ _ => true
  | _ => false

def isNegative : Double → Bool
  | .nan => false
  | .infinite negative => negative
  | .finite negative _ => negative

def signedUnits (negative : Bool) (units : Nat) : Int :=
  if negative then -(units : Int) else units

/-- Strictly below; nothing is below or above what is not a number. -/
def lt : Double → Double → Bool
  | .nan, _ => false
  | _, .nan => false
  | .infinite a, .infinite b => a && !b
  | .infinite a, .finite _ _ => a
  | .finite _ _, .infinite b => !b
  | .finite a m, .finite b n => signedUnits a m < signedUnits b n

/-- Below or equal; the two zeros are equal. -/
def le : Double → Double → Bool
  | .nan, _ => false
  | _, .nan => false
  | .infinite a, .infinite b => a || !b
  | .infinite a, .finite _ _ => a
  | .finite _ _, .infinite b => !b
  | .finite a m, .finite b n => signedUnits a m ≤ signedUnits b n

/-- The whole part as an unsigned 64-bit number: at least nought, at most the largest. -/
def toWord : Double → Nat
  | .nan => 0
  | .infinite negative => if negative then 0 else Nat.pow 2 64 - 1
  | .finite negative units => if negative then 0 else min (units / unitsPerOne) (Nat.pow 2 64 - 1)

/-! ### Arithmetic -/

def neg : Double → Double
  | .nan => .nan
  | .infinite negative => .infinite !negative
  | .finite negative units => .finite (!negative) units

def mul : Double → Double → Double
  | .nan, _ => .nan
  | _, .nan => .nan
  | .infinite a, .infinite b => .infinite (a ^^ b)
  | .infinite a, .finite b n => if n = 0 then .nan else .infinite (a ^^ b)
  | .finite a m, .infinite b => if m = 0 then .nan else .infinite (a ^^ b)
  | .finite a m, .finite b n => round (a ^^ b) (m * n) unitsPerOne

def addProduct (negative : Bool) (num : Nat) : Double → Double
  | .nan => .nan
  | .infinite c => .infinite c
  | .finite c k =>
    let total := signedUnits negative num + signedUnits c (k * unitsPerOne)
    if total = 0 then .finite (negative && c) 0
    else round (total < 0) total.natAbs unitsPerOne

def fma (a b c : Double) : Double :=
  match a, b with
  | .finite s m, .finite t n => addProduct (s ^^ t) (m * n) c
  | _, _ =>
    match mul a b, c with
    | .infinite p, .infinite q => if p = q then .infinite p else .nan
    | .infinite p, .finite _ _ => .infinite p
    | _, _ => .nan

def sub (a b : Double) : Double := fma a one (neg b)

/-- Multiplies `acc` by a power of `base` by repeated squaring, rounding every product. -/
def powerInto (acc base : Double) (n : Nat) : Double :=
  let acc' := if n % 2 = 1 then mul acc base else acc
  if n / 2 = 0 then acc' else powerInto acc' (mul base base) (n / 2)
termination_by n
decreasing_by omega

def power (base : Double) (n : Nat) : Double := powerInto one base n

/-- A sample forced into the interval from nought to one; not-a-number stays what it is. -/
def clampUnit (x : Double) : Double :=
  if lt x zero then zero else if lt one x then one else x

/-! ### Bits -/

/-- The 64 bits of a number; every not-a-number has the quiet pattern. -/
def toBits : Double → Nat
  | .nan => 0x7ff8000000000000
  | .infinite negative => (if negative then Nat.pow 2 63 else 0) + 0x7ff0000000000000
  | .finite negative units =>
    (if negative then Nat.pow 2 63 else 0) +
      if units < Nat.pow 2 52 then units
      else
        let p := Nat.log2 units - 52
        p * Nat.pow 2 52 + units / Nat.pow 2 p

end Double

end Delivery
