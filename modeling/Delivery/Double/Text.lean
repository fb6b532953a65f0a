import Delivery.Double.Shortest

/-!
# Numbers as text

Both layouts write the fewest digits that read back. The plain one never uses an exponent and shows
a whole number without a point; the diagnostic one uses an exponent outside a range and keeps the
point.
-/

namespace Delivery.Double

/-- How digits are laid out: the range of first-digit exponents that are written positionally, and
whether a whole number keeps its point. -/
structure Layout where
  positional : Int → Bool
  pointed : Bool

/-- Always positional; a whole number has no point. -/
def Layout.plain : Layout := ⟨fun _ => true, false⟩

/-- Positional from `10 ^ -4` up to `10 ^ 16`; a whole number keeps its point. -/
def Layout.diagnostic : Layout := ⟨fun e => -4 ≤ e && e < 16, true⟩

def dropTrailingZeros (digits : List Char) : List Char :=
  (digits.reverse.dropWhile (· == '0')).reverse

def positionalText (pointed : Bool) (digits : List Char) (e : Int) : String :=
  let whole := if e < 0 then ['0']
    else (digits ++ List.replicate (e.toNat + 1 - digits.length) '0').take (e.toNat + 1)
  let fraction := if e < 0 then List.replicate (-e - 1).toNat '0' ++ digits
    else digits.drop (e.toNat + 1)
  let tail := if fraction.isEmpty then (if pointed then ".0" else "")
    else "." ++ String.ofList fraction
  String.ofList whole ++ tail

def exponentText (digits : List Char) (e : Int) : String :=
  let fraction := digits.drop 1
  let tail := if fraction.isEmpty then "" else "." ++ String.ofList fraction
  String.ofList (digits.take 1) ++ tail ++ "e" ++ toString e

def magnitudeText (layout : Layout) (units : Nat) : String :=
  if units = 0 then positionalText layout.pointed ['0'] 0
  else
    let (c, k) := shortest units
    let all := Nat.toDigits 10 c
    let e := k + all.length - 1
    let digits := dropTrailingZeros all
    if layout.positional e then positionalText layout.pointed digits e else exponentText digits e

/-- The text of a number; what is not a number has no sign. -/
def text (layout : Layout) : Double → String
  | .nan => "NaN"
  | .infinite negative => (if negative then "-" else "") ++ "inf"
  | .finite negative units => (if negative then "-" else "") ++ magnitudeText layout units

end Delivery.Double
