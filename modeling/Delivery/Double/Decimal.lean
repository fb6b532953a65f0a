import Delivery.Double.Basic

/-!
# Decimal numbers, read to the nearest binary64 number

A decimal number is a sign, a natural number of digits and a power of ten. It is rounded once, from
its exact value.
-/

namespace Delivery

/-- The value of decimal digits, most significant first; other characters count as they stand. -/
def decimalValue (digits : List Char) : Nat :=
  digits.foldl (fun n c => 10 * n + (c.toNat - 48)) 0

namespace Double

/-- The number nearest to `digits * 10 ^ exponent`. Powers of ten that put the value above every
finite number, or below half of the smallest one, are not worked out. -/
def ofDecimal (negative : Bool) (digits : Nat) (exponent : Int) : Double :=
  let size := (Nat.toDigits 10 digits).length + exponent
  if digits = 0 ∨ size < -325 then .finite negative 0
  else if 310 < size then .infinite negative
  else match exponent with
    | .ofNat e => round negative (digits * Nat.pow 10 e * unitsPerOne) 1
    | .negSucc e => round negative (digits * unitsPerOne) (Nat.pow 10 (e + 1))

def readSign : List Char → Bool × List Char
  | '-' :: rest => (true, rest)
  | '+' :: rest => (false, rest)
  | rest => (false, rest)

/-- The exponent part of a decimal number: nothing, or a mark, a sign and digits to the end. -/
def readExponent : List Char → Option Int
  | [] => some 0
  | mark :: rest =>
    let (negative, digits) := readSign rest
    if (mark = 'e' ∨ mark = 'E') ∧ digits ≠ [] ∧ digits.all Char.isDigit then
      let n : Int := decimalValue digits
      some (if negative then -n else n)
    else none

/-- Reads digits with an optional point, needing at least one digit, and an optional exponent. -/
def read? (text : List Char) : Option Double := do
  let (negative, body) := readSign text
  let whole := body.takeWhile Char.isDigit
  let rest := body.dropWhile Char.isDigit
  let (fraction, rest) := match rest with
    | '.' :: rest => (rest.takeWhile Char.isDigit, rest.dropWhile Char.isDigit)
    | _ => ([], rest)
  if whole.isEmpty && fraction.isEmpty then none
  else
    let exponent ← readExponent rest
    some (ofDecimal negative (decimalValue (whole ++ fraction)) (exponent - fraction.length))

end Double

end Delivery
