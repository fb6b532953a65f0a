import Delivery.Double.Decimal
import Delivery.Document.Text

/-!
# Numbers of a document

An integer is decimal, or has a mark for another base; underscores may separate its digits, and a
suffix may name its type, which must then be the wanted one. A floating number is decimal. Where any
value may stand there may be a range: one number or none, two points, and one number or none.
-/

namespace Delivery.Document

/-! ### Integers -/

structure NaturalType where
  suffix : String
  limit : Nat
  deriving DecidableEq, Repr

namespace NaturalType

def ofBits (bits : Nat) : NaturalType := ⟨"u" ++ toString bits, Nat.pow 2 bits - 1⟩

def byte : NaturalType := ofBits 8
def count : NaturalType := ofBits 32
def word : NaturalType := ofBits 64

end NaturalType

def widths : List Nat := [8, 16, 32, 64]

/-- All suffixes, with the largest numbers of their types, without and with a minus sign. -/
def suffixes : List (String × Nat × Nat) :=
  widths.map (fun bits =>
    ("i" ++ toString bits, Nat.pow 2 (bits - 1) - 1, Nat.pow 2 (bits - 1))) ++
  widths.map fun bits => ("u" ++ toString bits, Nat.pow 2 bits - 1, 0)

def isIntegerPart (c : Char) : Bool := c == '_' || (hexValue? c).isSome

def bases : List (List Char × Nat) := [(['0', 'b'], 2), (['0', 'o'], 8), (['0', 'x'], 16)]

def digitsValue? (base : Nat) (digits : List Char) : Option Nat :=
  digits.foldlM (fun n c =>
    if c = '_' then some n
    else match hexValue? c with
      | some d => if d < base then some (base * n + d) else none
      | none => none) 0

def baseOf (s : List Char) : Nat × List Char :=
  (bases.findSome? fun b => (after? b.1 s).map (b.2, ·)).getD (10, s)

def magnitude : Reader Nat := do
  let (base, rest) := baseOf (← ahead)
  goTo rest
  let digits ← takeRun isIntegerPart
  if digits.isEmpty || digits.head? = some '_' then failure
  digitsValue? base digits

def sign : Reader Bool := do
  if ← takeWord ['+'] then return false
  takeWord ['-']

def suffixAhead : Reader (Option (String × Nat × Nat)) := do
  let s := (baseOf (← ahead)).2.dropWhile isIntegerPart
  return suffixes.find? fun x =>
    ((after? x.1.toList s).map endsIdentifier).getD false

/-- Reads a single byte between quotes; only one of seven bits can be written as a character. -/
def byteCharacter : Reader Nat := do
  let c ← takeChar
  let n ← if c = '\\' then Char.toNat <$> escapedByte
    else if c.toNat < 128 then pure c.toNat
    else failure
  expect '\''
  return n

/-- Reads a natural number of a type. A minus sign fits nought only. -/
def natural (t : NaturalType) : Reader Nat := do
  if ← takeWord ['b', '\''] then
    if t.suffix = "u8" then byteCharacter else failure
  else
    let negative ← sign
    let suffix ← suffixAhead
    if !((suffix.map fun x => x.1 == t.suffix).getD true) then failure
    let n ← magnitude
    if let some x := suffix then discard (takeName x.1.toList)
    if n ≤ t.limit && (!negative || n = 0) then return n else failure

def widest : Nat × Nat := (Nat.pow 2 64 - 1, Nat.pow 2 63)

def anyInteger : Reader Unit := do
  if ← takeWord ['b', '\''] then discard byteCharacter
  else
    let negative ← sign
    let suffix ← suffixAhead
    let n ← magnitude
    if let some (x, _) := suffix then discard (takeName x.toList)
    let (most, least) := (suffix.map (·.2)).getD widest
    if (if negative then least else most) < n then failure

/-! ### Floating numbers -/

def isFloatPart (c : Char) : Bool := c.isDigit || ['e', 'E', '.', '+', '-', '_'].contains c

/-- The characters at the front that may stand in a floating number. Two points end it. -/
def floatRun : List Char → List Char
  | '.' :: '.' :: _ => []
  | c :: rest => if isFloatPart c then c :: floatRun rest else []
  | [] => []

def namedFloats : List (String × Double) :=
  [("inf", .infinite false), ("+inf", .infinite false), ("-inf", .infinite true),
   ("NaN", .nan), ("+NaN", .nan), ("-NaN", .nan)]

/-- Takes a type suffix of floating numbers, and says which; the empty one is always there. -/
def takeFloatSuffix (allowed : List String) : Reader Unit := do
  let s ← ahead
  match ["f32", "f64"].find? fun x => ((after? x.toList s).map endsIdentifier).getD false with
  | some x => if allowed.contains x then discard (takeWord x.toList) else failure
  | none => return ()

/-- Drops underscores that follow a digit or an exponent mark; one elsewhere is not allowed. -/
def dropUnderscores : (allowed : Bool) → List Char → Option (List Char)
  | _, [] => some []
  | allowed, c :: rest =>
    if c = '_' then if allowed then dropUnderscores true rest else none
    else
      let next := if c.isDigit || c = 'e' || c = 'E' then true
        else if c = '.' then false
        else allowed
      (dropUnderscores next rest).map (c :: ·)

def namedFloat (allowed : List String) : List (String × Double) → Reader Double
  | [] => failure
  | (n, x) :: rest => do
    let s ← ahead
    match after? n.toList s with
    | some tail =>
      let whole := endsIdentifier tail || ["f32", "f64"].any fun f => f.toList.isPrefixOf tail
      if whole then
        goTo tail
        takeFloatSuffix allowed
        return x
      else namedFloat allowed rest
    | none => namedFloat allowed rest

def decimalFloat (allowed : List String) : Reader Double := do
  let s ← ahead
  let digits := floatRun s
  if digits.isEmpty then failure
  goTo (s.drop digits.length)
  let x ← Double.read? (← dropUnderscores false digits)
  takeFloatSuffix allowed
  return x

def float (allowed : List String) : Reader Double :=
  either (namedFloat allowed namedFloats) (decimalFloat allowed)

def anyNumber : Reader Unit := do
  let s ← ahead
  let digits := if s.head? = some '+' || s.head? = some '-' then s.drop 1 else s
  let longer := (digits.takeWhile isIntegerPart).length < (floatRun digits).length
  let anyFloat := discard (float ["f32", "f64"])
  if longer then anyFloat else either anyInteger anyFloat

/-! ### Ranges -/

/-- Reads the two points of a range and its end, if they follow the beginning of one. With a sign of
equality after the points there has to be an end. -/
def rangeRest : Reader Unit := do
  if ← takeWord ['.', '.'] then
    let closed ← takeWord ['=']
    let ended ← either (do anyNumber; return true) (return false)
    if closed && !ended then failure

def numberOrRange : Reader Unit := do
  if (after? ['.', '.'] (← ahead)).isNone then anyNumber
  rangeRest

end Delivery.Document
