import Delivery.Timestamp.Basic
import Delivery.Unicode.Blank

/-!
# Timestamps as text

Written form: date, `T`, time, as many fraction digits as are needed out of none, three, six and
nine, and `Z`. Reading allows any offset, blanks between the parts, and one letter or blank between
date and time.
-/

namespace Delivery.Timestamp

/-! ### Writing -/

def padded (width n : Nat) : String :=
  let digits := Nat.toDigits 10 n
  String.ofList (List.replicate (width - digits.length) '0' ++ digits)

/-- A year in four digits, or with a sign when it has more or lies before the year nought. -/
def yearText (year : Int) : String :=
  if 0 ≤ year ∧ year ≤ 9999 then padded 4 year.toNat
  else (if year < 0 then "-" else "+") ++ padded 4 year.natAbs

def fractionText (nanos : Nat) : String :=
  if nanos = 0 then ""
  else if nanos % 1000000 = 0 then "." ++ padded 3 (nanos / 1000000)
  else if nanos % 1000 = 0 then "." ++ padded 6 (nanos / 1000)
  else "." ++ padded 9 nanos

/-- Date and time in universal time, with what stands between the two and what comes last. -/
def layOut (t : Timestamp) (between last : String) : String :=
  let c := CalendarDay.ofDays (t.second / secondsPerDay)
  let s := (t.second % secondsPerDay).toNat
  let leap := if t.inLeapSecond then 1 else 0
  yearText c.year ++ "-" ++ padded 2 c.month ++ "-" ++ padded 2 c.day ++ between ++
    padded 2 (s / 3600) ++ ":" ++ padded 2 (s / 60 % 60) ++ ":" ++ 
    padded 2 (s % 60 + leap) ++ fractionText t.fraction ++ last

def text (t : Timestamp) : String := t.layOut "T" "Z"

def displayText (t : Timestamp) : String := t.layOut " " " UTC"

/-! ### Reading -/

abbrev Part (α : Type) := StateT (List Char) Option α

def digits (width : Nat) : Part (Nat × Nat) := fun s =>
  let taken := (s.take width).takeWhile Char.isDigit
  if taken.isEmpty then none
  else
    let n := taken.foldl (fun n c => 10 * n + (c.toNat - 48)) 0
    some ((n, taken.length), s.drop taken.length)

def skipBlanks : Part Unit := fun s => some ((), Unicode.trimLeft s)

def mark (c : Char) : Part Unit
  | d :: rest => if c = d then some ((), rest) else none
  | [] => none

def number (width : Nat) : Part Nat := do
  skipBlanks
  return (← digits width).1

def separator (c : Char) : Part Unit := do
  skipBlanks
  mark c

def year : Part Int := do
  skipBlanks
  match ← get with
  | '-' :: rest => set rest; return -((← digits rest.length).1 : Int)
  | '+' :: rest => set rest; return (← digits rest.length).1
  | _ => return (← digits 4).1

def fractionPart : Part Nat := do
  match ← get with
  | '.' :: rest =>
    set rest
    let (n, count) ← digits 9
    modify (·.dropWhile Char.isDigit)
    return n * Nat.pow 10 (9 - count)
  | _ => return 0

def twoDigits : Part Nat := fun s =>
  match s with
  | a :: b :: rest =>
    if a.isDigit && b.isDigit then some (10 * (a.toNat - 48) + (b.toNat - 48), rest) else none
  | _ => none

/-- The offset from universal time in seconds: a letter or name for none, or signed hours and
minutes. -/
def offset : Part Int := do
  let s ← get
  if (s.take 3).map Char.toUpper = ['U', 'T', 'C'] then
    set (s.drop 3)
    return 0
  match s with
  | c :: rest =>
    set rest
    if c = 'Z' ∨ c = 'z' then return 0
    let negative ← if c = '+' then pure false
      else if c = '-' ∨ c = '\u2212' then pure true
      else failure
    let hours ← twoDigits
    modify (·.dropWhile fun c => c = ':' || Unicode.isBlank c)
    let minutes ← twoDigits
    if minutes < 60 then
      let seconds : Int := hours * 3600 + minutes * 60
      return if negative then -seconds else seconds
    else failure
  | [] => failure

def reader : Part Timestamp := do
  let y ← year
  separator '-'
  let month ← number 2
  separator '-'
  let day ← number 2
  match ← get with
  | c :: rest => if c = 'T' ∨ c = 't' ∨ c = ' ' then set rest else failure
  | [] => failure
  let hour ← number 2
  separator ':'
  let minute ← number 2
  separator ':'
  let second ← number 2
  let nanos ← fractionPart
  skipBlanks
  let shift ← offset
  skipBlanks
  let c : CalendarDay := ⟨y, month, day⟩
  if (← get).isEmpty && c.isValid && hour < 24 && minute < 60 && second ≤ 60
      && shift.natAbs < 86400 && firstYear ≤ y && y ≤ lastYear then
    let wall : Int := c.toDays * secondsPerDay + hour * 3600 + minute * 60 + second
    let t : Timestamp := ⟨(wall - shift) * nanosPerSecond + nanos, second = 60⟩
    if t.inCalendar then return t else failure
  else failure

def read? (s : String) : Option Timestamp := (reader s.toList).map (·.1)

end Delivery.Timestamp
