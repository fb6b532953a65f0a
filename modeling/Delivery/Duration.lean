/-!
# Durations and clock readings

Both are natural numbers of nanoseconds: a duration from nought, a clock reading from the moment the
clock started. A duration that is stored or computed has a limit, the largest number of whole
seconds that 64 bits hold and all nanoseconds below one more.
-/

namespace Delivery

abbrev Duration := Nat

abbrev Instant := Nat

namespace Duration

def millisecond : Duration := 1000000
def second : Duration := 1000000000
def ofMillis (n : Nat) : Duration := n * millisecond
def ofSeconds (n : Nat) : Duration := n * second
def ofMinutes (n : Nat) : Duration := ofSeconds (n * 60)
def ofDays (n : Nat) : Duration := ofSeconds (n * 86400)

/-- The longest duration: 64 bits of seconds and a full fraction. -/
def limit : Duration := Nat.pow 2 64 * second - 1

def times? (d : Duration) (n : Nat) : Option Duration :=
  if d * n ≤ limit then some (d * n) else none

def remaining (period : Duration) (start now : Instant) : Duration :=
  period - (now - start)

/-! ### Text -/

def fractionDigits (width n : Nat) : String :=
  let digits := Nat.toDigits 10 n
  let padded := List.replicate (width - digits.length) '0' ++ digits
  String.ofList (padded.reverse.dropWhile (· == '0')).reverse

def inUnit (n unit places : Nat) (name : String) : String :=
  let fraction := fractionDigits places (n % unit)
  toString (n / unit) ++ (if n % unit = 0 then "" else "." ++ fraction) ++ name

/-- A duration in the largest of the four units that gives at least one, with its exact fraction. -/
def text (d : Duration) : String :=
  if second ≤ d then inUnit d second 9 "s"
  else if millisecond ≤ d then inUnit d millisecond 6 "ms"
  else if 1000 ≤ d then inUnit d 1000 3 "µs"
  else inUnit d 1 0 "ns"

end Duration

end Delivery
