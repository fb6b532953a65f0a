/-!
# Points in time

A timestamp is a whole number of nanoseconds since the start of 1970 in universal time, on the
Gregorian calendar extended in both directions. The calendar covers a bounded range of years. Days
have 86400 seconds, and a leap second may follow the last second of a minute: a moment in it comes
after that second and before the next, and any number of seconds away it counts as the next.
-/

namespace Delivery

structure Timestamp where
  nanos : Int
  -- Whether it is a moment of the leap second before the second that `nanos` lies in.
  inLeapSecond : Bool := false
  deriving DecidableEq, Repr, Inhabited

structure CalendarDay where
  year : Int
  month : Nat
  day : Nat
  deriving DecidableEq, Repr

namespace CalendarDay

def isLeapYear (year : Int) : Bool :=
  year % 4 = 0 && (year % 100 ≠ 0 || year % 400 = 0)

def monthLength (year : Int) : Nat → Nat
  | 1 | 3 | 5 | 7 | 8 | 10 | 12 => 31
  | 4 | 6 | 9 | 11 => 30
  | 2 => if isLeapYear year then 29 else 28
  | _ => 0

def isValid (c : CalendarDay) : Bool :=
  1 ≤ c.day && c.day ≤ monthLength c.year c.month

def toDays (c : CalendarDay) : Int :=
  let year := if c.month ≤ 2 then c.year - 1 else c.year
  let month : Int := if c.month ≤ 2 then c.month + 9 else c.month - 3
  let era := year / 400
  let yearOfEra := year % 400
  let dayOfYear := (153 * month + 2) / 5 + c.day - 1
  era * 146097 + yearOfEra * 365 + yearOfEra / 4 - yearOfEra / 100 + dayOfYear - 719468

def ofDays (days : Int) : CalendarDay :=
  let shifted := days + 719468
  let era := shifted / 146097
  let dayOfEra := shifted % 146097
  let yearOfEra := (dayOfEra - dayOfEra / 1460 + dayOfEra / 36524 - dayOfEra / 146096) / 365
  let dayOfYear := dayOfEra - (365 * yearOfEra + yearOfEra / 4 - yearOfEra / 100)
  let marchMonth := (5 * dayOfYear + 2) / 153
  let day := dayOfYear - (153 * marchMonth + 2) / 5 + 1
  let month := if marchMonth < 10 then marchMonth + 3 else marchMonth - 9
  let year := yearOfEra + era * 400
  ⟨if month ≤ 2 then year + 1 else year, month.toNat, day.toNat⟩

end CalendarDay

namespace Timestamp

def nanosPerSecond : Int := 1000000000
def secondsPerDay : Int := 86400

/-- Full seconds since the start of 1970. A leap second belongs to the second that it follows. -/
def second (t : Timestamp) : Int :=
  t.nanos / nanosPerSecond - if t.inLeapSecond then 1 else 0

def fraction (t : Timestamp) : Nat := (t.nanos % nanosPerSecond).toNat

instance : LT Timestamp where
  lt t u := t.second < u.second ∨ t.second = u.second ∧ t.nanos < u.nanos

instance : LE Timestamp where
  le t u := t.second < u.second ∨ t.second = u.second ∧ t.nanos ≤ u.nanos

theorem lt_def {t u : Timestamp} :
    t < u ↔ t.second < u.second ∨ t.second = u.second ∧ t.nanos < u.nanos := Iff.rfl

theorem le_def {t u : Timestamp} :
    t ≤ u ↔ t.second < u.second ∨ t.second = u.second ∧ t.nanos ≤ u.nanos := Iff.rfl

instance (t u : Timestamp) : Decidable (t < u) := decidable_of_iff _ lt_def.symm
instance (t u : Timestamp) : Decidable (t ≤ u) := decidable_of_iff _ le_def.symm

theorem not_le {t u : Timestamp} : ¬ t ≤ u ↔ u < t := by
  rw [le_def, lt_def]
  omega

theorem le_trans {t u v : Timestamp} (h₁ : t ≤ u) (h₂ : u ≤ v) : t ≤ v := by
  rw [le_def] at *
  omega

theorem le_refl (t : Timestamp) : t ≤ t := by
  rw [le_def]
  omega

theorem lt_of_lt_of_le {t u v : Timestamp} (h₁ : t < u) (h₂ : u ≤ v) : t < v := by
  rw [lt_def] at *
  rw [le_def] at h₂
  omega

theorem lt_iff_nanos {a b : Int} :
    ({ nanos := a } : Timestamp) < { nanos := b } ↔ a < b := by
  simp only [lt_def, second, nanosPerSecond]
  omega

theorem le_iff_nanos {a b : Int} :
    ({ nanos := a } : Timestamp) ≤ { nanos := b } ↔ a ≤ b := by
  simp only [le_def, second, nanosPerSecond]
  omega

def firstYear : Int := -262143

def lastYear : Int := 262142

def ofDay (c : CalendarDay) : Timestamp where
  nanos := c.toDays * secondsPerDay * nanosPerSecond

def earliest : Timestamp := ofDay ⟨firstYear, 1, 1⟩

def afterLatest : Timestamp := ofDay ⟨lastYear + 1, 1, 1⟩

def inCalendar (t : Timestamp) : Bool :=
  earliest ≤ t && t < afterLatest

theorem inCalendar_reading {a : Int} :
    inCalendar { nanos := a } = true ↔ earliest.nanos ≤ a ∧ a < afterLatest.nanos := by
  rw [inCalendar, Bool.and_eq_true, decide_eq_true_eq, decide_eq_true_eq]
  exact and_congr le_iff_nanos lt_iff_nanos

/-- The longest distance of two moments: as many milliseconds as 63 bits count. -/
def distanceLimit : Nat := (Nat.pow 2 63 - 1) * 1000000

/-- A duration as a distance of moments, if it is not too long for one. -/
def distance? (d : Nat) : Option Nat := if d ≤ distanceLimit then some d else none

/-- The moment so far before `t`, if the calendar has it. -/
def before? (t : Timestamp) (distance : Nat) : Option Timestamp :=
  let u : Timestamp := { nanos := t.nanos - distance }
  if u.inCalendar then some u else none

/-- The moment a duration before `t`, or the first of the calendar where there is none. -/
def backFrom (t : Timestamp) (d : Nat) : Timestamp :=
  ((distance? d).bind t.before?).getD earliest

def databaseEpoch : Timestamp := ofDay ⟨2000, 1, 1⟩

/-- The distance from the start of 2000 cut to whole microseconds, toward that moment. -/
def toMicroseconds (t : Timestamp) : Timestamp where
  nanos := databaseEpoch.nanos + Int.tdiv (t.nanos - databaseEpoch.nanos) 1000 * 1000

end Timestamp

end Delivery
