import Delivery.Proofs.Double.Rounding
import Delivery.Proofs.Relational.Rows

/-!
# Leases as intervals

A lease of whole seconds is bound as a number of seconds. Up to `2 ^ 53` of them this number is the
lease; above, it may be rounded, but no two moments of the calendar are that far apart. So a claim
is found older than the lease in the database exactly when it is.
-/

namespace Delivery

-- Both are too large to be written out as numerals.
attribute [local irreducible] Double.unitsPerOne Double.unitsLimit

/-! ### Times one and plus nought -/

namespace Double

/-- Times one and plus nought, a number is rounded once more. -/
theorem fma_one_zero (m : Nat) :
    fma (finite false m) one (finite false 0) = round false (m * unitsPerOne) unitsPerOne :=
  addProduct_eq rfl (by simp [signedUnits])

theorem fma_infinite : fma (infinite false) one (finite false 0) = infinite false := by
  have hone : ¬ unitsPerOne = 0 := Nat.pos_iff_ne_zero.mp unitsPerOne_pos
  simp [fma, mul, one, hone]

end Double

/-! ### Whole seconds -/

namespace Duration

/-- The number that a duration is bound as. -/
def bound (d : Duration) : Double :=
  Double.fma (Double.ofNat (d / second)) .one
    (Double.round false (d % second * Double.unitsPerOne) second)

theorem bound_ofSeconds (n : Nat) :
    (ofSeconds n).bound = Double.fma (Double.ofNat n) .one (.finite false 0) := by
  have hwhole : ofSeconds n / second = n := Nat.mul_div_cancel n (by decide)
  have hrest : ofSeconds n % second = 0 := Nat.mul_mod_left n second
  rw [bound, hwhole, hrest, Nat.zero_mul, Double.round_zero (by decide)]

open Double

/-- The seconds of a lease are kept, if there are fewer than `2 ^ 53`. -/
theorem bound_of_lt {n : Nat} (h : n < 2 ^ 53) :
    (ofSeconds n).bound = whole n := by
  rw [bound_ofSeconds, ofNat_of_le (Nat.le_of_lt h), whole, fma_one_zero,
    round_exact unitsPerOne_pos (Nat.le_of_lt h), whole]

theorem isLarge_bound {n : Nat} (h : 2 ^ 53 ≤ n) :
    (ofSeconds n).bound.IsLarge (2 ^ 53 * unitsPerOne) := by
  have hfits := fits_whole (Nat.le_refl (2 ^ 53))
  have hone : (Double.ofNat n).IsLarge (2 ^ 53 * unitsPerOne) := by
    refine isLarge_round Nat.one_pos hfits ?_
    rw [Nat.mul_one]
    exact Nat.mul_le_mul_right _ h
  rw [bound_ofSeconds]
  rcases isLarge_cases hone with heq | ⟨units, heq, hle⟩
  · rw [heq, fma_infinite]
    trivial
  · rw [heq, fma_one_zero]
    exact isLarge_round unitsPerOne_pos hfits (Nat.mul_le_mul_right _ hle)

/-- The interval of a lease is the lease, if it has fewer than `2 ^ 53` seconds. -/
theorem interval_of_lt {n : Nat} (h : n < 2 ^ 53) :
    (ofSeconds n).bound.interval? = some (ofSeconds n : Int) := by
  have hunits : n * unitsPerOne * 1000000 = n * 1000000 * unitsPerOne := by ac_rfl
  rw [bound_of_lt h, whole, interval?, hunits, nearestEven_mul _ unitsPerOne_pos]
  simp only [signedUnits, ofSeconds, second, Option.some.injEq, Bool.false_eq_true, if_false]
  omega

theorem interval_of_le {n : Nat} (h : 2 ^ 53 ≤ n) {d : Int}
    (hd : (ofSeconds n).bound.interval? = some d) : (ofSeconds (2 ^ 53) : Int) ≤ d := by
  rcases isLarge_cases (isLarge_bound h) with heq | ⟨units, heq, hle⟩
  · rw [heq] at hd
    cases hd
  · have hnearest : 2 ^ 53 * 1000000 ≤ nearestEven (units * 1000000) unitsPerOne := by
      refine le_nearestEven unitsPerOne_pos ?_
      rw [Nat.mul_right_comm]
      exact Nat.mul_le_mul_right _ hle
    rw [heq] at hd
    cases hd
    simp only [signedUnits, Bool.false_eq_true, if_false]
    generalize nearestEven (units * 1000000) unitsPerOne = count at hnearest ⊢
    simp only [ofSeconds, second]
    omega

end Duration

/-! ### Moments -/

namespace Timestamp

theorem calendar_length :
    afterLatest.nanos - earliest.nanos ≤ (Duration.ofSeconds (2 ^ 53) : Int) := by decide

/-- Two moments of the calendar are less than `2 ^ 53` seconds apart. -/
theorem inCalendar_apart {a b : Int} (ha : inCalendar { nanos := a } = true)
    (hb : inCalendar { nanos := b } = true) : b - a < (Duration.ofSeconds (2 ^ 53) : Int) := by
  rw [inCalendar_reading] at ha hb
  have hlength := calendar_length
  omega

end Timestamp

open Timestamp in
/-- A claim is expired in the database when it is older than the lease. -/
theorem expired_eq {start : Int} {claimed now : Instant} {n : Nat} {parameters : List Value}
    (r : Record) (hclaimed : (ofClock start claimed).inCalendar = true)
    (hnow : (ofClock start now).inCalendar = true)
    (hlease : parameters[1]? = some (.ofDuration (Duration.ofSeconds n))) :
    (Comparison.less.known? (.time (ofClock start claimed))
      ((Term.secondsAgo 2).value (ofClock start now) parameters r) == some true) =
      decide (Duration.ofSeconds n < now - claimed) := by
  have hvalue : parameters.getD (2 - 1) .null = .seconds (Duration.ofSeconds n).bound := by
    rw [List.getD_eq_getElem?_getD, hlease]
    rfl
  have hapart : ((start + now : Int)) - (start + claimed) < (Duration.ofSeconds (2 ^ 53) : Int) :=
    inCalendar_apart hclaimed hnow
  rw [Term.value, hvalue]
  show (Comparison.less.known? _ (((Duration.ofSeconds n).bound.interval?.map _).getD .null) ==
    some true) = _
  have hless (d : Int) : (Comparison.less.known? (.time (ofClock start claimed))
      (.time { nanos := (ofClock start now).nanos - d }) == some true) =
      decide (d < now - claimed) := by
    have hiff : ofClock start claimed < { nanos := (ofClock start now).nanos - d } ↔
        d < now - claimed := by
      show ({ nanos := start + claimed } : Timestamp) < { nanos := start + now - d } ↔ _
      rw [lt_iff_nanos]
      omega
    simp only [Comparison.known?, Comparison.holds, hiff]
    by_cases h : d < now - claimed <;> simp [h]
  have hcast (a b c : Nat) : (a : Int) < b - c ↔ a < b - c := by omega
  rcases Nat.lt_or_ge n (2 ^ 53) with hn | hn
  · rw [Duration.interval_of_lt hn]
    exact (hless _).trans (decide_eq_decide.mpr (hcast _ _ _))
  · -- Neither the database nor the lease lets a claim of the calendar expire.
    have hyoung : ¬ Duration.ofSeconds n < now - claimed := by
      have hmono : (Duration.ofSeconds (2 ^ 53) : Int) ≤ (Duration.ofSeconds n : Int) :=
        Int.ofNat_le.mpr (Nat.mul_le_mul_right _ hn)
      rw [← hcast]
      omega
    rw [decide_eq_false hyoung]
    cases hd : (Duration.ofSeconds n).bound.interval? with
    | none => rfl
    | some d =>
      have hlarge := Duration.interval_of_le hn hd
      refine (hless d).trans (decide_eq_false ?_)
      omega

end Delivery
