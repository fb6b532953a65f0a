import Mathlib.Algebra.Order.Ring.Nat
import Mathlib.Data.Nat.Log
import Delivery.Double.Basic

/-!
# Rounding to the format

A count of units is rounded to the nearest one that has at most 53 significant bits; of two equally
near ones, to the one with an even significand. Three facts carry all that is said later about
computed numbers: what is rounded has 53 bits (`fits_nearestUnits`), a count with 53 bits is left as
it is (`nearestUnits_of_fits`), and rounding keeps the order (`nearestUnits_mono`). The last two put
a rounded count on the same side of any count with 53 bits as the exact one.

An exact count is a fraction. Fractions are compared by cross multiplication.
-/

namespace Delivery.Double

/-! ### The nearest natural number -/

section NearestEven

variable {num den num' den' : Nat}

/-- The nearest natural number is at most a half away, and even if it is exactly that. -/
theorem nearestEven_near (num : Nat) (hden : 0 < den) :
    2 * (nearestEven num den * den) ≤ 2 * num + den ∧
      2 * num ≤ 2 * (nearestEven num den * den) + den ∧
      (2 * (nearestEven num den * den) = 2 * num + den ∨
        2 * num = 2 * (nearestEven num den * den) + den → nearestEven num den % 2 = 0) := by
  have hsplit : num / den * den + num % den = num := Nat.div_add_mod' num den
  have hlt : num % den < den := Nat.mod_lt num hden
  have hsucc : (num / den + 1) * den = num / den * den + den := Nat.succ_mul _ _
  unfold nearestEven
  dsimp only
  split
  · exact ⟨by omega, by omega, by omega⟩
  · split
    · exact ⟨by omega, by omega, by omega⟩
    · -- a tie: the odd one of the two neighbours gives way
      rcases Nat.mod_two_eq_zero_or_one (num / den) with heven | hodd
      · rw [heven, Nat.add_zero]
        exact ⟨by omega, by omega, fun _ => heven⟩
      · rw [hodd]
        exact ⟨by omega, by omega, fun _ => by omega⟩

theorem nearestEven_mul (k : Nat) (hden : 0 < den) : nearestEven (k * den) den = k := by
  unfold nearestEven
  dsimp only
  rw [Nat.mul_mod_left, Nat.mul_zero, if_pos hden, Nat.mul_div_left k hden]

/-- The nearest natural number follows the order of the fractions. -/
theorem nearestEven_mono (hden : 0 < den) (hden' : 0 < den') (h : num * den' ≤ num' * den) :
    nearestEven num den ≤ nearestEven num' den' := by
  obtain ⟨hlow, -, htie⟩ := nearestEven_near num hden
  obtain ⟨-, hhigh, htie'⟩ := nearestEven_near num' hden'
  generalize nearestEven num den = q at *
  generalize nearestEven num' den' = q' at *
  by_contra hlt
  have hstep : q' * (den * den') + den * den' ≤ q * (den * den') := by
    rw [← Nat.succ_mul]
    exact Nat.mul_le_mul_right _ (Nat.not_le.mp hlt)
  have hlow' : 2 * (q * (den * den')) ≤ 2 * (num * den') + den * den' := by
    have hscaled := Nat.mul_le_mul_right den' hlow
    rwa [Nat.add_mul, Nat.mul_assoc, Nat.mul_assoc, Nat.mul_assoc] at hscaled
  have hhigh' : 2 * (num' * den) ≤ 2 * (q' * (den * den')) + den * den' := by
    have hscaled := Nat.mul_le_mul_right den hhigh
    rwa [Nat.add_mul, Nat.mul_assoc, Nat.mul_assoc, Nat.mul_assoc, Nat.mul_comm den' den]
      at hscaled
  -- so both are ties between the same two neighbours, and both neighbours would be even
  have hnext : q * (den * den') = q' * (den * den') + den * den' := by omega
  have hq : q = q' + 1 := by
    rw [← Nat.succ_mul] at hnext
    exact Nat.eq_of_mul_eq_mul_right (Nat.mul_pos hden hden') hnext
  have heven : q % 2 = 0 := htie <| Or.inl <| by
    refine Nat.eq_of_mul_eq_mul_right hden' ?_
    rw [Nat.add_mul, Nat.mul_assoc, Nat.mul_assoc, Nat.mul_assoc]
    omega
  have heven' : q' % 2 = 0 := htie' <| Or.inr <| by
    refine Nat.eq_of_mul_eq_mul_right hden ?_
    rw [Nat.add_mul, Nat.mul_assoc, Nat.mul_assoc, Nat.mul_assoc, Nat.mul_comm den' den]
    omega
  omega

theorem nearestEven_mul_right (num : Nat) (hden : 0 < den) {c : Nat} (hc : 0 < c) :
    nearestEven (num * c) (den * c) = nearestEven num den := by
  have hsame : num * c * den = num * (den * c) := by rw [Nat.mul_assoc, Nat.mul_comm c]
  have hdenc := Nat.mul_pos hden hc
  exact Nat.le_antisymm (nearestEven_mono hdenc hden hsame.le)
    (nearestEven_mono hden hdenc hsame.ge)

theorem nearestEven_le (hden : 0 < den) {k : Nat} (h : num ≤ k * den) :
    nearestEven num den ≤ k := by
  have hmono := nearestEven_mono hden hden (Nat.mul_le_mul_right den h)
  rwa [nearestEven_mul _ hden] at hmono

theorem le_nearestEven (hden : 0 < den) {k : Nat} (h : k * den ≤ num) :
    k ≤ nearestEven num den := by
  have hmono := nearestEven_mono hden hden (Nat.mul_le_mul_right den h)
  rwa [nearestEven_mul _ hden] at hmono

end NearestEven

/-! ### Counts with 53 significant bits -/

/-- The count has at most 53 significant bits. -/
def Fits (units : Nat) : Prop := gap units ∣ units

instance (units : Nat) : Decidable (Fits units) :=
  inferInstanceAs (Decidable (gap units ∣ units))

theorem gap_eq (units : Nat) : gap units = 2 ^ (Nat.log2 units - 52) := rfl

theorem gap_pos (units : Nat) : 0 < gap units := Nat.two_pow_pos _

theorem gap_dvd_gap {units units' : Nat} (h : units ≤ units') : gap units ∣ gap units' := by
  have hlog : Nat.log2 units ≤ Nat.log2 units' := by
    rw [Nat.log2_eq_log_two, Nat.log2_eq_log_two]
    exact Nat.log_mono_right h
  exact Nat.pow_dvd_pow 2 (Nat.sub_le_sub_right hlog 52)

theorem lt_gap (units : Nat) : units < 2 ^ 53 * gap units := by
  have hlt : units < 2 ^ (Nat.log2 units + 1) := Nat.lt_log2_self
  refine Nat.lt_of_lt_of_le hlt ?_
  rw [gap_eq, ← Nat.pow_add]
  exact Nat.pow_le_pow_right (by decide) (by omega)

theorem gap_le {units : Nat} (h : 1 < gap units) : 2 ^ 52 * gap units ≤ units := by
  have hlog : 52 < Nat.log2 units := by
    by_contra hle
    rw [gap_eq, Nat.sub_eq_zero_of_le (Nat.not_lt.mp hle)] at h
    exact absurd h (by decide)
  have hne : units ≠ 0 := by
    rintro rfl
    exact absurd hlog (by decide)
  rw [gap_eq, ← Nat.pow_add, Nat.add_sub_cancel' (Nat.le_of_lt hlog)]
  exact Nat.log2_self_le hne

theorem gap_of_lt {units e : Nat} (hge : 2 ^ (52 + e) ≤ units) (hlt : units < 2 ^ (53 + e)) :
    gap units = 2 ^ e := by
  have hne : units ≠ 0 := (Nat.lt_of_lt_of_le (Nat.two_pow_pos _) hge).ne'
  have hlow : 52 + e ≤ Nat.log2 units := (Nat.le_log2 hne).mpr hge
  have hhigh : Nat.log2 units < 53 + e := (Nat.log2_lt hne).mpr hlt
  rw [gap_eq]
  exact congrArg (2 ^ ·) (by omega)

theorem fits_iff {units : Nat} : Fits units ↔ ∃ q e, q ≤ 2 ^ 53 ∧ units = q * 2 ^ e := by
  constructor
  · rintro ⟨q, hq⟩
    have hlt : gap units * q < gap units * 2 ^ 53 := by
      rw [← hq, Nat.mul_comm]
      exact lt_gap units
    exact ⟨q, Nat.log2 units - 52, Nat.le_of_lt (Nat.lt_of_mul_lt_mul_left hlt),
      hq.trans (Nat.mul_comm _ _)⟩
  · rintro ⟨q, e, hq, rfl⟩
    rcases Nat.lt_or_eq_of_le hq with hlt | rfl
    · rcases Nat.eq_zero_or_pos q with rfl | hpos
      · rw [Nat.zero_mul]
        exact Nat.dvd_zero _
      · have hlog : Nat.log2 (q * 2 ^ e) < 53 + e := by
          rw [Nat.log2_lt (Nat.mul_pos hpos (Nat.two_pow_pos e)).ne', Nat.pow_add]
          exact Nat.mul_lt_mul_of_pos_right hlt (Nat.two_pow_pos e)
        exact Nat.dvd_mul_left_of_dvd (Nat.pow_dvd_pow 2 (by omega)) q
    · rw [Fits, gap_eq, ← Nat.pow_add, Nat.log2_two_pow]
      exact Nat.pow_dvd_pow 2 (Nat.sub_le _ _)

/-! ### The nearest count -/

section NearestUnits

variable {num den num' den' units : Nat}

theorem lt_gap_mul (num : Nat) (hden : 0 < den) :
    num < 2 ^ 53 * (den * gap (num / den)) := by
  have hlt := lt_gap (num / den)
  rwa [Nat.div_lt_iff_lt_mul hden, Nat.mul_assoc, Nat.mul_comm (gap _) den] at hlt

theorem fits_nearestUnits (num : Nat) (hden : 0 < den) : Fits (nearestUnits num den) :=
  fits_iff.mpr ⟨nearestEven num (den * gap (num / den)), _,
    nearestEven_le (Nat.mul_pos hden (gap_pos _)) (Nat.le_of_lt (lt_gap_mul num hden)), rfl⟩

/-- Of a count that needs no fraction, the nearest one does not depend on how it is written. -/
theorem nearestUnits_mul (units : Nat) (hden : 0 < den) :
    nearestUnits (units * den) den = nearestEven units (gap units) * gap units := by
  unfold nearestUnits
  dsimp only
  rw [Nat.mul_div_left _ hden, Nat.mul_comm den, nearestEven_mul_right units (gap_pos units) hden]

theorem nearestUnits_of_fits (hden : 0 < den) (h : Fits units) :
    nearestUnits (units * den) den = units := by
  obtain ⟨q, hq⟩ := h
  have hexact : nearestEven units (gap units) = q := by
    have hmul := nearestEven_mul q (gap_pos units)
    rwa [Nat.mul_comm, ← hq] at hmul
  rw [nearestUnits_mul units hden, hexact, Nat.mul_comm, ← hq]

theorem div_le_div_of_cross (hden : 0 < den) (hden' : 0 < den') (h : num * den' ≤ num' * den) :
    num / den ≤ num' / den' := by
  rw [Nat.le_div_iff_mul_le hden']
  refine Nat.le_of_mul_le_mul_right (c := den) ?_ hden
  calc num / den * den' * den = num / den * den * den' := Nat.mul_right_comm _ _ _
    _ ≤ num * den' := Nat.mul_le_mul_right den' (Nat.div_mul_le_self num den)
    _ ≤ num' * den := h

/-- The nearest count follows the order of the fractions. -/
theorem nearestUnits_mono (hden : 0 < den) (hden' : 0 < den') (h : num * den' ≤ num' * den) :
    nearestUnits num den ≤ nearestUnits num' den' := by
  have hfloor := div_le_div_of_cross hden hden' h
  obtain ⟨k, hk⟩ := gap_dvd_gap hfloor
  have hg := gap_pos (num / den)
  have hg' := gap_pos (num' / den')
  have hlt := lt_gap_mul num hden
  have hle : 1 < gap (num' / den') → 2 ^ 52 * gap (num' / den') ≤ num' / den' := gap_le
  rw [Nat.le_div_iff_mul_le hden', Nat.mul_assoc, Nat.mul_comm (gap _) den'] at hle
  show nearestEven num (den * gap (num / den)) * gap (num / den) ≤
    nearestEven num' (den' * gap (num' / den')) * gap (num' / den')
  generalize gap (num / den) = g at *
  generalize gap (num' / den') = g' at *
  have hd := Nat.mul_pos hden hg
  have hd' := Nat.mul_pos hden' hg'
  rcases Nat.lt_or_ge 1 k with hmany | hfew
  · -- the power of two where the larger gap begins lies between the two
    have hbelow : nearestEven num (den * g) ≤ 2 ^ 52 * k := by
      refine nearestEven_le hd (Nat.le_of_lt (Nat.lt_of_lt_of_le hlt ?_))
      exact Nat.mul_le_mul_right _ (by omega)
    have hone : 1 < g' := by
      rw [hk]
      exact Nat.lt_of_lt_of_le hmany (Nat.le_mul_of_pos_left k hg)
    calc nearestEven num (den * g) * g ≤ 2 ^ 52 * k * g := Nat.mul_le_mul_right g hbelow
      _ = 2 ^ 52 * g' := by rw [hk, Nat.mul_assoc, Nat.mul_comm k]
      _ ≤ nearestEven num' (den' * g') * g' :=
        Nat.mul_le_mul_right g' (le_nearestEven hd' (hle hone))
  · obtain rfl : k = 1 := by
      refine Nat.le_antisymm hfew (Nat.pos_of_ne_zero ?_)
      rintro rfl
      rw [hk, Nat.mul_zero] at hg'
      exact absurd hg' (Nat.lt_irrefl 0)
    obtain rfl : g' = g := hk.trans (Nat.mul_one g)
    refine Nat.mul_le_mul_right g' (nearestEven_mono hd hd' ?_)
    rw [← Nat.mul_assoc, ← Nat.mul_assoc]
    exact Nat.mul_le_mul_right g' h

theorem nearestUnits_le (hden : 0 < den) (h : Fits units) (hle : num ≤ units * den) :
    nearestUnits num den ≤ units := by
  have hmono := nearestUnits_mono hden hden (Nat.mul_le_mul_right den hle)
  rwa [nearestUnits_of_fits hden h] at hmono

theorem le_nearestUnits (hden : 0 < den) (h : Fits units) (hle : units * den ≤ num) :
    units ≤ nearestUnits num den := by
  have hmono := nearestUnits_mono hden hden (Nat.mul_le_mul_right den hle)
  rwa [nearestUnits_of_fits hden h] at hmono

end NearestUnits

/-! ### Whole numbers -/

theorem unitsPerOne_pos : 0 < unitsPerOne := by decide +kernel

theorem unitsPerOne_eq : ∃ e, unitsPerOne = 2 ^ (53 + e) := ⟨1021, by decide +kernel⟩

theorem mul_unitsPerOne_lt : 2 ^ 53 * unitsPerOne < unitsLimit := by decide +kernel

-- Written out as numerals they have hundreds of digits.
attribute [local irreducible] unitsPerOne unitsLimit

/-- A whole number. The format has all of them up to `2 ^ 53`. -/
def whole (n : Nat) : Double := .finite false (n * unitsPerOne)

theorem fits_whole {n : Nat} (h : n ≤ 2 ^ 53) : Fits (n * unitsPerOne) := by
  obtain ⟨e, he⟩ := unitsPerOne_eq
  exact fits_iff.mpr ⟨n, 53 + e, h, by rw [he]⟩

theorem whole_lt {n : Nat} (h : n ≤ 2 ^ 53) : n * unitsPerOne < unitsLimit :=
  Nat.lt_of_le_of_lt (Nat.mul_le_mul_right _ h) mul_unitsPerOne_lt

/-! ### Rounded numbers -/

section Round

variable {num den units : Nat}

theorem round_of_lt (negative : Bool) (h : nearestUnits num den < unitsLimit) :
    round negative num den = .finite negative (nearestUnits num den) := if_pos h

theorem round_of_le (negative : Bool) (h : unitsLimit ≤ nearestUnits num den) :
    round negative num den = .infinite negative := if_neg (Nat.not_lt_of_le h)

theorem round_exact {n : Nat} (hden : 0 < den) (h : n ≤ 2 ^ 53) :
    round false (n * unitsPerOne * den) den = whole n := by
  have hkept := nearestUnits_of_fits hden (fits_whole h)
  rw [round_of_lt false (by rw [hkept]; exact whole_lt h), hkept, whole]

theorem round_zero (hden : 0 < den) : round false 0 den = .finite false 0 := by
  have hexact := round_exact hden (Nat.zero_le (2 ^ 53))
  rwa [whole, Nat.zero_mul, Nat.zero_mul] at hexact

theorem ofNat_of_le {n : Nat} (h : n ≤ 2 ^ 53) : ofNat n = whole n := by
  have hexact := round_exact Nat.one_pos h
  rwa [Nat.mul_one] at hexact

/-- At least so many units, or beyond all numbers. -/
def IsLarge (units : Nat) : Double → Prop
  | finite false n => units ≤ n
  | infinite false => True
  | _ => False

theorem isLarge_round (hden : 0 < den) (hfits : Fits units) (h : units * den ≤ num) :
    (round false num den).IsLarge units := by
  rcases Nat.lt_or_ge (nearestUnits num den) unitsLimit with hlt | hge
  · rw [round_of_lt false hlt]
    exact le_nearestUnits hden hfits h
  · rw [round_of_le false hge]
    trivial

theorem isLarge_cases {x : Double} (h : x.IsLarge units) :
    x = .infinite false ∨ ∃ n, x = .finite false n ∧ units ≤ n := by
  cases x with
  | nan => cases h
  | infinite negative =>
    cases negative with
    | true => cases h
    | false => exact .inl rfl
  | finite negative n =>
    cases negative with
    | true => cases h
    | false => exact .inr ⟨n, rfl, h⟩

end Round

/-- A product and what is added to it, when they come to a natural number and one of them has no
sign. -/
theorem addProduct_eq {negative negative' : Bool} {num units total : Nat}
    (hsign : (negative && negative') = false)
    (h : signedUnits negative num + signedUnits negative' (units * unitsPerOne) = (total : Int)) :
    addProduct negative num (.finite negative' units) = round false total unitsPerOne := by
  rw [addProduct, h]
  by_cases hzero : total = 0
  · rw [hzero, hsign, if_pos Int.natCast_zero, round_zero unitsPerOne_pos]
  · have hnonneg : decide ((total : Int) < 0) = false := decide_eq_false (by omega)
    rw [if_neg (by omega), hnonneg, Int.natAbs_natCast]

/-! ### Comparisons -/

theorem le_finite (m n : Nat) : (finite false m).le (finite false n) = decide (m ≤ n) :=
  decide_eq_decide.mpr Int.ofNat_le

theorem lt_finite (m n : Nat) : (finite false m).lt (finite false n) = decide (m < n) :=
  decide_eq_decide.mpr Int.ofNat_lt

/-! ### Numbers of the format -/

/-- The finite numbers of the format, the two infinite ones and what is not a number. -/
def InFormat : Double → Prop
  | .finite _ units => Fits units ∧ units < unitsLimit
  | _ => True

instance : DecidablePred InFormat
  | .nan => isTrue trivial
  | .infinite _ => isTrue trivial
  | .finite _ units => inferInstanceAs (Decidable (Fits units ∧ units < unitsLimit))

theorem inFormat_round (negative : Bool) (num : Nat) {den : Nat} (hden : 0 < den) :
    (round negative num den).InFormat := by
  rcases Nat.lt_or_ge (nearestUnits num den) unitsLimit with hlt | hge
  · rw [round_of_lt negative hlt]
    exact ⟨fits_nearestUnits num hden, hlt⟩
  · rw [round_of_le negative hge]
    trivial

/-- A product is always rounded. -/
theorem inFormat_mul (x y : Double) : (x.mul y).InFormat := by
  cases x with
  | nan => trivial
  | infinite a =>
    cases y with
    | nan => trivial
    | infinite b => trivial
    | finite b n =>
      rw [mul]
      split <;> trivial
  | finite a m =>
    cases y with
    | nan => trivial
    | infinite b =>
      rw [mul]
      split <;> trivial
    | finite b n => exact inFormat_round _ _ unitsPerOne_pos

end Delivery.Double
