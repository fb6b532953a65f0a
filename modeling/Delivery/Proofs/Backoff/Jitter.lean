import Delivery.Proofs.Backoff.Exact

/-!
# The window of jitter

A sample matters only through its portion, what is left of it between nought and one. The weight of
a portion, by which the delay is multiplied, and the delay itself follow the order of the portions,
since each step rounds and rounding keeps the order. In the middle of the window the weight is
exactly one, whatever the factor: either nothing is lost when the factor is taken from one, or what
is lost is too little to be seen in the sum (`nearestUnits_complement`). A number that is not above
the cap once both are rounded is not above the exact cap either, because it was rounded itself.
Main statement: `ExponentialBackoff.jitterWindow_of_create`.
-/

namespace Delivery

-- Both are too large to be written out as numerals.
attribute [local irreducible] Double.unitsPerOne Double.unitsLimit

namespace Double

/-! ### Portions -/

/-- What is left of a number between nought and one. -/
def portion : Double → Nat
  | .nan => 0
  | .infinite negative => if negative then 0 else unitsPerOne
  | .finite negative units => if negative then 0 else min units unitsPerOne

theorem portion_le (x : Double) : x.portion ≤ unitsPerOne := by
  cases x with
  | nan => exact Nat.zero_le _
  | infinite negative => cases negative <;> simp [portion]
  | finite negative units =>
    cases negative with
    | true => exact Nat.zero_le _
    | false => exact Nat.min_le_right units unitsPerOne

/-- A number that is forced into the interval is its portion, with a sign only on nought. -/
theorem clampUnit_eq {x : Double} (h : x ≠ .nan) :
    ∃ negative, x.clampUnit = .finite negative x.portion ∧ (negative = true → x.portion = 0) := by
  have hpos := unitsPerOne_pos
  cases x with
  | nan => exact absurd rfl h
  | infinite negative => cases negative <;> exact ⟨false, rfl, nofun⟩
  | finite negative units =>
    cases negative with
    | false =>
      refine ⟨false, ?_, nofun⟩
      rw [clampUnit, zero, one, lt_finite, lt_finite, decide_eq_false (Nat.not_lt_zero units)]
      show (if decide (unitsPerOne < units) = true then _ else _) = finite false (min _ _)
      rcases Nat.lt_or_ge unitsPerOne units with hlt | hge
      · rw [if_pos (decide_eq_true hlt), Nat.min_eq_right (Nat.le_of_lt hlt)]
      · rw [decide_eq_false (Nat.not_lt_of_le hge), Nat.min_eq_left hge]
        rfl
    | true =>
      rcases Nat.eq_zero_or_pos units with rfl | hunits
      · exact ⟨true, by simp [clampUnit, lt, zero, one, signedUnits, portion], fun _ => rfl⟩
      · exact ⟨false, by simp [clampUnit, lt, zero, signedUnits, portion, hunits], nofun⟩

theorem ne_nan_of_le {x y : Double} (h : x.le y = true) : x ≠ .nan ∧ y ≠ .nan := by
  cases x <;> cases y <;> simp_all [le]

theorem not_le_of_lt {x y : Double} (h : x.lt y = true) : y.le x = false := by
  cases x with
  | nan => cases h
  | infinite a => cases y <;> cases a <;> simp_all [lt, le]
  | finite a m =>
    cases y with
    | nan => rfl
    | infinite b => simp_all [lt, le]
    | finite b n =>
      have hlt : signedUnits a m < signedUnits b n := of_decide_eq_true h
      exact decide_eq_false (Int.not_le.mpr hlt)

theorem half_ne_nan : half ≠ .nan := by
  unfold half
  nofun

theorem portion_mono {x y : Double} (h : x.le y = true) : x.portion ≤ y.portion := by
  cases x with
  | nan => exact Nat.zero_le _
  | infinite a =>
    cases a with
    | true => exact Nat.zero_le _
    | false =>
      cases y with
      | nan => cases h
      | infinite b =>
        cases b with
        | true => cases h
        | false => exact Nat.le_refl _
      | finite b n => cases h
  | finite a m =>
    cases a with
    | true => exact Nat.zero_le _
    | false =>
      cases y with
      | nan => cases h
      | infinite b =>
        cases b with
        | true => cases h
        | false => exact Nat.min_le_right m unitsPerOne
      | finite b n =>
        cases b with
        | true =>
          have hle : (m : Int) ≤ -(n : Int) := of_decide_eq_true h
          have hm : m = 0 := by omega
          simp [portion, hm]
        | false =>
          rw [le_finite] at h
          have hle := of_decide_eq_true h
          show min m unitsPerOne ≤ min n unitsPerOne
          omega

theorem portion_of_le_zero {x : Double} (h : x.le zero = true) : x.portion = 0 :=
  Nat.le_zero.mp (portion_mono h)

theorem portion_of_one_le {x : Double} (h : one.le x = true) : x.portion = unitsPerOne := by
  have hone : one.portion = unitsPerOne := Nat.min_self unitsPerOne
  exact Nat.le_antisymm (portion_le x) (hone ▸ portion_mono h)

/-! ### A number and what is left of one -/

theorem fits_unitsPerOne : Fits unitsPerOne := by
  have hone := fits_whole (show 1 ≤ 2 ^ 53 by decide)
  rwa [Nat.one_mul] at hone

/-- Above a half nothing is lost when a number is taken from one. -/
theorem fits_complement {n : Nat} (h : Fits n) (hle : n ≤ unitsPerOne)
    (hhalf : unitsPerOne ≤ 2 * n) : Fits (unitsPerOne - n) := by
  have hgap : gap (unitsPerOne - n) ∣ gap n := gap_dvd_gap (by omega)
  have hone : gap n ∣ unitsPerOne := Nat.dvd_trans (gap_dvd_gap hle) fits_unitsPerOne
  exact Nat.dvd_trans hgap (Nat.dvd_sub hone h)

/-- What differs from one by at most half of the gap below it is rounded to one. -/
theorem nearestUnits_near_one {v e den : Nat} (hden : 0 < den) (he : unitsPerOne = 2 ^ (53 + e))
    (hlow : 2 * unitsPerOne ≤ 2 * v + 2 ^ e) (hhigh : 2 * v ≤ 2 * unitsPerOne + 2 ^ e) :
    nearestUnits (v * den) den = unitsPerOne := by
  have hone : unitsPerOne = 2 ^ 53 * 2 ^ e := he.trans (Nat.pow_add 2 53 e)
  have hpos : 0 < 2 ^ e := Nat.two_pow_pos e
  rcases Nat.lt_or_ge v unitsPerOne with hlt | hge
  · -- from below it may be a tie, and of the two neighbours one is the even one
    have hgap : gap v = 2 ^ e := by
      refine gap_of_lt ?_ (he ▸ hlt)
      have hhalf : 2 ^ (52 + e) = 2 ^ 52 * 2 ^ e := Nat.pow_add 2 52 e
      omega
    obtain ⟨hnear, hnear', htie⟩ := nearestEven_near v hpos
    rw [nearestUnits_mul v hden, hgap, hone]
    generalize nearestEven v (2 ^ e) = q at *
    have hq : q = 2 ^ 53 := by
      rcases Nat.lt_trichotomy q (2 ^ 53) with hless | heq | hmore
      · have hmul : q * 2 ^ e ≤ (2 ^ 53 - 1) * 2 ^ e := Nat.mul_le_mul_right _ (by omega)
        have heven := htie (by omega)
        have hodd : q = 2 ^ 53 - 1 := by
          by_contra hne
          have hmul' : q * 2 ^ e ≤ (2 ^ 53 - 2) * 2 ^ e := Nat.mul_le_mul_right _ (by omega)
          omega
        omega
      · exact heq
      · have hmul : (2 ^ 53 + 1) * 2 ^ e ≤ q * 2 ^ e := Nat.mul_le_mul_right _ hmore
        omega
    rw [hq]
  · have hgap : gap v = 2 ^ (e + 1) := by
      refine gap_of_lt ?_ ?_
      · rw [he] at hge
        exact Nat.le_trans (Nat.le_of_eq (congrArg (2 ^ ·) (by omega))) hge
      · have htwice : 2 ^ (53 + (e + 1)) = 2 ^ 54 * 2 ^ e := by
          rw [← Nat.pow_add]
          exact congrArg (2 ^ ·) (by omega)
        omega
    have hdouble : 2 ^ (e + 1) = 2 * 2 ^ e := Nat.pow_succ'
    have hone' : unitsPerOne = 2 ^ 52 * (2 * 2 ^ e) := by omega
    obtain ⟨hnear, hnear', -⟩ := nearestEven_near v (Nat.two_pow_pos (e + 1))
    rw [nearestUnits_mul v hden, hgap, hdouble, hone']
    rw [hdouble] at hnear hnear'
    generalize nearestEven v (2 * 2 ^ e) = q at *
    have hq : q = 2 ^ 52 := by
      rcases Nat.lt_trichotomy q (2 ^ 52) with hless | heq | hmore
      · have hmul : q * (2 * 2 ^ e) ≤ (2 ^ 52 - 1) * (2 * 2 ^ e) :=
          Nat.mul_le_mul_right _ (by omega)
        omega
      · exact heq
      · have hmul : (2 ^ 52 + 1) * (2 * 2 ^ e) ≤ q * (2 * 2 ^ e) := Nat.mul_le_mul_right _ hmore
        omega
    rw [hq]

/-- A number and what is rounded of the rest of one make one again, once their sum is rounded. -/
theorem nearestUnits_complement {n den : Nat} (hden : 0 < den) (h : Fits n)
    (hle : n ≤ unitsPerOne) :
    nearestUnits ((n + nearestUnits ((unitsPerOne - n) * den) den) * den) den = unitsPerOne := by
  by_cases hhalf : unitsPerOne ≤ 2 * n
  · rw [nearestUnits_of_fits hden (fits_complement h hle hhalf), Nat.add_sub_cancel' hle,
      nearestUnits_of_fits hden fits_unitsPerOne]
  · rcases Nat.eq_zero_or_pos n with rfl | hpos
    · rw [Nat.zero_add, Nat.sub_zero, nearestUnits_of_fits hden fits_unitsPerOne,
        nearestUnits_of_fits hden fits_unitsPerOne]
    · obtain ⟨e, he⟩ := unitsPerOne_eq
      have hone : unitsPerOne = 2 * 2 ^ (52 + e) := by
        rw [he, ← Nat.pow_succ']
        exact congrArg (2 ^ ·) (by omega)
      have hgap : gap (unitsPerOne - n) = 2 ^ e := by
        refine gap_of_lt (by omega) ?_
        rw [← he]
        omega
      obtain ⟨hnear, hnear', -⟩ := nearestEven_near (unitsPerOne - n) (gap_pos _)
      rw [nearestUnits_mul (unitsPerOne - n) hden]
      rw [hgap] at hnear hnear' ⊢
      exact nearestUnits_near_one hden he (by omega) (by omega)

/-! ### Weights -/

/-- What is left of one when a factor is taken away. -/
def rest (factor : Nat) : Nat := nearestUnits ((unitsPerOne - factor) * unitsPerOne) unitsPerOne

/-- What the delay is multiplied by, for a factor and a portion. -/
def weight (factor portion : Nat) : Nat :=
  nearestUnits (2 * factor * portion + rest factor * unitsPerOne) unitsPerOne

theorem weight_mono (factor : Nat) {portion portion' : Nat} (h : portion ≤ portion') :
    weight factor portion ≤ weight factor portion' :=
  nearestUnits_mono unitsPerOne_pos unitsPerOne_pos
    (Nat.mul_le_mul_right _ (Nat.add_le_add_right (Nat.mul_le_mul_left _ h) _))

theorem weight_lt {factor portion : Nat} (hfactor : factor ≤ unitsPerOne)
    (hportion : portion ≤ unitsPerOne) : weight factor portion < unitsLimit := by
  have hrest : rest factor ≤ unitsPerOne :=
    nearestUnits_le unitsPerOne_pos fits_unitsPerOne (Nat.mul_le_mul_right _ (Nat.sub_le _ _))
  have hfour : (4 : Nat) ≤ 2 ^ 53 := by decide
  refine Nat.lt_of_le_of_lt (nearestUnits_le unitsPerOne_pos (fits_whole hfour) ?_) (whole_lt hfour)
  have hproduct : factor * portion ≤ unitsPerOne * unitsPerOne := Nat.mul_le_mul hfactor hportion
  have hkept : rest factor * unitsPerOne ≤ unitsPerOne * unitsPerOne :=
    Nat.mul_le_mul_right _ hrest
  rw [Nat.mul_assoc, Nat.mul_assoc]
  omega

/-- The weight in the middle is one. -/
theorem weight_half {factor : Nat} (h : Fits factor) (hle : factor ≤ unitsPerOne) :
    weight factor half.portion = unitsPerOne := by
  have hhalf : 2 * half.portion = unitsPerOne := by decide +kernel
  have hproduct : 2 * factor * half.portion = factor * unitsPerOne := by
    rw [Nat.mul_comm 2, Nat.mul_assoc, hhalf]
  rw [weight, hproduct, ← Nat.add_mul]
  exact nearestUnits_complement unitsPerOne_pos h hle

theorem two_mul {factor : Nat} (h : Fits factor) (hle : factor ≤ unitsPerOne) :
    two.mul (.finite false factor) = .finite false (2 * factor) := by
  obtain ⟨q, e, hq, heq⟩ := fits_iff.mp h
  have hfits : Fits (2 * factor) := fits_iff.mpr ⟨q, e + 1, hq, by rw [heq, Nat.pow_succ']; ac_rfl⟩
  have hkept : nearestUnits (2 * unitsPerOne * factor) unitsPerOne = 2 * factor := by
    rw [Nat.mul_right_comm]
    exact nearestUnits_of_fits unitsPerOne_pos hfits
  have hlt : 2 * factor < unitsLimit :=
    Nat.lt_of_le_of_lt (Nat.mul_le_mul_left 2 hle) (whole_lt (by decide))
  show round false (2 * unitsPerOne * factor) unitsPerOne = _
  rw [round_of_lt false (by rwa [hkept]), hkept]

theorem one_sub {factor : Nat} (hle : factor ≤ unitsPerOne) :
    one.sub (.finite false factor) = .finite false (rest factor) := by
  have htotal : signedUnits false (unitsPerOne * unitsPerOne) +
      signedUnits true (factor * unitsPerOne) = ((unitsPerOne - factor) * unitsPerOne : Nat) := by
    have hmul := Nat.mul_le_mul_right unitsPerOne hle
    simp only [signedUnits, Bool.false_eq_true, if_false, if_true, Nat.sub_mul]
    omega
  have hrest : rest factor ≤ unitsPerOne :=
    nearestUnits_le unitsPerOne_pos fits_unitsPerOne (Nat.mul_le_mul_right _ (Nat.sub_le _ _))
  have hlt : rest factor < unitsLimit := by
    have hone := whole_lt (show 1 ≤ 2 ^ 53 by decide)
    rw [Nat.one_mul] at hone
    exact Nat.lt_of_le_of_lt hrest hone
  have hround : addProduct false (unitsPerOne * unitsPerOne) (.finite true factor) =
      round false ((unitsPerOne - factor) * unitsPerOne) unitsPerOne := addProduct_eq rfl htotal
  show addProduct false (unitsPerOne * unitsPerOne) (.finite true factor) = _
  rw [hround, round_of_lt false hlt, rest]

/-! ### Products of unsigned numbers -/

theorem isNegative_round (num den : Nat) : (round false num den).isNegative = false := by
  unfold round
  dsimp only
  split <;> rfl

theorem isNegative_mul {x y : Double} (hx : x.isNegative = false) (hy : y.isNegative = false) :
    (x.mul y).isNegative = false := by
  have hxor {s t : Bool} (hs : s = false) (ht : t = false) : (s ^^ t) = false := by
    rw [hs, ht]
    rfl
  cases x with
  | nan => rfl
  | infinite a =>
    cases y with
    | nan => rfl
    | infinite b => exact hxor hx hy
    | finite b n =>
      rw [mul]
      split
      · rfl
      · exact hxor hx hy
  | finite a m =>
    cases y with
    | nan => rfl
    | infinite b =>
      rw [mul]
      split
      · rfl
      · exact hxor hx hy
    | finite b n =>
      have hsign : (a ^^ b) = false := hxor hx hy
      rw [mul, hsign]
      exact isNegative_round _ _

theorem isNegative_powerInto {acc base : Double} (hacc : acc.isNegative = false)
    (hbase : base.isNegative = false) (n : Nat) : (powerInto acc base n).isNegative = false := by
  induction n using Nat.strong_induction_on generalizing acc base with
  | _ n ih =>
    have hnext : (if n % 2 = 1 then acc.mul base else acc).isNegative = false := by
      split
      · exact isNegative_mul hacc hbase
      · exact hacc
    rw [powerInto]
    generalize (if n % 2 = 1 then acc.mul base else acc) = acc' at hnext
    split
    · exact hnext
    · have hsmaller : n / 2 < n := by omega
      exact ih (n / 2) hsmaller hnext (isNegative_mul hbase hbase)

theorem isNegative_of_not_lt_one {x : Double} (h : x.lt one = false) : x.isNegative = false := by
  have hpos := unitsPerOne_pos
  cases x with
  | nan => rfl
  | infinite negative => exact h
  | finite negative units =>
    cases negative with
    | false => rfl
    | true =>
      have hnot : ¬ -(units : Int) < (unitsPerOne : Int) := of_decide_eq_false h
      omega

/-- What is above nought and not above one is a count without a sign. -/
theorem eq_finite_of_unit {x : Double} (hlow : zero.lt x = true) (hhigh : x.le one = true) :
    ∃ units, x = .finite false units ∧ units ≤ unitsPerOne := by
  cases x with
  | nan => cases hhigh
  | infinite negative =>
    cases negative with
    | false => cases hhigh
    | true => cases hlow
  | finite negative units =>
    cases negative with
    | false => exact ⟨units, rfl, of_decide_eq_true ((le_finite units unitsPerOne).symm.trans hhigh)⟩
    | true =>
      have habove : (0 : Int) < -(units : Int) := of_decide_eq_true hlow
      omega

theorem isFinite_mul_left {x : Double} (h : x.isFinite = false) (y : Double) :
    (x.mul y).isFinite = false := by
  cases x with
  | nan => rfl
  | infinite a =>
    cases y with
    | nan => rfl
    | infinite b => rfl
    | finite b n =>
      rw [mul]
      split <;> rfl
  | finite a m => cases h

theorem mul_one {units : Nat} (h : (finite false units).InFormat) :
    (finite false units).mul (.finite false unitsPerOne) = .finite false units := by
  have hkept := nearestUnits_of_fits unitsPerOne_pos h.1
  show round false (units * unitsPerOne) unitsPerOne = _
  rw [round_of_lt false (hkept.symm ▸ h.2), hkept]

end Double

/-! ### Spread delays -/

namespace ExponentialBackoff

open Double

variable {b : ExponentialBackoff}

theorem spread_eq {factor : Nat} (h : Fits factor) (hle : factor ≤ unitsPerOne) {sample : Double}
    (hsample : sample ≠ .nan) :
    spread (.finite false factor) sample = .finite false (weight factor sample.portion) := by
  obtain ⟨negative, hclamp, hnought⟩ := clampUnit_eq hsample
  have hlt := weight_lt hle (portion_le sample)
  rw [spread, two_mul h hle, one_sub hle, hclamp]
  have htotal : signedUnits (false ^^ negative) (2 * factor * sample.portion) +
      signedUnits false (rest factor * unitsPerOne) =
        (2 * factor * sample.portion + rest factor * unitsPerOne : Nat) := by
    cases negative with
    | false => simp [signedUnits]
    | true => simp [signedUnits, hnought rfl]
  show addProduct (false ^^ negative) (2 * factor * sample.portion) (.finite false (rest factor)) = _
  rw [addProduct_eq (Bool.and_false _) htotal, round_of_lt false hlt, weight]

/-! ### The cap -/

theorem capped_of_not_isFinite {nanos : Double} (h : nanos.isFinite = false) :
    b.capped nanos = b.maxDelay := by
  rw [capped, h]
  rfl

theorem capped_of_lt {units : Nat} (h : units < unitsLimit) :
    b.capped (.finite false units) =
      if nearestUnits (b.maxDelay * unitsPerOne) 1 ≤ units then b.maxDelay
      else min (units / unitsPerOne) (Nat.pow 2 64 - 1) := by
  rcases Nat.lt_or_ge (nearestUnits (b.maxDelay * unitsPerOne) 1) unitsLimit with hlt | hge
  · exact capped_finite (round_of_lt false hlt)
  · have hbeyond : Double.ofNat b.maxDelay = .infinite false := round_of_le false hge
    rw [capped, hbeyond, if_neg (Nat.not_le_of_lt (Nat.lt_of_lt_of_le h hge))]
    rfl

/-- What has been rounded is not above the cap, though the cap is rounded for the comparison. -/
theorem capped_le {nanos : Double} (h : nanos.InFormat) : b.capped nanos ≤ b.maxDelay := by
  cases nanos with
  | nan => exact Nat.le_refl _
  | infinite negative => exact Nat.le_refl _
  | finite negative units =>
    cases negative with
    | true =>
      rw [capped]
      split
      · exact Nat.le_refl _
      · exact Nat.zero_le _
    | false =>
      obtain ⟨hfits, hlt⟩ := h
      rw [capped_of_lt hlt]
      split
      · exact Nat.le_refl _
      · rename_i hbelow
        refine Nat.le_trans (Nat.min_le_left _ _) ?_
        by_contra habove
        refine hbelow (nearestUnits_le Nat.one_pos hfits ?_)
        rw [Nat.mul_one]
        exact Nat.le_trans (Nat.mul_le_mul_right _ (Nat.le_of_not_le habove))
          (Nat.div_mul_le_self units unitsPerOne)

theorem capped_mono {units units' : Nat} (h : (Double.finite false units).InFormat)
    (h' : units' < unitsLimit) (hle : units ≤ units') :
    b.capped (.finite false units) ≤ b.capped (.finite false units') := by
  rw [capped_of_lt h']
  split
  · exact capped_le h
  · rename_i hbelow
    rw [capped_of_lt h.2, if_neg fun hcap => hbelow (Nat.le_trans hcap hle)]
    have hfloor : units / unitsPerOne ≤ units' / unitsPerOne := Nat.div_le_div_right hle
    exact Nat.le_min.mpr
      ⟨Nat.le_trans (Nat.min_le_left _ _) hfloor, Nat.min_le_right _ _⟩

theorem capped_round_mono {num num' : Nat} (hle : num ≤ num') :
    b.capped (Double.round false num unitsPerOne) ≤
      b.capped (Double.round false num' unitsPerOne) := by
  have hmono := nearestUnits_mono unitsPerOne_pos unitsPerOne_pos
    (Nat.mul_le_mul_right unitsPerOne hle)
  rcases Nat.lt_or_ge (nearestUnits num' unitsPerOne) unitsLimit with hlt | hge
  · have hlt' := Nat.lt_of_le_of_lt hmono hlt
    rw [round_of_lt false hlt, round_of_lt false hlt']
    exact capped_mono ⟨fits_nearestUnits num unitsPerOne_pos, hlt'⟩ hlt hmono
  · rw [round_of_le false hge]
    exact capped_le (inFormat_round false num unitsPerOne_pos)

/-! ### The window -/

/-- What a delay is before the cap. -/
def spreadNanos (b : ExponentialBackoff) (attempt : Nat) (sample : Double) : Double :=
  match b.jitter with
  | some factor =>
    if Double.zero.lt factor then (b.rawNanos attempt).mul (spread factor sample)
    else b.rawNanos attempt
  | none => b.rawNanos attempt

theorem delay_eq {attempt : Nat} (h : 1 ≤ attempt) (sample : Double) :
    b.delay attempt sample = .ok (b.capped (b.spreadNanos attempt sample)) := by
  have hne : attempt ≠ 0 := Nat.ne_zero_of_lt h
  rw [delay, Backoff.checkAttempt, if_neg hne]
  rfl

theorem create_eq_ok {base maxDelay : Duration} {multiplier : Double} {plain : ExponentialBackoff}
    (h : create base maxDelay multiplier = .ok plain) :
    plain = { base, maxDelay, multiplier } ∧ multiplier.isNegative = false := by
  rw [create, Backoff.checkPositive, Backoff.checkPositive] at h
  by_cases hbase : base = 0
  · rw [if_pos hbase] at h
    cases h
  by_cases hmax : maxDelay = 0
  · rw [if_neg hbase, if_pos hmax] at h
    cases h
  rw [if_neg hbase, if_neg hmax] at h
  cases hcheck : (!multiplier.isFinite || multiplier.lt .one) with
  | true =>
    rw [hcheck] at h
    cases h
  | false =>
    rw [hcheck] at h
    cases h
    exact ⟨rfl, isNegative_of_not_lt_one (Bool.or_eq_false_iff.mp hcheck).2⟩

theorem withJitter_eq_ok {plain : ExponentialBackoff} {factor : Double}
    (h : plain.withJitter factor = .ok b) :
    b = { plain with jitter := some factor } ∧ factor.le .one = true := by
  rw [withJitter] at h
  cases hcheck : (Double.zero.le factor && factor.le .one) with
  | true =>
    rw [hcheck] at h
    cases h
    exact ⟨rfl, (Bool.and_eq_true_iff.mp hcheck).2⟩
  | false =>
    rw [hcheck] at h
    cases h

/-- What a multiplier that is not below one makes of a base has no sign. -/
theorem rawNanos_cases (h : b.multiplier.isNegative = false) (attempt : Nat) :
    (b.rawNanos attempt).isFinite = false ∨
      ∃ units, b.rawNanos attempt = .finite false units ∧ (Double.finite false units).InFormat := by
  have hsign : (b.rawNanos attempt).isNegative = false :=
    isNegative_mul (isNegative_round _ _) (isNegative_powerInto rfl h _)
  have hformat : (b.rawNanos attempt).InFormat := inFormat_mul _ _
  generalize b.rawNanos attempt = raw at hsign hformat
  cases raw with
  | nan => exact .inl rfl
  | infinite negative => exact .inl rfl
  | finite negative units =>
    obtain rfl : negative = false := hsign
    exact .inr ⟨units, rfl, hformat⟩

/-- The delays of one attempt for all samples: the cap, and how they lie around the middle. -/
structure JitterWindow (cap middle : Duration) (delay : Double → Duration) : Prop where
  /-- Whatever the sample is, also if it is not a number. -/
  capped : ∀ sample, delay sample ≤ cap
  mono : ∀ {sample sample'}, Double.zero.le sample → sample.le sample' → sample'.le .one →
    delay sample ≤ delay sample'
  between : ∀ {sample}, Double.zero.le sample → sample.le .one →
    delay .zero ≤ delay sample ∧ delay sample ≤ delay .one
  below : ∀ {sample}, sample.le .zero → delay sample = delay .zero
  above : ∀ {sample}, Double.one.le sample → delay sample = delay .one
  centre : delay .half = middle

namespace JitterWindow

variable {cap middle : Duration} {delay : Double → Duration}

theorem of_const (hcap : middle ≤ cap) (h : ∀ sample, delay sample = middle) :
    JitterWindow cap middle delay where
  capped sample := (h sample).symm ▸ hcap
  mono _ _ _ := Nat.le_of_eq ((h _).trans (h _).symm)
  between _ _ := ⟨Nat.le_of_eq ((h _).trans (h _).symm), Nat.le_of_eq ((h _).trans (h _).symm)⟩
  below _ := (h _).trans (h _).symm
  above _ := (h _).trans (h _).symm
  centre := h _

/-- It is enough that a delay depends on the portion only and follows it. -/
theorem of_portion (ofPortion : Nat → Duration) (hcap : ∀ sample, delay sample ≤ cap)
    (h : ∀ {sample}, sample ≠ .nan → delay sample = ofPortion sample.portion)
    (hmono : ∀ {p p'}, p ≤ p' → ofPortion p ≤ ofPortion p')
    (hhalf : ofPortion half.portion = middle) : JitterWindow cap middle delay := by
  have hrises {sample sample' : Double} (hle : sample.le sample' = true) :
      delay sample ≤ delay sample' := by
    obtain ⟨hsample, hsample'⟩ := ne_nan_of_le hle
    rw [h hsample, h hsample']
    exact hmono (portion_mono hle)
  refine
    { capped := hcap
      mono := fun _ hle _ => hrises hle
      between := fun hlow hhigh => ⟨hrises hlow, hrises hhigh⟩
      below := fun {sample} hle => ?_
      above := fun {sample} hle => ?_
      centre := (h half_ne_nan).trans hhalf }
  · obtain ⟨hsample, hzero⟩ := ne_nan_of_le hle
    rw [h hsample, h hzero, portion_of_le_zero hle, portion_of_le_zero (x := zero) rfl]
  · obtain ⟨hone, hsample⟩ := ne_nan_of_le hle
    rw [h hsample, h hone, portion_of_one_le hle, portion_of_one_le (x := one) ?_]
    exact (le_finite _ _).trans (decide_eq_true (Nat.le_refl _))

end JitterWindow

theorem window_of_factor {factor : Double} {attempt : Nat}
    (hmultiplier : b.multiplier.isNegative = false) (hjitter : b.jitter = some factor)
    (hformat : factor.InFormat) (hlow : Double.zero.lt factor = true)
    (hhigh : factor.le .one = true) :
    JitterWindow b.maxDelay (b.capped (b.rawNanos attempt))
      fun sample => b.capped (b.spreadNanos attempt sample) := by
  obtain ⟨units, rfl, hle⟩ := eq_finite_of_unit hlow hhigh
  have hnanos (sample : Double) : b.spreadNanos attempt sample =
      (b.rawNanos attempt).mul (spread (.finite false units) sample) := by
    rw [spreadNanos, hjitter]
    exact if_pos hlow
  rcases rawNanos_cases hmultiplier attempt with hraw | ⟨raw, hraw, hrawFormat⟩
  · refine .of_const (Nat.le_of_eq (capped_of_not_isFinite hraw)) fun sample => ?_
    rw [hnanos, capped_of_not_isFinite (isFinite_mul_left hraw _), capped_of_not_isFinite hraw]
  · have hcap (sample : Double) : b.capped (b.spreadNanos attempt sample) ≤ b.maxDelay := by
      rw [hnanos]
      exact capped_le (inFormat_mul _ _)
    refine .of_portion
      (fun p => b.capped (Double.round false (raw * weight units p) unitsPerOne)) hcap ?_ ?_ ?_
    · intro sample hsample
      rw [hnanos, hraw, spread_eq hformat.1 hle hsample]
      rfl
    · intro p p' hp
      exact capped_round_mono (Nat.mul_le_mul_left raw (weight_mono units hp))
    · show b.capped (Double.round false (raw * weight units half.portion) unitsPerOne) = _
      rw [weight_half hformat.1 hle, hraw]
      exact congrArg b.capped (mul_one hrawFormat)

theorem spreadNanos_of_none (h : b.jitter = none) (attempt : Nat) (sample : Double) :
    b.spreadNanos attempt sample = b.rawNanos attempt := by
  rw [spreadNanos, h]

theorem spreadNanos_of_not_lt {factor : Double} (h : b.jitter = some factor)
    (hlow : Double.zero.lt factor = false) (attempt : Nat) (sample : Double) :
    b.spreadNanos attempt sample = b.rawNanos attempt := by
  rw [spreadNanos, h]
  exact if_neg (by rw [hlow]; exact Bool.false_ne_true)

/-- Whatever calculator is made, all its delays are found and lie in the window around the delay
without jitter, and they do not vary if the factor is nought. -/
theorem jitterWindow_of_create {base maxDelay : Duration} {multiplier : Double}
    {plain : ExponentialBackoff} (hplain : create base maxDelay multiplier = .ok plain)
    (hb : b = plain ∨ ∃ factor : Double, factor.InFormat ∧ plain.withJitter factor = .ok b)
    {attempt : Nat} (h : 1 ≤ attempt) :
    ∃ middle delayAt,
      (∀ sample, plain.delay attempt sample = .ok middle) ∧
      (∀ sample, b.delay attempt sample = .ok (delayAt sample)) ∧
      JitterWindow maxDelay middle delayAt ∧
      (b.jitter = none ∨ (∃ factor, b.jitter = some factor ∧ factor.le .zero) →
        ∀ sample, delayAt sample = middle) := by
  obtain ⟨rfl, hmultiplier⟩ := create_eq_ok hplain
  refine ⟨capped { base, maxDelay, multiplier } (rawNanos { base, maxDelay, multiplier } attempt),
    fun sample => b.capped (b.spreadNanos attempt sample), fun sample => delay_eq h sample,
    fun sample => delay_eq h sample, ?_⟩
  have hcap : capped { base, maxDelay, multiplier }
      (rawNanos { base, maxDelay, multiplier } attempt) ≤ maxDelay :=
    capped_le (inFormat_mul _ _)
  rcases hb with rfl | ⟨factor, hformat, hjitter⟩
  · have hflat (sample : Double) := congrArg (capped { base, maxDelay, multiplier })
      (spreadNanos_of_none (b := { base, maxDelay, multiplier }) rfl attempt sample)
    exact ⟨.of_const hcap hflat, fun _ => hflat⟩
  · obtain ⟨rfl, hhigh⟩ := withJitter_eq_ok hjitter
    cases hlow : Double.zero.lt factor with
    | false =>
      have hflat (sample : Double) := congrArg (capped { base, maxDelay, multiplier })
        (spreadNanos_of_not_lt (b := { base, maxDelay, multiplier, jitter := some factor }) rfl
          hlow attempt sample)
      exact ⟨.of_const hcap hflat, fun _ => hflat⟩
    | true =>
      refine ⟨window_of_factor (b := { base, maxDelay, multiplier, jitter := some factor })
        hmultiplier rfl hformat hlow hhigh, ?_⟩
      rintro (hnone | ⟨factor', hsome, hle⟩)
      · cases hnone
      · cases hsome
        exact absurd (hle.symm.trans (not_le_of_lt hlow)) nofun

/-- With a cap that the format does not have and a window of a half to either side. -/
theorem jitterWindow_of_create_half :
    let plain : ExponentialBackoff := { base := 3, maxDelay := 2 ^ 53 + 1, multiplier := whole 2 }
    let spread : ExponentialBackoff := { plain with jitter := some .half }
    create 3 (2 ^ 53 + 1) (whole 2) = .ok plain ∧ Double.half.InFormat ∧
      plain.withJitter .half = .ok spread ∧ 1 ≤ 51 ∧
      ∃ middle delayAt,
        (∀ sample, plain.delay 51 sample = .ok middle) ∧
        (∀ sample, spread.delay 51 sample = .ok (delayAt sample)) ∧
        JitterWindow (2 ^ 53 + 1) middle delayAt ∧
        delayAt .zero = 1688849860263936 ∧ middle = 3377699720527872 ∧
        delayAt .one = 5066549580791808 := by
  intro plain spread
  have hplain : create 3 (2 ^ 53 + 1) (whole 2) = .ok plain :=
    create_whole (by decide) (by decide) (by decide)
  have hformat : Double.half.InFormat := by decide +kernel
  have hspread : plain.withJitter .half = .ok spread := by
    rw [withJitter, if_pos (by decide +kernel)]
    rfl
  obtain ⟨middle, delayAt, hmiddle, hdelay, hwindow, -⟩ :=
    jitterWindow_of_create hplain (.inr ⟨.half, hformat, hspread⟩) (show 1 ≤ 51 by decide)
  have hlow : spread.delay 51 .zero = .ok 1688849860263936 := by decide +kernel
  have hmid : plain.delay 51 .zero = .ok 3377699720527872 := by decide +kernel
  have hhigh : spread.delay 51 .one = .ok 5066549580791808 := by decide +kernel
  exact ⟨hplain, hformat, hspread, by decide, middle, delayAt, hmiddle, hdelay, hwindow,
    Except.ok.inj ((hdelay _).symm.trans hlow), Except.ok.inj ((hmiddle _).symm.trans hmid),
    Except.ok.inj ((hdelay _).symm.trans hhigh)⟩

end ExponentialBackoff

end Delivery
