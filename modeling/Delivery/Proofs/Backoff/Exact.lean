import Delivery.Backoff.Calculator
import Delivery.Proofs.Double.Rounding

/-!
# Exact exponential backoff

With a whole multiplier every number that is computed on the way to a delay stands for a natural
number of nanoseconds: it is that number as long as this is below `2 ^ 53`, and from there on it is
too large as well (`Double.Counts`). Products keep this, so the power by repeated squaring does. A
cap of at most `2 ^ 53` nanoseconds cannot tell what is too large from the exact value, be it
rounded or infinite. Main statement: `ExponentialBackoff.exact_of_whole`.
-/

namespace Delivery

-- Both are too large to be written out as numerals.
attribute [local irreducible] Double.unitsPerOne Double.unitsLimit

namespace Double

/-- The number stands for a natural number: it is equal to it or both are at least `2 ^ 53`. -/
inductive Counts (n : Nat) : Double → Prop where
  | finite (units : Nat) (exact : n < 2 ^ 53 → units = n * unitsPerOne)
      (large : 2 ^ 53 ≤ n → 2 ^ 53 * unitsPerOne ≤ units) : Counts n (.finite false units)
  | infinite (large : 2 ^ 53 ≤ n) : Counts n (.infinite false)

theorem counts_whole (n : Nat) : Counts n (whole n) :=
  .finite _ (fun _ => rfl) fun h => Nat.mul_le_mul_right unitsPerOne h

theorem counts_round {num den n : Nat} (hden : 0 < den)
    (hexact : n < 2 ^ 53 → num = n * unitsPerOne * den)
    (hlarge : 2 ^ 53 ≤ n → 2 ^ 53 * unitsPerOne * den ≤ num) :
    Counts n (round false num den) := by
  rcases Nat.lt_or_ge n (2 ^ 53) with hlt | hge
  · rw [hexact hlt, round_exact hden (Nat.le_of_lt hlt)]
    exact counts_whole n
  · have hfits := fits_whole (Nat.le_refl (2 ^ 53))
    rcases isLarge_cases (isLarge_round hden hfits (hlarge hge)) with heq | ⟨units, heq, hle⟩
    · rw [heq]
      exact .infinite hge
    · rw [heq]
      exact .finite units (fun h => absurd hge (Nat.not_le_of_lt h)) fun _ => hle

theorem counts_ofNat (n : Nat) : Counts n (ofNat n) := by
  refine counts_round Nat.one_pos (fun _ => (Nat.mul_one _).symm) fun h => ?_
  rw [Nat.mul_one]
  exact Nat.mul_le_mul_right unitsPerOne h

namespace Counts

variable {k l : Nat} {x y : Double}

theorem units_pos {units : Nat} (h : Counts k (.finite false units)) (hk : 0 < k) : 0 < units := by
  cases h with
  | finite _ exact large =>
    rcases Nat.lt_or_ge k (2 ^ 53) with hlt | hge
    · rw [exact hlt]
      exact Nat.mul_pos hk unitsPerOne_pos
    · exact Nat.lt_of_lt_of_le (Nat.mul_pos (by decide) unitsPerOne_pos) (large hge)

/-- Up to `2 ^ 53` the number is not below the natural number. -/
theorem min_le {units : Nat} (h : Counts k (.finite false units)) :
    min k (2 ^ 53) * unitsPerOne ≤ units := by
  cases h with
  | finite _ exact large =>
    rcases Nat.lt_or_ge k (2 ^ 53) with hlt | hge
    · rw [exact hlt, Nat.min_eq_left (Nat.le_of_lt hlt)]
    · rw [Nat.min_eq_right hge]
      exact large hge

theorem le_min_mul_min {k l m : Nat} (hk : 0 < k) (hl : 0 < l) (h : m ≤ k * l) :
    m ≤ min k m * min l m := by
  rcases Nat.lt_or_ge k m with hkm | hkm
  · rcases Nat.lt_or_ge l m with hlm | hlm
    · rwa [Nat.min_eq_left (Nat.le_of_lt hkm), Nat.min_eq_left (Nat.le_of_lt hlm)]
    · rw [Nat.min_eq_right hlm, Nat.min_eq_left (Nat.le_of_lt hkm)]
      exact Nat.le_mul_of_pos_left m hk
  · rw [Nat.min_eq_right hkm]
    rcases Nat.eq_zero_or_pos m with rfl | hm
    · exact Nat.zero_le _
    · exact Nat.le_mul_of_pos_right m (Nat.lt_min.mpr ⟨hl, hm⟩)

theorem mul (hx : Counts k x) (hy : Counts l y) (hk : 0 < k) (hl : 0 < l) :
    Counts (k * l) (x.mul y) := by
  have hleft : k ≤ k * l := Nat.le_mul_of_pos_right k hl
  have hright : l ≤ k * l := Nat.le_mul_of_pos_left l hk
  cases hx with
  | infinite large =>
    have hlarge : 2 ^ 53 ≤ k * l := Nat.le_trans large hleft
    cases hy with
    | infinite _ => exact .infinite hlarge
    | finite v exact' large' =>
      have hv : v ≠ 0 := (units_pos (.finite v exact' large') hl).ne'
      rw [Double.mul, if_neg hv]
      exact .infinite hlarge
  | finite u exact large =>
    have hu := Counts.finite u exact large
    cases hy with
    | infinite large' =>
      rw [Double.mul, if_neg (hu.units_pos hk).ne']
      exact .infinite (Nat.le_trans large' hright)
    | finite v exact' large' =>
      have hv := Counts.finite v exact' large'
      refine counts_round unitsPerOne_pos (fun hlt => ?_) fun hge => ?_
      · rw [exact (Nat.lt_of_le_of_lt hleft hlt), exact' (Nat.lt_of_le_of_lt hright hlt)]
        ac_rfl
      · calc 2 ^ 53 * unitsPerOne * unitsPerOne
            ≤ min k (2 ^ 53) * min l (2 ^ 53) * unitsPerOne * unitsPerOne :=
              Nat.mul_le_mul_right _ (Nat.mul_le_mul_right _ (le_min_mul_min hk hl hge))
          _ = min k (2 ^ 53) * unitsPerOne * (min l (2 ^ 53) * unitsPerOne) := by ac_rfl
          _ ≤ u * v := Nat.mul_le_mul hu.min_le hv.min_le

theorem powerInto {acc base : Double} {a b : Nat} (ha : Counts a acc) (hb : Counts b base)
    (hapos : 0 < a) (hbpos : 0 < b) (n : Nat) :
    Counts (a * b ^ n) (Double.powerInto acc base n) := by
  induction n using Nat.strong_induction_on generalizing acc base a b with
  | _ n ih =>
    have hsplit : n / 2 * 2 + n % 2 = n := Nat.div_add_mod' n 2
    have hacc : Counts (a * b ^ (n % 2)) (if n % 2 = 1 then acc.mul base else acc) := by
      rcases Nat.mod_two_eq_zero_or_one n with heven | hodd
      · rw [heven, Nat.pow_zero, Nat.mul_one]
        exact ha
      · rw [hodd, Nat.pow_one]
        exact ha.mul hb hapos hbpos
    have haccpos : 0 < a * b ^ (n % 2) := Nat.mul_pos hapos (Nat.pow_pos hbpos)
    rw [Double.powerInto]
    generalize (if n % 2 = 1 then acc.mul base else acc) = acc' at hacc
    split
    · rename_i hzero
      rw [hzero, Nat.zero_mul, Nat.zero_add] at hsplit
      rwa [hsplit] at hacc
    · have hsmaller : n / 2 < n := by omega
      have hrest := ih (n / 2) hsmaller hacc (hb.mul hb hbpos hbpos) haccpos
        (Nat.mul_pos hbpos hbpos)
      have hpower : a * b ^ (n % 2) * (b * b) ^ (n / 2) = a * b ^ n := by
        calc a * b ^ (n % 2) * (b * b) ^ (n / 2)
            = a * (b ^ (n / 2 * 2) * b ^ (n % 2)) := by
              rw [← Nat.pow_two, ← Nat.pow_mul', Nat.mul_assoc, Nat.mul_comm (b ^ (n % 2))]
          _ = a * b ^ n := by rw [← Nat.pow_add, hsplit]
      rwa [hpower] at hrest

theorem power {base : Double} {b : Nat} (hb : Counts b base) (hbpos : 0 < b) (n : Nat) :
    Counts (b ^ n) (base.power n) := by
  have hone : Counts 1 one := by
    have h := counts_whole 1
    rwa [whole, Nat.one_mul] at h
  have h := hone.powerInto hb Nat.one_pos hbpos n
  rwa [Nat.one_mul] at h

end Counts

end Double

namespace ExponentialBackoff

open Double

variable {b : ExponentialBackoff}

theorem capped_finite {units cap : Nat} (h : Double.ofNat b.maxDelay = .finite false cap) :
    b.capped (.finite false units) =
      if cap ≤ units then b.maxDelay else min (units / unitsPerOne) (Nat.pow 2 64 - 1) := by
  rw [capped, h, le_finite]
  by_cases hle : cap ≤ units
  · simp [hle]
  · simp [hle, isFinite, toWord]

/-- A cap of at most `2 ^ 53` nanoseconds makes of what stands for a number what it makes of the
number itself. -/
theorem capped_of_counts {n : Nat} {nanos : Double} (hcap : b.maxDelay ≤ 2 ^ 53)
    (h : Counts n nanos) : b.capped nanos = min n b.maxDelay := by
  cases h with
  | infinite large => exact (Nat.min_eq_right (Nat.le_trans hcap large)).symm
  | finite units exact large =>
    rw [capped_finite (ofNat_of_le hcap)]
    rcases Nat.lt_or_ge n (2 ^ 53) with hlt | hge
    · rw [exact hlt, Nat.mul_div_cancel n unitsPerOne_pos]
      by_cases hn : b.maxDelay ≤ n
      · rw [if_pos (Nat.mul_le_mul_right _ hn), Nat.min_eq_right hn]
      · have hnot : ¬ b.maxDelay * unitsPerOne ≤ n * unitsPerOne := fun hmul =>
          hn (Nat.le_of_mul_le_mul_right hmul unitsPerOne_pos)
        have hword : n ≤ Nat.pow 2 64 - 1 := Nat.le_trans (Nat.le_of_lt hlt) (by decide)
        rw [if_neg hnot, Nat.min_eq_left hword, Nat.min_eq_left (Nat.le_of_not_le hn)]
    · have hmany : b.maxDelay * unitsPerOne ≤ units :=
        Nat.le_trans (Nat.mul_le_mul_right _ hcap) (large hge)
      rw [if_pos hmany, Nat.min_eq_right (Nat.le_trans hcap hge)]

/-- Exponents above the limit change nothing below the cap. -/
theorem min_pow_limit {base m cap : Nat} (hbase : 0 < base) (hm : 0 < m) (hcap : cap ≤ 2 ^ 53)
    (n : Nat) : min (base * m ^ min n exponentLimit) cap = min (base * m ^ n) cap := by
  rcases Nat.lt_or_ge exponentLimit n with hlt | hge
  · rw [Nat.min_eq_right (Nat.le_of_lt hlt)]
    rcases Nat.eq_or_lt_of_le (Nat.succ_le_of_lt hm) with hone | hmany
    · rw [← hone, Nat.one_pow, Nat.one_pow]
    · have hlarge (e : Nat) (he : 53 ≤ e) : cap ≤ base * m ^ e :=
        calc cap ≤ 2 ^ 53 := hcap
          _ ≤ 2 ^ e := Nat.pow_le_pow_right (by decide) he
          _ ≤ m ^ e := Nat.pow_le_pow_left hmany e
          _ ≤ base * m ^ e := Nat.le_mul_of_pos_left _ hbase
      have hlimit : 53 ≤ exponentLimit := by decide
      rw [Nat.min_eq_right (hlarge _ hlimit),
        Nat.min_eq_right (hlarge n (Nat.le_trans hlimit (Nat.le_of_lt hlt)))]
  · rw [Nat.min_eq_left hge]

theorem create_whole {base cap m : Nat} (hbase : 0 < base) (hcap : 0 < cap) (hm : 0 < m) :
    create base cap (whole m) =
      .ok { base := base, maxDelay := cap, multiplier := whole m, jitter := none } := by
  have hlt : (whole m).lt .one = false := by
    rw [whole, one, lt_finite]
    exact decide_eq_false (Nat.not_lt_of_le (Nat.le_mul_of_pos_left unitsPerOne hm))
  have hfinite : (whole m).isFinite = true := rfl
  rw [create, Backoff.checkPositive, Backoff.checkPositive, if_neg hbase.ne', if_neg hcap.ne',
    hlt, hfinite]
  rfl

/-- Exponential backoff with a whole multiplier and a cap of at most `2 ^ 53` nanoseconds is exact:
all attempts have the delay that natural numbers give, whatever the base. -/
theorem exact_of_whole {base cap m : Nat} (hbase : 0 < base) (hcap : 0 < cap)
    (hlimit : cap ≤ 2 ^ 53) (hm : 1 ≤ m) :
    ∃ b, create base cap (whole m) = .ok b ∧ b.jitter = none ∧
      ∀ attempt, 1 ≤ attempt → ∀ sample,
        b.delay attempt sample = .ok (min (base * m ^ (attempt - 1)) cap) := by
  refine ⟨_, create_whole hbase hcap hm, rfl, fun attempt hattempt sample => ?_⟩
  have hraw : Counts (base * m ^ min (attempt - 1) exponentLimit)
      (rawNanos { base, maxDelay := cap, multiplier := whole m } attempt) :=
    (counts_ofNat base).mul ((counts_whole m).power hm _) hbase (Nat.pow_pos hm)
  rw [delay, Backoff.checkAttempt, if_neg (Nat.pos_iff_ne_zero.mp hattempt)]
  show Except.ok (capped _ (rawNanos _ attempt)) = _
  rw [capped_of_counts (b := { base, maxDelay := cap, multiplier := whole m }) hlimit hraw,
    min_pow_limit hbase hm hlimit]

theorem exact_of_whole_tenfold : 0 < 3 ∧ 0 < 2 ^ 53 ∧ 2 ^ 53 ≤ 2 ^ 53 ∧ 1 ≤ 10 ∧
    ∃ b, create 3 (2 ^ 53) (whole 10) = .ok b ∧ b.jitter = none ∧
      b.delay 16 .nan = .ok 3000000000000000 ∧ b.delay 17 .nan = .ok 9007199254740992 ∧
      b.delay 4294967295 .nan = .ok 9007199254740992 := by
  obtain ⟨b, hb, hjitter, hdelay⟩ :=
    exact_of_whole (show 0 < 3 by decide) (show 0 < 2 ^ 53 by decide) (Nat.le_refl _)
      (show 1 ≤ 10 by decide)
  have hcapped (n : Nat) (hn : 53 ≤ n) : min (3 * 10 ^ n) (2 ^ 53) = 9007199254740992 := by
    refine Nat.min_eq_right ?_
    calc 2 ^ 53 ≤ 10 ^ 53 := by decide
      _ ≤ 10 ^ n := Nat.pow_le_pow_right (by decide) hn
      _ ≤ 3 * 10 ^ n := Nat.le_mul_of_pos_left _ (by decide)
  have hlast := hdelay 4294967295 (by decide) .nan
  rw [hcapped (4294967295 - 1) (by decide)] at hlast
  exact ⟨by decide, by decide, by decide, by decide, b, hb, hjitter, hdelay 16 (by decide) _,
    hdelay 17 (by decide) _, hlast⟩

end ExponentialBackoff

end Delivery
