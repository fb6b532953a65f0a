import Delivery.Backoff.Calculator
import Mathlib.Algebra.Order.Ring.Nat

/-!
# Exact linear backoff

A duration is kept in two words, the whole seconds and the nanoseconds below one more. Its product
with the number of an attempt carries seconds over from the nanoseconds, and it overflows when the
seconds do, before or after the carry. Both happen exactly beyond the longest duration, which no cap
exceeds; so the capped product of the words is the capped product of natural numbers. Main
statement: `LinearBackoff.exact_of_create`.
-/

namespace Delivery

namespace Duration

theorem second_pos : 0 < second := by decide

/-- Up to the limit the whole seconds fit in a word. -/
theorem le_limit_iff {d : Nat} : d ≤ limit ↔ d / second < 2 ^ 64 := by
  have hpos : 0 < Nat.pow 2 64 * second := by decide
  rw [Nat.div_lt_iff_lt_mul second_pos, limit]
  exact Nat.le_sub_one_iff_lt hpos

theorem times?_of_lt {d n : Nat} (h : d * n / second < 2 ^ 64) : times? d n = some (d * n) :=
  if_pos (le_limit_iff.mpr h)

theorem times?_of_not_lt {d n : Nat} (h : ¬ d * n / second < 2 ^ 64) : times? d n = none :=
  if_neg fun hle => h (le_limit_iff.mp hle)

end Duration

/-! ### Durations in two words -/

/-- The product of two words, unless it does not fit in one. -/
def product? (a b : UInt64) : Option UInt64 :=
  if a.toNat * b.toNat < 2 ^ 64 then some (a * b) else none

def sum? (a b : UInt64) : Option UInt64 :=
  if a.toNat + b.toNat < 2 ^ 64 then some (a + b) else none

theorem product?_of_lt {a b : UInt64} (h : a.toNat * b.toNat < 2 ^ 64) :
    ∃ c, product? a b = some c ∧ c.toNat = a.toNat * b.toNat := by
  refine ⟨a * b, if_pos h, ?_⟩
  rw [UInt64.toNat_mul, Nat.mod_eq_of_lt h]

theorem sum?_of_lt {a b : UInt64} (h : a.toNat + b.toNat < 2 ^ 64) :
    ∃ c, sum? a b = some c ∧ c.toNat = a.toNat + b.toNat := by
  refine ⟨a + b, if_pos h, ?_⟩
  rw [UInt64.toNat_add, Nat.mod_eq_of_lt h]

theorem toNat_remainder (total : UInt64) :
    (total % 1000000000).toUInt32.toNat = total.toNat % Duration.second := by
  have hsmall : total.toNat % Duration.second < 2 ^ 32 :=
    Nat.lt_trans (Nat.mod_lt _ Duration.second_pos) (by decide)
  rw [UInt64.toNat_toUInt32, UInt64.toNat_mod]
  exact Nat.mod_eq_of_lt hsmall

structure SplitDuration where
  seconds : UInt64
  nanos : UInt32
  nanos_lt : nanos.toNat < Duration.second

namespace SplitDuration

def length (d : SplitDuration) : Nat := d.seconds.toNat * Duration.second + d.nanos.toNat

/-- The nanoseconds are multiplied in a word that holds every such product. -/
def times? (d : SplitDuration) (n : UInt32) : Option SplitDuration := do
  let total := d.nanos.toUInt64 * n.toUInt64
  let seconds ← product? d.seconds n.toUInt64
  let carried ← sum? seconds (total / 1000000000)
  return ⟨carried, (total % 1000000000).toUInt32,
    toNat_remainder total ▸ Nat.mod_lt _ Duration.second_pos⟩

instance : LE SplitDuration where
  le a b := a.seconds < b.seconds ∨ a.seconds = b.seconds ∧ a.nanos ≤ b.nanos

instance (a b : SplitDuration) : Decidable (a ≤ b) :=
  inferInstanceAs
    (Decidable (a.seconds < b.seconds ∨ a.seconds = b.seconds ∧ a.nanos ≤ b.nanos))

instance : Min SplitDuration := minOfLe

variable {a b d : SplitDuration} {n : UInt32}

theorem length_div (d : SplitDuration) : d.length / Duration.second = d.seconds.toNat := by
  rw [length, Nat.add_comm, Nat.add_mul_div_right _ _ Duration.second_pos,
    Nat.div_eq_of_lt d.nanos_lt, Nat.zero_add]

theorem length_le (d : SplitDuration) : d.length ≤ Duration.limit :=
  Duration.le_limit_iff.mpr (d.length_div ▸ d.seconds.toNat_lt)

theorem exists_length_eq {period : Duration} (h : period ≤ Duration.limit) :
    ∃ d : SplitDuration, d.length = period := by
  have hseconds := Duration.le_limit_iff.mp h
  have hnanos := Nat.mod_lt period Duration.second_pos
  have hword : period % Duration.second < 2 ^ 32 := Nat.lt_trans hnanos (by decide)
  refine ⟨⟨.ofNat (period / Duration.second), .ofNat (period % Duration.second), ?_⟩, ?_⟩
  · rwa [UInt32.toNat_ofNat_of_lt' hword]
  · rw [length, UInt64.toNat_ofNat_of_lt' hseconds, UInt32.toNat_ofNat_of_lt' hword,
      Nat.div_add_mod']

theorem le_iff_length : a ≤ b ↔ a.length ≤ b.length := by
  have hle : a ≤ b ↔ a.seconds.toNat < b.seconds.toNat ∨
      a.seconds.toNat = b.seconds.toNat ∧ a.nanos.toNat ≤ b.nanos.toNat := by
    rw [← UInt64.lt_iff_toNat_lt, UInt64.toNat_inj, ← UInt32.le_iff_toNat_le]
    rfl
  have ha := a.nanos_lt
  have hb := b.nanos_lt
  rw [hle]
  simp only [length, Duration.second] at ha hb ⊢
  omega

theorem length_min (a b : SplitDuration) : (min a b).length = min a.length b.length := by
  show (if a ≤ b then a else b).length = _
  split
  · rename_i h
    exact (Nat.min_eq_left (le_iff_length.mp h)).symm
  · rename_i h
    rw [le_iff_length, Nat.not_le] at h
    exact (Nat.min_eq_right (Nat.le_of_lt h)).symm

/-- The product in words overflows exactly when the product is too long. -/
theorem times?_map_length (d : SplitDuration) (n : UInt32) :
    (d.times? n).map length = Duration.times? d.length n.toNat := by
  have htotal : (d.nanos.toUInt64 * n.toUInt64).toNat = d.nanos.toNat * n.toNat := by
    have hlt : d.nanos.toNat * n.toNat < Duration.second * 2 ^ 32 :=
      Nat.mul_lt_mul'' d.nanos_lt n.toNat_lt
    rw [UInt64.toNat_mul]
    exact Nat.mod_eq_of_lt (Nat.lt_trans hlt (by decide))
  have hcarry : (d.nanos.toUInt64 * n.toUInt64 / 1000000000).toNat =
      d.nanos.toNat * n.toNat / Duration.second := by
    rw [UInt64.toNat_div, htotal]
    rfl
  have hexpand : d.length * n.toNat = d.nanos.toNat * n.toNat +
      d.seconds.toNat * n.toNat * Duration.second := by
    rw [length, Nat.add_mul, Nat.add_comm, Nat.mul_right_comm]
  have hseconds : d.length * n.toNat / Duration.second =
      d.nanos.toNat * n.toNat / Duration.second + d.seconds.toNat * n.toNat := by
    rw [hexpand, Nat.add_mul_div_right _ _ Duration.second_pos]
  have hfraction : d.length * n.toNat % Duration.second =
      d.nanos.toNat * n.toNat % Duration.second := by
    rw [hexpand, Nat.add_mul_mod_self_right]
  have hword : n.toUInt64.toNat = n.toNat := UInt32.toNat_toUInt64 n
  by_cases hfits : d.length * n.toNat / Duration.second < 2 ^ 64
  · obtain ⟨s, hs, hsval⟩ := product?_of_lt (a := d.seconds) (b := n.toUInt64) (by
      rw [hword]
      omega)
    obtain ⟨t, ht, htval⟩ := sum?_of_lt (a := s)
      (b := d.nanos.toUInt64 * n.toUInt64 / 1000000000) (by
        rw [hsval, hcarry, hword]
        omega)
    have hquotient : t.toNat = d.length * n.toNat / Duration.second := by
      rw [htval, hsval, hcarry, hword, hseconds, Nat.add_comm]
    have hlength : t.toNat * Duration.second + d.nanos.toNat * n.toNat % Duration.second =
        d.length * n.toNat := by
      rw [hquotient, ← hfraction, Nat.div_add_mod']
    rw [Duration.times?_of_lt hfits, ← hlength, ← htotal, ← toNat_remainder, times?, hs]
    simp only [Option.bind_eq_bind, Option.bind_some, ht]
    rfl
  · rw [Duration.times?_of_not_lt hfits, times?]
    by_cases hproduct : d.seconds.toNat * n.toNat < 2 ^ 64
    · obtain ⟨s, hs, hsval⟩ := product?_of_lt (a := d.seconds) (b := n.toUInt64) (hword ▸ hproduct)
      have hsum : sum? s (d.nanos.toUInt64 * n.toUInt64 / 1000000000) = none := if_neg (by
        rw [hsval, hcarry, hword]
        omega)
      rw [hs]
      simp only [Option.bind_eq_bind, Option.bind_some, hsum]
      rfl
    · have hnone : product? d.seconds n.toUInt64 = none := if_neg (hword ▸ hproduct)
      rw [hnone]
      rfl

end SplitDuration

/-! ### Delays -/

namespace LinearBackoff

/-- The delay after an attempt, on durations in two words. -/
def splitDelay (base cap : SplitDuration) (attempt : UInt32) : SplitDuration :=
  (base.times? attempt).elim cap (min · cap)

variable {b : LinearBackoff} {base : Duration} {maxDelay : Option Duration}

theorem create_eq_ok (h : create base maxDelay = .ok b) :
    b = ⟨base, maxDelay.getD Backoff.defaultMaxDelay⟩ := by
  unfold create Backoff.checkPositive at h
  by_cases hbase : base = 0
  · rw [if_pos hbase] at h
    cases h
  · rw [if_neg hbase] at h
    by_cases hcap : maxDelay.getD Backoff.defaultMaxDelay = 0
    · simp [hcap, bind, Except.bind] at h
    · simp only [hcap, if_false] at h
      exact (Except.ok.inj h).symm

theorem delay_of_pos {attempt : Nat} (h : 1 ≤ attempt) : b.delay attempt =
    .ok ((Duration.times? b.base attempt).elim b.maxDelay (min · b.maxDelay)) := by
  rw [delay, Backoff.checkAttempt, if_neg (Nat.pos_iff_ne_zero.mp h)]
  cases Duration.times? b.base attempt <;> rfl

/-- A product that is too long is longer than the cap, so nothing is lost by not computing it. -/
theorem delay_eq (hcap : b.maxDelay ≤ Duration.limit) {attempt : Nat} (h : 1 ≤ attempt) :
    b.delay attempt = .ok (min (b.base * attempt) b.maxDelay) := by
  rw [delay_of_pos h, Duration.times?]
  by_cases hfits : b.base * attempt ≤ Duration.limit
  · rw [if_pos hfits, Option.elim_some]
  · have hlong : b.maxDelay ≤ b.base * attempt :=
      Nat.le_trans hcap (Nat.le_of_lt (Nat.lt_of_not_le hfits))
    rw [if_neg hfits, Option.elim_none, Nat.min_eq_right hlong]

theorem length_splitDelay (base cap : SplitDuration) (attempt : UInt32) :
    (splitDelay base cap attempt).length =
      (Duration.times? base.length attempt.toNat).elim cap.length (min · cap.length) := by
  rw [← SplitDuration.times?_map_length, splitDelay]
  cases base.times? attempt with
  | some d => rw [Option.map_some, Option.elim_some, Option.elim_some, SplitDuration.length_min]
  | none => rfl

/-- What is promised of the delays of a linear backoff. -/
structure Exact (b : LinearBackoff) (base cap : Duration) : Prop where
  delay : ∀ attempt, 1 ≤ attempt → b.delay attempt = .ok (min (base * attempt) cap)
  mono : ∀ early late, 1 ≤ early → early ≤ late →
    ∃ d d', b.delay early = .ok d ∧ b.delay late = .ok d' ∧ d ≤ d'
  between : ∀ attempt, 1 ≤ attempt → ∃ d, b.delay attempt = .ok d ∧ min base cap ≤ d ∧ d ≤ cap
  -- The same delays are computed in words, whatever carries and overflows there.
  split : ∃ base' cap' : SplitDuration, base'.length = base ∧ cap'.length = cap ∧
    ∀ attempt : UInt32, 0 < attempt →
      b.delay attempt.toNat = .ok (splitDelay base' cap' attempt).length

/-- Linear backoff is exact for all bases, caps and attempts: the delay is the product of base and
attempt as natural numbers, up to the cap. -/
theorem exact_of_create (h : create base maxDelay = .ok b) (hbase : base ≤ Duration.limit)
    (hmax : ∀ d ∈ maxDelay, d ≤ Duration.limit) :
    b.Exact base (maxDelay.getD (Duration.ofMinutes 30)) := by
  obtain rfl := create_eq_ok h
  have hcap : maxDelay.getD Backoff.defaultMaxDelay ≤ Duration.limit := by
    cases maxDelay with
    | none => decide
    | some d => exact hmax d rfl
  obtain ⟨base', rfl⟩ := SplitDuration.exists_length_eq hbase
  obtain ⟨cap', hcap'⟩ := SplitDuration.exists_length_eq hcap
  exact {
    delay attempt hattempt := delay_eq hcap hattempt
    mono early late hearly hle := by
      refine ⟨_, _, delay_eq hcap hearly, delay_eq hcap (Nat.le_trans hearly hle), ?_⟩
      exact min_le_min_right _ (Nat.mul_le_mul_left _ hle)
    between attempt hattempt := by
      refine ⟨_, delay_eq hcap hattempt, ?_, Nat.min_le_right _ _⟩
      exact min_le_min_right _ (Nat.le_mul_of_pos_right _ hattempt)
    split := by
      refine ⟨base', cap', rfl, hcap', fun attempt hattempt => ?_⟩
      rw [delay_of_pos (UInt32.lt_iff_toNat_lt.mp hattempt), length_splitDelay, hcap'] }

/-- The longest base overflows from the second attempt on. The other one carries seconds over, and
comes to the cap of thirty minutes after six hundred attempts. -/
theorem exact_of_create_extremes : ∃ longest carrying,
    create Duration.limit (some Duration.limit) = .ok longest ∧
    create 2999999999 none = .ok carrying ∧
    longest.delay 2 = .ok Duration.limit ∧ longest.delay 4294967295 = .ok Duration.limit ∧
    carrying.delay 3 = .ok 8999999997 ∧ carrying.delay 600 = .ok 1799999999400 ∧
    carrying.delay 601 = .ok 1800000000000 := by
  have hlongest : create Duration.limit (some Duration.limit) =
      .ok ⟨Duration.limit, Duration.limit⟩ := by decide +kernel
  have hcarrying : create 2999999999 none = .ok ⟨2999999999, 1800000000000⟩ := by decide +kernel
  have hlong := exact_of_create hlongest (Nat.le_refl _) (by simp)
  have hcarry := exact_of_create hcarrying (by decide) (by simp)
  have hbeyond (n : Nat) (hn : 1 ≤ n) :
      LinearBackoff.delay ⟨Duration.limit, Duration.limit⟩ n = .ok Duration.limit := by
    rw [hlong.delay n hn, Option.getD_some, Nat.min_eq_right (Nat.le_mul_of_pos_right _ hn)]
  exact ⟨_, _, hlongest, hcarrying, hbeyond 2 (by decide), hbeyond 4294967295 (by decide),
    hcarry.delay 3 (by decide), hcarry.delay 600 (by decide), hcarry.delay 601 (by decide)⟩

end LinearBackoff

end Delivery
