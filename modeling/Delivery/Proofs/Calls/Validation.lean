import Mathlib.Algebra.Order.Field.Basic
import Mathlib.Algebra.Order.Field.Rat
import Delivery.Proofs.Backoff.Jitter
import Delivery.Proofs.Calls.Chosen

/-!
# What is demanded of settings

Settings are checked in three places, one behind the other: the attempts and the order of the delays
by themselves, the delays and the multiplier when the calculator is made, the factor when jitter is
added. Together these are five demands in a fixed order, on numbers with their exact values, and the
first that is not met names the error (`RetrySettings.validate_eq`). A cap of nought is never the
reason, since then the base is nought too or above it.

A policy that has been chosen has a delay for every attempt after which its loop waits, so the delay
that stands in for a missing one is never used: nobody can tell which it is (`attempts_congr`). The
shortcut for a single attempt comes before the checks, and nothing is demanded there. Main
statement: `RetrySettings.screening`.
-/

namespace Delivery

-- Too large to be written out as a numeral.
attribute [local irreducible] Double.unitsPerOne

/-! ### Values -/

namespace Double

/-- The number that is meant; none for what is not a number and for what is infinite. -/
def value? : Double → Option ℚ
  | .finite negative units => some (signedUnits negative units / unitsPerOne)
  | _ => none

def isGrowth (x : Double) : Bool := x.value?.any (1 ≤ ·)

def isShare (x : Double) : Bool := x.value?.any fun v => 0 ≤ v ∧ v ≤ 1

theorem le_div_unitsPerOne (n units : Int) :
    (n : ℚ) ≤ units / unitsPerOne ↔ n * unitsPerOne ≤ units := by
  have hpos : (0 : ℚ) < unitsPerOne := Nat.cast_pos.mpr unitsPerOne_pos
  rw [le_div_iff₀ hpos]
  exact_mod_cast Iff.rfl

theorem div_unitsPerOne_le (n units : Int) :
    (units : ℚ) / unitsPerOne ≤ n ↔ units ≤ n * unitsPerOne := by
  have hpos : (0 : ℚ) < unitsPerOne := Nat.cast_pos.mpr unitsPerOne_pos
  rw [div_le_iff₀ hpos]
  exact_mod_cast Iff.rfl

theorem refused_multiplier (x : Double) : (!x.isFinite || x.lt .one) = !x.isGrowth := by
  cases x with
  | nan => rfl
  | infinite negative => rfl
  | finite negative units =>
    have hone := le_div_unitsPerOne 1 (signedUnits negative units)
    rw [Int.cast_one, Int.one_mul] at hone
    show decide (signedUnits negative units < (unitsPerOne : Int)) = !decide (1 ≤ _)
    rw [decide_eq_decide.mpr hone, ← decide_not, decide_eq_decide, Int.not_le]

theorem accepted_factor (x : Double) : (zero.le x && x.le .one) = x.isShare := by
  cases x with
  | nan => rfl
  | infinite negative => cases negative <;> rfl
  | finite negative units =>
    have hlow := le_div_unitsPerOne 0 (signedUnits negative units)
    have hhigh := div_unitsPerOne_le 1 (signedUnits negative units)
    rw [Int.cast_zero, Int.zero_mul] at hlow
    rw [Int.cast_one, Int.one_mul] at hhigh
    show (decide (0 ≤ signedUnits negative units) &&
      decide (signedUnits negative units ≤ (unitsPerOne : Int))) = decide (_ ∧ _)
    rw [← Bool.decide_and, decide_eq_decide, hlow, hhigh]

end Double

/-! ### Demands -/

/-- Something that is demanded: whether it is so, and the error if it is not. -/
structure Demand where
  met : Bool
  error : SettingsError

namespace Demand

/-- Makes demands one after the other, up to the first that is not met. -/
def make : List Demand → Except SettingsError Unit
  | [] => .ok ()
  | d :: rest => if d.met then make rest else .error d.error

theorem make_eq_ok_iff (demands : List Demand) :
    make demands = .ok () ↔ ∀ d ∈ demands, d.met = true := by
  induction demands with
  | nil => simp [make]
  | cons d rest ih => cases h : d.met <;> simp [make, h, ih]

theorem make_eq_elim (demands : List Demand) :
    make demands = (demands.find? (!·.met)).elim (.ok ()) (.error ·.error) := by
  induction demands with
  | nil => rfl
  | cons d rest ih => cases h : d.met <;> simp [make, h, ih]

theorem make_eq_error_iff (demands : List Demand) (e : SettingsError) :
    make demands = .error e ↔ ∃ before after, demands = before ++ ⟨false, e⟩ :: after ∧
      ∀ d ∈ before, d.met = true := by
  rw [make_eq_elim]
  constructor
  · intro h
    cases hfind : demands.find? (!·.met) with
    | none =>
      rw [hfind] at h
      cases h
    | some d =>
      obtain ⟨met, e'⟩ := d
      rw [hfind] at h
      obtain rfl : e' = e := Except.error.inj h
      obtain ⟨hunmet, before, after, hsplit, hbefore⟩ := List.find?_eq_some_iff_append.mp hfind
      obtain rfl : met = false := by simpa using hunmet
      exact ⟨before, after, hsplit, by simpa using hbefore⟩
  · rintro ⟨before, after, hsplit, hbefore⟩
    have hfind : demands.find? (!·.met) = some ⟨false, e⟩ := List.find?_eq_some_iff_append.mpr
      ⟨rfl, before, after, hsplit, by simpa using hbefore⟩
    rw [hfind]
    rfl

end Demand

theorem Duration.ofMillis_eq_zero {ms : Nat} : ofMillis ms = 0 ↔ ms = 0 := by
  have hpos : millisecond ≠ 0 := by decide
  simp [ofMillis, hpos]

theorem ExponentialBackoff.withJitter_eq (b : ExponentialBackoff) (factor : Double) :
    b.withJitter factor =
      if factor.isShare then .ok { b with jitter := some factor }
      else .error (.outOfRange "jitter_factor"
        ("must be within [0, 1], got " ++ factor.text .plain)) := by
  rw [withJitter, Double.accepted_factor]
  cases factor.isShare <;> rfl

namespace RetrySettings

variable {s : RetrySettings}

/-- What is demanded of settings, in this order. -/
def demands (s : RetrySettings) : List Demand :=
  [⟨s.maxRetryAttempts ≠ 0, .invalid "max_retry_attempts" "must be at least 1"⟩,
   ⟨s.baseDelayMs ≤ s.maxDelayMs, .invalid "max_delay_ms"
      ("must not be lower than base_delay_ms (" ++ toString s.maxDelayMs ++ " < " ++
        toString s.baseDelayMs ++ ")")⟩,
   ⟨s.baseDelayMs ≠ 0, .backoff (.outOfRange "base_delay" "must be greater than zero")⟩,
   ⟨s.backoffMultiplier.isGrowth, .backoff (.outOfRange "multiplier"
      ("must be a finite value of at least 1.0, got " ++ s.backoffMultiplier.text .plain))⟩,
   ⟨!s.jitterEnabled || s.jitterFactor.isShare, .backoff (.outOfRange "jitter_factor"
      ("must be within [0, 1], got " ++ s.jitterFactor.text .plain))⟩]

/-- A base of nought is found first, and otherwise the cap is not nought either. -/
theorem create_eq (h : s.baseDelayMs ≤ s.maxDelayMs) :
    ExponentialBackoff.create s.baseDelay s.maxDelay s.backoffMultiplier =
      if s.baseDelayMs = 0 then .error (.outOfRange "base_delay" "must be greater than zero")
      else if s.backoffMultiplier.isGrowth then
        .ok { base := s.baseDelay, maxDelay := s.maxDelay, multiplier := s.backoffMultiplier }
      else .error (.outOfRange "multiplier"
        ("must be a finite value of at least 1.0, got " ++ s.backoffMultiplier.text .plain)) := by
  have hbase : s.baseDelay = 0 ↔ s.baseDelayMs = 0 := Duration.ofMillis_eq_zero
  have hmax : s.maxDelay = 0 ↔ s.maxDelayMs = 0 := Duration.ofMillis_eq_zero
  rw [ExponentialBackoff.create, Double.refused_multiplier, Backoff.checkPositive,
    Backoff.checkPositive]
  by_cases hzero : s.baseDelayMs = 0
  · rw [if_pos (hbase.mpr hzero), if_pos hzero]
    rfl
  · have hcap : s.maxDelayMs ≠ 0 := by omega
    rw [if_neg (mt hbase.mp hzero), if_neg (mt hmax.mp hcap), if_neg hzero]
    cases s.backoffMultiplier.isGrowth <;> rfl

theorem backoff_eq (s : RetrySettings) : s.backoff =
    match ExponentialBackoff.create s.baseDelay s.maxDelay s.backoffMultiplier with
    | .error e => .error (.backoff e)
    | .ok plain =>
      if s.jitterEnabled then
        match plain.withJitter s.jitterFactor with
        | .error e => .error (.backoff e)
        | .ok b => .ok (.exponential b)
      else .ok (.exponential plain) := by
  have hbuild : s.backoff = (ExponentialBackoff.create s.baseDelay s.maxDelay
      s.backoffMultiplier >>= fun plain =>
        if s.jitterEnabled then plain.withJitter s.jitterFactor >>= fun b => pure (.exponential b)
        else pure (BuiltBackoff.exponential plain)).mapError .backoff := rfl
  rw [hbuild]
  cases ExponentialBackoff.create s.baseDelay s.maxDelay s.backoffMultiplier with
  | error e => rfl
  | ok plain =>
    simp only [bind, Except.bind]
    generalize plain.withJitter s.jitterFactor = r
    cases s.jitterEnabled <;> cases r <;> rfl

theorem exponential_of_backoff {built : BuiltBackoff} (h : s.backoff = .ok built) :
    ∃ b : ExponentialBackoff, built = .exponential b := by
  rw [backoff_eq] at h
  split at h
  · cases h
  · split at h
    · split at h
      · cases h
      · exact ⟨_, (Except.ok.inj h).symm⟩
    · exact ⟨_, (Except.ok.inj h).symm⟩

/-- The demands that are made of the backoff, once the attempts and the order are as they should. -/
theorem make_demands (hattempts : s.maxRetryAttempts ≠ 0) (hle : s.baseDelayMs ≤ s.maxDelayMs) :
    Demand.make s.demands = s.backoff.map fun _ => () := by
  rw [backoff_eq, create_eq hle]
  by_cases hbase : s.baseDelayMs = 0
  · simp [demands, Demand.make, hattempts, hbase, Except.map]
  · cases hmultiplier : s.backoffMultiplier.isGrowth with
    | false => simp [demands, Demand.make, hattempts, hle, hbase, hmultiplier, Except.map]
    | true =>
      cases hjitter : s.jitterEnabled with
      | false =>
        simp [demands, Demand.make, hattempts, hle, hbase, hmultiplier, hjitter, Except.map]
      | true =>
        cases hfactor : s.jitterFactor.isShare <;>
          simp [demands, Demand.make, hattempts, hle, hbase, hmultiplier, hjitter, hfactor,
            ExponentialBackoff.withJitter_eq, Except.map]

/-- The checks are the demands, made one after the other. -/
theorem validate_eq (s : RetrySettings) : s.validate = Demand.make s.demands := by
  rw [validate]
  by_cases hattempts : s.maxRetryAttempts = 0
  · have hmake : Demand.make s.demands =
        .error (.invalid "max_retry_attempts" "must be at least 1") := by
      simp [demands, Demand.make, hattempts]
    rw [if_pos hattempts, hmake]
    rfl
  · by_cases hdelays : s.maxDelayMs < s.baseDelayMs
    · have hmake : Demand.make s.demands = .error (.invalid "max_delay_ms"
          ("must not be lower than base_delay_ms (" ++ toString s.maxDelayMs ++ " < " ++
            toString s.baseDelayMs ++ ")")) := by
        simp [demands, Demand.make, hattempts, Nat.not_le_of_lt hdelays]
      rw [if_neg hattempts, if_pos hdelays, hmake]
      rfl
    · rw [if_neg hattempts, if_neg hdelays, make_demands hattempts (Nat.le_of_not_lt hdelays)]
      cases s.backoff <;> rfl

end RetrySettings

/-! ### Delays that are never missing -/

/-- The same, with a delay for the attempts that there is none for. -/
def Backoff.orDelay (b : Backoff) (d : Duration) : Backoff where
  delay attempt sample :=
    match b.delay attempt sample with
    | .ok found => .ok found
    | .error _ => .ok d
  diagnostic := b.diagnostic

namespace Retrying

variable {m : Type → Type} [Monad m] {ε α : Type} [Classified ε] {p q : Retrying}
  {s : RetrySettings}

def orDelay (p : Retrying) (d : Duration) : Retrying := { p with backoff := p.backoff.orDelay d }

/-- A policy is known by the failures it retries and by the delays after which its loop waits. -/
theorem attempts_congr (caller : Caller m) (call : m (Except ε α))
    (hretry : ∀ e : ε, p.isRetriable e = q.isRetriable e) {n left : Nat}
    (h : ∀ i, n ≤ i → i < n + left → ∀ sample, p.delayAfter i sample = q.delayAfter i sample) :
    p.attempts caller call n left = q.attempts caller call n left := by
  induction left generalizing n with
  | zero =>
    rw [attempts, attempts]
    simp only [hretry]
  | succ left ih =>
    have hdelay := h n (Nat.le_refl n) (by omega)
    have hnext := ih (n := n + 1) fun i hi hlt => h i (by omega) (by omega)
    rw [attempts, attempts]
    simp only [hretry, hdelay, hnext]

theorem backoff_of_ofSettings (h : ofSettings s = .ok p) :
    ∃ b : ExponentialBackoff, p.backoff = b.toBackoff := by
  unfold ofSettings at h
  cases hvalid : s.validate with
  | error e => simp [hvalid, bind, Except.bind] at h
  | ok u =>
    obtain ⟨hpos, built, hbuilt⟩ := RetrySettings.of_validate hvalid
    obtain ⟨b, rfl⟩ := RetrySettings.exponential_of_backoff hbuilt
    rw [hvalid, hbuilt] at h
    simp only [bind, Except.bind, create, if_neg hpos] at h
    obtain rfl := Except.ok.inj h
    exact ⟨b, rfl⟩

theorem delayAfter_of_ok {attempt : Nat} {sample : Double} {d : Duration}
    (h : p.backoff.delay attempt sample = .ok d) : p.delayAfter attempt sample = d := by
  rw [delayAfter, h]

/-- The loop counts from one, and there the calculator always answers. -/
theorem delay_of_ofSettings (h : ofSettings s = .ok p) {attempt : Nat} (hone : 1 ≤ attempt)
    (sample : Double) : p.backoff.delay attempt sample = .ok (p.delayAfter attempt sample) := by
  obtain ⟨b, hb⟩ := backoff_of_ofSettings h
  have hfound : p.backoff.delay attempt sample = .ok (b.capped (b.spreadNanos attempt sample)) := by
    rw [hb]
    exact ExponentialBackoff.delay_eq hone sample
  rw [delayAfter_of_ok hfound, hfound]

theorem orDelay_delayAfter (h : ofSettings s = .ok p) (d : Duration) {attempt : Nat}
    (hone : 1 ≤ attempt) (sample : Double) :
    p.delayAfter attempt sample = (p.orDelay d).delayAfter attempt sample := by
  have hfound := delay_of_ofSettings h hone sample
  have hsame : (p.backoff.orDelay d).delay attempt sample = .ok (p.delayAfter attempt sample) := by
    unfold Backoff.orDelay
    simp only [hfound]
  exact (delayAfter_of_ok (p := p.orDelay d) hsame).symm

end Retrying

namespace RetryPolicy

def orDelay (d : Duration) : RetryPolicy → RetryPolicy
  | once => once
  | retrying p => retrying (p.orDelay d)

/-- A policy that needs nothing in place of a delay. -/
structure Answered (policy : RetryPolicy) : Prop where
  delay : ∀ p, policy = .retrying p → ∀ {attempt}, 1 ≤ attempt → ∀ sample,
    p.backoff.delay attempt sample = .ok (p.delayAfter attempt sample)
  -- Nobody can tell by what a missing delay would be replaced.
  alike : ∀ d, policy.Alike (policy.orDelay d)

theorem answered_once : Answered .once where
  delay _ h := nomatch h
  alike _ _ _ _ _ _ _ _ := rfl

theorem answered_of_ofSettings {s : RetrySettings} {p : Retrying}
    (h : Retrying.ofSettings s = .ok p) : Answered (.retrying p) where
  delay p' hp _ hone sample := by
    obtain rfl := RetryPolicy.retrying.inj hp
    exact Retrying.delay_of_ofSettings h hone sample
  alike d _ _ _ _ _ caller call :=
    Retrying.attempts_congr (p := p) (q := p.orDelay d) caller call (fun _ => rfl)
      fun _ hone _ sample =>
      Retrying.orDelay_delayAfter h d hone sample

end RetryPolicy

/-! ### Screening -/

namespace RetrySettings

variable {s : RetrySettings}

theorem ofSettings_error_iff (s : RetrySettings) (e : SettingsError) :
    Retrying.ofSettings s = .error e ↔ s.validate = .error e := by
  cases hvalid : s.validate with
  | error e' =>
    have hfails : Retrying.ofSettings s = .error e' := by
      unfold Retrying.ofSettings
      rw [hvalid]
      rfl
    rw [hfails, Except.error.injEq, Except.error.injEq]
  | ok u =>
    obtain ⟨p, hp, -⟩ := retrying_of_validate hvalid
    rw [hp]
    exact ⟨nofun, nofun⟩

/-- What becomes of settings that are switched on. -/
structure Screening (s : RetrySettings) : Prop where
  valid_iff : s.validate = .ok () ↔ ∀ d ∈ s.demands, d.met = true
  -- The first demand that is not met decides which error it is.
  invalid_iff : ∀ e, s.validate = .error e ↔
    ∃ before after, s.demands = before ++ ⟨false, e⟩ :: after ∧ ∀ d ∈ before, d.met = true
  refused_iff : s.maxRetryAttempts ≠ 1 →
    ∀ e, RetryPolicy.ofSettings s = .error e ↔ s.validate = .error e
  accepted : s.maxRetryAttempts ≠ 1 → s.validate = .ok () →
    ∃ p, RetryPolicy.ofSettings s = .ok (.retrying p)
  -- A single attempt is never refused, whether the rest is valid or not.
  unchecked : s.maxRetryAttempts = 1 → RetryPolicy.ofSettings s = .ok .once
  answered : ∀ policy, RetryPolicy.ofSettings s = .ok policy → policy.Answered

/-- Settings that are switched on and allow more or less than a single attempt are refused for
exactly what they are invalid for, and a policy that has been chosen finds all its delays. -/
theorem screening (hon : s.enabled = true) : s.Screening where
  valid_iff := by rw [validate_eq, Demand.make_eq_ok_iff]
  invalid_iff e := by rw [validate_eq, Demand.make_eq_error_iff]
  refused_iff hmany e := by
    rw [ofSettings_of_many hon hmany, ← ofSettings_error_iff]
    cases Retrying.ofSettings s with
    | error e' => rw [Except.map, Except.error.injEq, Except.error.injEq]
    | ok p => exact ⟨nofun, nofun⟩
  accepted hmany hvalid := by
    obtain ⟨p, hp, -⟩ := retrying_of_validate hvalid
    refine ⟨p, ?_⟩
    rw [ofSettings_of_many hon hmany, hp]
    rfl
  unchecked hone := ofSettings_of_single hone
  answered policy hchosen := by
    by_cases hone : s.maxRetryAttempts = 1
    · rw [ofSettings_of_single hone] at hchosen
      obtain rfl := Except.ok.inj hchosen
      exact RetryPolicy.answered_once
    · rw [ofSettings_of_many hon hone] at hchosen
      cases hp : Retrying.ofSettings s with
      | error e =>
        rw [hp] at hchosen
        cases hchosen
      | ok p =>
        rw [hp] at hchosen
        obtain rfl := Except.ok.inj hchosen
        exact RetryPolicy.answered_of_ofSettings hp

/-- Three things are wrong here, and the base comes first. -/
def manyFaults : RetrySettings where
  baseDelayMs := 0
  backoffMultiplier := .nan
  jitterFactor := .infinite false

theorem screening_manyFaults : manyFaults.enabled = true ∧ manyFaults.Screening ∧
    RetryPolicy.ofSettings manyFaults =
      .error (.backoff (.outOfRange "base_delay" "must be greater than zero")) := by
  have hscreening : manyFaults.Screening := screening rfl
  have hinvalid := (hscreening.invalid_iff
    (.backoff (.outOfRange "base_delay" "must be greater than zero"))).mpr
      ⟨manyFaults.demands.take 2, manyFaults.demands.drop 3, rfl, by decide⟩
  exact ⟨rfl, hscreening, (hscreening.refused_iff (by decide) _).mpr hinvalid⟩

/-- A single attempt, with a base that is not valid. -/
def singleFault : RetrySettings where
  maxRetryAttempts := 1
  baseDelayMs := 0

/-- Settings that are switched on and invalid can still choose a policy. -/
theorem invalid_single_accepted : singleFault.enabled = true ∧
    singleFault.validate =
      .error (.backoff (.outOfRange "base_delay" "must be greater than zero")) ∧
    RetryPolicy.ofSettings singleFault = .ok .once ∧
    ¬ ∀ s : RetrySettings, s.enabled = true →
      ∀ e, RetryPolicy.ofSettings s = .error e ↔ s.validate = .error e := by
  have hinvalid : singleFault.validate =
      .error (.backoff (.outOfRange "base_delay" "must be greater than zero")) := by decide +kernel
  have hchosen : RetryPolicy.ofSettings singleFault = .ok .once := ofSettings_of_single rfl
  refine ⟨rfl, hinvalid, hchosen, fun hall => ?_⟩
  have hrefused := (hall singleFault rfl _).mpr hinvalid
  rw [hchosen] at hrefused
  cases hrefused

end RetrySettings

end Delivery
