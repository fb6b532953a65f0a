import Delivery.Proofs.Calls.Retrying
import Delivery.Proofs.Calls.Unrolled

/-!
# The policy that settings choose

Settings that allow a single attempt choose a policy that makes the call once and looks at neither
kinds nor delays. Nobody can tell it from retrying with one attempt: both are the same program, over
whatever caller and operation (`execute_eq_of_single`). Settings that are switched off are not
checked, and the call is made once whatever else they say. Main statement:
`RetrySettings.chosen_policy`.
-/

namespace Delivery

/-! ### Valid settings -/

namespace RetrySettings

variable {s : RetrySettings}

theorem of_validate (h : s.validate = .ok ()) :
    s.maxRetryAttempts ≠ 0 ∧ ∃ b, s.backoff = .ok b := by
  by_cases hpos : s.maxRetryAttempts = 0
  · simp [validate, hpos, throw, throwThe, MonadExceptOf.throw, bind, Except.bind] at h
  · by_cases hdelay : s.maxDelayMs < s.baseDelayMs
    · simp [validate, hpos, hdelay, throw, throwThe, MonadExceptOf.throw, bind, Except.bind] at h
    · rw [validate, if_neg hpos, if_neg hdelay] at h
      cases hb : s.backoff with
      | error e =>
        rw [hb] at h
        cases h
      | ok b => exact ⟨hpos, b, rfl⟩

theorem retrying_of_validate (h : s.validate = .ok ()) : ∃ p, Retrying.ofSettings s = .ok p ∧
    p.maxAttempts = s.maxRetryAttempts ∧ p.retriable = s.retriableKinds ∧
    p.nonRetriable = s.nonRetriableKinds := by
  obtain ⟨hpos, b, hb⟩ := of_validate h
  refine ⟨⟨s.maxRetryAttempts, b.toBackoff, s.retriableKinds, s.nonRetriableKinds⟩, ?_, rfl, rfl,
    rfl⟩
  unfold Retrying.ofSettings Retrying.create
  simp only [h, hb, if_neg hpos]
  rfl

theorem ofSettings_of_single (h : s.maxRetryAttempts = 1) : RetryPolicy.ofSettings s = .ok .once := by
  simp [RetryPolicy.ofSettings, h]

theorem ofSettings_of_disabled (h : s.enabled = false) : RetryPolicy.ofSettings s = .ok .once := by
  simp [RetryPolicy.ofSettings, h]

theorem ofSettings_of_many (hon : s.enabled = true) (h : s.maxRetryAttempts ≠ 1) :
    RetryPolicy.ofSettings s = (Retrying.ofSettings s).map .retrying := by
  simp [RetryPolicy.ofSettings, hon, h]

end RetrySettings

/-! ### One attempt -/

namespace RetryPolicy

section

variable {m : Type → Type} [Monad m] {ε α : Type} [Classified ε] {policy other : RetryPolicy}
  {caller : Caller m} {call : m (Except ε α)}

/-- After the last attempt nothing depends on the policy any more. -/
theorem afterFailure_of_last {n : Nat} (h : policy.maxAttempts ≤ n) (e : ε) :
    policy.afterFailure caller call n e = caller.cancelled >>= fun stopped =>
      if stopped || isCancellation e then pure (.error .cancelled)
      else pure (.error (.operation e)) := by
  have hlast : (!policy.isRetriable e || decide (policy.maxAttempts ≤ n)) = true := by simp [h]
  unfold afterFailure
  simp only [if_pos hlast]

theorem execute_eq_of_single (h : policy.maxAttempts ≤ 1) (h' : other.maxAttempts ≤ 1) :
    policy.execute caller call = other.execute caller call := by
  rw [execute_eq_attemptsFrom, execute_eq_attemptsFrom, attemptsFrom_eq, attemptsFrom_eq]
  refine congrArg (call >>= ·) (funext fun r => ?_)
  cases r with
  | ok v => rfl
  | error e =>
    dsimp only
    rw [afterFailure_of_last h, afterFailure_of_last h']

end

/-- A call goes the same way by both policies: for any operation, in any surroundings. -/
def Alike (policy other : RetryPolicy) : Prop :=
  ∀ {m : Type → Type} [Monad m] {ε α : Type} [Classified ε] (caller : Caller m)
    (call : m (Except ε α)), policy.execute caller call = other.execute caller call

end RetryPolicy

/-! ### Calls by a policy -/

namespace CallPlan

variable {ε α : Type} [Classified ε] (t : CallPlan ε α)

def beginning : Scene Unit Nat := { clock := t.start, stopAt := t.stopAt, rest := 0 }

def runBy (policy : RetryPolicy) : Except (CallError ε) α × Scene Unit Nat :=
  policy.execute (Scene.caller t.chance) t.call t.beginning

theorem runBy_retrying (p : Retrying) : t.runBy (.retrying p) = t.run p := rfl

/-- Whether the caller has asked to stop when the first invocation is over. -/
def stoppedFirst : Bool :=
  hasCome (earlierStop t.stopAt ((t.operation 1).stops.map (t.start + ·)))
    (t.start + (t.operation 1).lasts)

/-- A call that was made just once, and how it ends. -/
structure MadeOnce (r : Except (CallError ε) α) (s : Scene Unit Nat) : Prop where
  -- The one invocation is all that happened, and the call ends with it.
  log : s.log = [(t.start, .happened ())]
  invocations : s.rest = 1
  clock : s.clock = t.start + (t.operation 1).lasts
  draws : s.draws = 0
  ok_iff : ∀ v, r = .ok v ↔ (t.operation 1).result = .ok v
  cancelled_iff : r = .error .cancelled ↔ ∃ e, (t.operation 1).result = .error e ∧
    (t.stoppedFirst = true ∨ isCancellation e = true)
  operation_iff : ∀ e, r = .error (.operation e) ↔ (t.operation 1).result = .error e ∧
    t.stoppedFirst = false ∧ isCancellation e = false
  not_circuitOpen : ∀ c, r ≠ .error (.circuitOpen c)

theorem runBy_once_ok {v : α} (h : (t.operation 1).result = .ok v) :
    t.runBy .once = (.ok v, (t.call t.beginning).2) := by
  have hcall : (t.call t.beginning).1 = .ok v := h
  rw [runBy, RetryPolicy.execute_eq_attemptsFrom, RetryPolicy.attemptsFrom_run, hcall]

theorem runBy_once_error {e : ε} (h : (t.operation 1).result = .error e) :
    t.runBy .once = RetryPolicy.afterFailure .once (Scene.caller t.chance) t.call 1 e
      (t.call t.beginning).2 := by
  have hcall : (t.call t.beginning).1 = .error e := h
  rw [runBy, RetryPolicy.execute_eq_attemptsFrom, RetryPolicy.attemptsFrom_run, hcall]

theorem madeOnce : t.MadeOnce (t.runBy .once).1 (t.runBy .once).2 := by
  have hstopped : (t.call t.beginning).2.isStopped = t.stoppedFirst := rfl
  cases hr : (t.operation 1).result with
  | ok v =>
    rw [t.runBy_once_ok hr]
    exact ⟨rfl, rfl, rfl, rfl, by simp [hr], by simp [hr], by simp [hr], by simp⟩
  | error e =>
    rw [t.runBy_once_error hr]
    by_cases hcut : t.stoppedFirst = true ∨ isCancellation e = true
    · have hend : RetryPolicy.afterFailure .once (Scene.caller t.chance) t.call 1 e
          (t.call t.beginning).2 = (.error .cancelled, (t.call t.beginning).2) :=
        RetryPolicy.afterFailure_cancelled (by rw [hstopped]; simpa using hcut)
      have hnot (e' : ε) (he : e = e') : ¬ (t.stoppedFirst = false ∧ isCancellation e' = false) := by
        rintro ⟨hno, hplain⟩
        simp [hno, he, hplain] at hcut
      rw [hend]
      refine ⟨rfl, rfl, rfl, rfl, by simp [hr], by simp [hr, hcut], ?_, by simp⟩
      simpa [hr] using hnot
    · have hgo : t.stoppedFirst = false ∧ isCancellation e = false := by simpa using hcut
      have hend : RetryPolicy.afterFailure .once (Scene.caller t.chance) t.call 1 e
          (t.call t.beginning).2 = (.error (.operation e), (t.call t.beginning).2) :=
        RetryPolicy.afterFailure_last (by rw [hstopped]; simp [hgo]) (Or.inl rfl)
      have hplain (e' : ε) (he : e = e') : isCancellation e' = false := he ▸ hgo.2
      rw [hend]
      refine ⟨rfl, rfl, rfl, rfl, by simp [hr], by simp [hr, hgo], ?_, by simp⟩
      simp only [hr, hgo.1, Except.error.injEq, CallError.operation.injEq, true_and]
      exact fun e' => ⟨fun he => ⟨he, hplain e' he⟩, And.left⟩

end CallPlan

namespace RetrySettings

/-- What the choice of a policy by settings comes to. -/
structure Choice (s : RetrySettings) : Prop where
  valid : s.enabled = true → s.validate = .ok () → ∃ policy p,
    RetryPolicy.ofSettings s = .ok policy ∧ Retrying.ofSettings s = .ok p ∧
    policy.Alike (.retrying p) ∧
    ∀ {ε α : Type} [Classified ε] (t : CallPlan ε α), t.runBy policy = t.run p
  disabled : s.enabled = false → ∃ policy, RetryPolicy.ofSettings s = .ok policy ∧
    ∀ {ε α : Type} [Classified ε] (t : CallPlan ε α),
      t.MadeOnce (t.runBy policy).1 (t.runBy policy).2

/-- Which policy settings choose cannot be told from calls: valid ones retry as they say, also if
they choose the policy that never retries, and with those that are switched off a call is made
once. -/
theorem chosen_policy (s : RetrySettings) : s.Choice where
  valid hon h := by
    obtain ⟨p, hp, hmax, -, -⟩ := retrying_of_validate h
    by_cases hone : s.maxRetryAttempts = 1
    · have halike : RetryPolicy.once.Alike (.retrying p) := fun caller call =>
        RetryPolicy.execute_eq_of_single (Nat.le_refl 1) (Nat.le_of_eq (hmax.trans hone))
      exact ⟨.once, p, ofSettings_of_single hone, hp, halike, fun t => by
        rw [← t.runBy_retrying, CallPlan.runBy, halike]
        rfl⟩
    · refine ⟨.retrying p, p, ?_, hp, fun _ _ => rfl, fun t => t.runBy_retrying p⟩
      rw [ofSettings_of_many hon hone, hp]
      rfl
  disabled hoff := ⟨.once, ofSettings_of_disabled hoff, fun t => t.madeOnce⟩

/-- One attempt, and a kind that is not retried. -/
def singleAttempt : RetrySettings where
  maxRetryAttempts := 1
  jitterEnabled := false
  nonRetriableKinds := [.transient]

/-- Settings that would not pass, and are switched off. -/
def unchecked : RetrySettings where
  enabled := false
  maxRetryAttempts := 0
  maxDelayMs := 0

theorem chosen_policy_single :
    singleAttempt.enabled = true ∧ singleAttempt.validate = .ok () ∧
      (∃ p, Retrying.ofSettings singleAttempt = .ok p ∧
        CallPlan.tiedPlan.runBy .once = CallPlan.tiedPlan.run p) ∧
      unchecked.enabled = false ∧ unchecked.validate ≠ .ok () ∧
      CallPlan.tiedPlan.MadeOnce (CallPlan.tiedPlan.runBy .once).1
        (CallPlan.tiedPlan.runBy .once).2 := by
  have hvalid : singleAttempt.validate = .ok () := by decide +kernel
  have hrefused : unchecked.validate ≠ .ok () := by decide +kernel
  obtain ⟨policy, p, hpolicy, hp, -, hsame⟩ := (chosen_policy singleAttempt).valid rfl hvalid
  obtain ⟨other, hother, honce⟩ := (chosen_policy unchecked).disabled rfl
  rw [ofSettings_of_single rfl] at hpolicy
  rw [ofSettings_of_disabled rfl] at hother
  cases hpolicy
  cases hother
  exact ⟨rfl, hvalid, ⟨p, hp, hsame CallPlan.tiedPlan⟩, rfl, hrefused, honce CallPlan.tiedPlan⟩

end RetrySettings

end Delivery
