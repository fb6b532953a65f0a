import Delivery.Proofs.Calls.Scene

/-!
# Retrying, one attempt at a time

What is left of a retried call is determined by the number of the next attempt, and after a failed
attempt by its number and its failure. Each way on from a failure is an equation of its own, for a
caller in a scene.
-/

namespace Delivery

theorem StateM.bind_run {σ α β : Type} (x : StateM σ α) (f : α → StateM σ β) (s : σ) :
    (x >>= f) s = f (x s).1 (x s).2 := rfl

theorem Scene.cancelled_run {τ σ : Type} {chance : Nat → Double} (s : Scene τ σ) :
    (Scene.caller chance).cancelled s = (s.isStopped, s) := rfl

namespace RetryPolicy

section

variable {m : Type → Type} [Monad m] {ε α : Type} [Classified ε] (policy : RetryPolicy)
  (caller : Caller m) (call : m (Except ε α))

/-- The attempts from one on. -/
def attemptsFrom (n : Nat) : m (Except (CallError ε) α) :=
  match policy with
  | once => executeOnce caller call
  | retrying p => p.attempts caller call n (p.maxAttempts - n)

/-- What is done after an attempt has failed. -/
def afterFailure (n : Nat) (e : ε) : m (Except (CallError ε) α) := do
  let stopped ← caller.cancelled
  if stopped || isCancellation e then return .error .cancelled
  if !policy.isRetriable e || decide (policy.maxAttempts ≤ n) then return .error (.operation e)
  let cut ← caller.pause (policy.delayAfter n (← caller.sample))
  if cut then return .error .cancelled
  policy.attemptsFrom caller call (n + 1)

theorem execute_eq_attemptsFrom :
    policy.execute caller call = policy.attemptsFrom caller call 1 := by
  cases policy <;> rfl

theorem attemptsFrom_eq (n : Nat) :
    policy.attemptsFrom caller call n = call >>= fun r =>
      match r with
      | .ok v => pure (.ok v)
      | .error e => policy.afterFailure caller call n e := by
  cases policy with
  | once =>
    refine congrArg (call >>= ·) (funext fun r => ?_)
    cases r with
    | ok v => rfl
    | error e => rfl
  | retrying p =>
    show p.attempts caller call n (p.maxAttempts - n) = _
    cases hleft : p.maxAttempts - n with
    | zero =>
      have hlast : decide ((retrying p).maxAttempts ≤ n) = true 
          := decide_eq_true (Nat.sub_eq_zero_iff_le.mp hleft)
      rw [Retrying.attempts]
      refine congrArg (call >>= ·) (funext fun r => ?_)
      cases r with
      | ok v => rfl
      | error e =>
        dsimp only [afterFailure]
        simp only [hlast, Bool.or_true, if_true, ite_self]
    | succ left =>
      have hmore : decide ((retrying p).maxAttempts ≤ n) = false :=
        decide_eq_false (by show ¬ p.maxAttempts ≤ n; omega)
      have hnext : p.maxAttempts - (n + 1) = left := by omega
      rw [Retrying.attempts]
      refine congrArg (call >>= ·) (funext fun r => ?_)
      cases r with
      | ok v => rfl
      | error e =>
        dsimp only [afterFailure, attemptsFrom]
        simp only [hmore, hnext, Bool.or_false]
        rfl

end

/-! ### In a scene -/

section

variable {τ σ ε α : Type} [Classified ε] {policy : RetryPolicy} {chance : Nat → Double}
  {call : StateM (Scene τ σ) (Except ε α)} {s : Scene τ σ} {n : Nat} {e : ε}

theorem attemptsFrom_run :
    policy.attemptsFrom (Scene.caller chance) call n s =
      match (call s).1 with
      | .ok v => (.ok v, (call s).2)
      | .error e => policy.afterFailure (Scene.caller chance) call n e (call s).2 := by
  rw [attemptsFrom_eq, StateM.bind_run]
  cases (call s).1 <;> rfl

theorem afterFailure_cancelled (h : (s.isStopped || isCancellation e) = true) :
    policy.afterFailure (Scene.caller chance) call n e s = (.error .cancelled, s) := by
  unfold afterFailure
  rw [StateM.bind_run, Scene.cancelled_run]
  dsimp only
  rw [if_pos h]
  rfl

theorem afterFailure_last (h : (s.isStopped || isCancellation e) = false)
    (hl : policy.isRetriable e = false ∨ policy.maxAttempts ≤ n) :
    policy.afterFailure (Scene.caller chance) call n e s = (.error (.operation e), s) := by
  have hno : ¬ (s.isStopped || isCancellation e) = true := by simp [h]
  unfold afterFailure
  rw [StateM.bind_run, Scene.cancelled_run]
  dsimp only
  rw [if_neg hno, if_pos (by simpa using hl)]
  rfl

/-- The scene after the wait that follows an attempt. -/
def waited (policy : RetryPolicy) (chance : Nat → Double) (n : Nat) (s : Scene τ σ) :
    Bool × Scene τ σ :=
  (Scene.caller chance).pause (policy.delayAfter n ((Scene.caller chance).sample s).1)
    ((Scene.caller chance).sample s).2

theorem afterFailure_again (h : (s.isStopped || isCancellation e) = false)
    (hr : policy.isRetriable e = true) (hlt : n < policy.maxAttempts) :
    policy.afterFailure (Scene.caller chance) call n e s =
      if (waited policy chance n s).1 then (.error .cancelled, (waited policy chance n s).2)
      else policy.attemptsFrom (Scene.caller chance) call (n + 1) (waited policy chance n s).2 := by
  have hno : ¬ (s.isStopped || isCancellation e) = true := by simp [h]
  have hgo : ¬ (!policy.isRetriable e || decide (policy.maxAttempts ≤ n)) = true := by
    simp [hr, hlt]
  unfold afterFailure
  rw [StateM.bind_run, Scene.cancelled_run]
  dsimp only
  rw [if_neg hno, if_neg hgo, StateM.bind_run, StateM.bind_run]
  unfold waited
  cases ((Scene.caller chance).pause (policy.delayAfter n _) _).1 <;> rfl

end

end RetryPolicy

end Delivery
