import Delivery.Courier

/-!
# Carrying out computations on a state

Retries, guarded calls and deliveries are written over any monad. A runner carries the computations
of a monad out on a state, one part after the other. What is proved for every runner holds on a
plain state, in a computation that counts, and of programs that ask questions alike.
-/

namespace Delivery

/-- A way to carry out the computations of a monad on a state. -/
structure Runner (m : Type → Type) [Monad m] (σ : Type) where
  run : {α : Type} → m α → σ → α × σ
  run_pure : ∀ {α : Type} (a : α) (s : σ), run (pure a) s = (a, s)
  run_bind : ∀ {α β : Type} (x : m α) (f : α → m β) (s : σ),
    run (x >>= f) s = run (f (run x s).1) (run x s).2

namespace Runner

variable {m : Type → Type} [Monad m] {σ τ α β : Type}

def ofState : Runner (StateM σ) σ where
  run x s := x s
  run_pure _ _ := rfl
  run_bind _ _ _ := rfl

def carrying (R : Runner m σ) : Runner (StateT τ m) (τ × σ) where
  run x s := ((R.run (x s.1) s.2).1.1, (R.run (x s.1) s.2).1.2, (R.run (x s.1) s.2).2)
  run_pure a s := by
    show ((R.run (pure (a, s.1)) s.2).1.1, (R.run (pure (a, s.1)) s.2).1.2,
      (R.run (pure (a, s.1)) s.2).2) = (a, s)
    rw [R.run_pure]
  run_bind x f s := by
    show ((R.run (x s.1 >>= fun p => f p.1 p.2) s.2).1.1,
      (R.run (x s.1 >>= fun p => f p.1 p.2) s.2).1.2,
      (R.run (x s.1 >>= fun p => f p.1 p.2) s.2).2) = _
    rw [R.run_bind]

variable (R : Runner m σ)

/-- Carried out on a state, the computation has a value and leaves a state for which this holds. -/
def Yields (x : m α) (s : σ) (Q : α → σ → Prop) : Prop := Q (R.run x s).1 (R.run x s).2

variable {R} {s : σ}

theorem yields_pure {a : α} {Q : α → σ → Prop} : R.Yields (pure a) s Q ↔ Q a s := by
  rw [Yields, R.run_pure]

theorem yields_bind {x : m α} {f : α → m β} {Q : β → σ → Prop} :
    R.Yields (x >>= f) s Q ↔ R.Yields x s fun a s' => R.Yields (f a) s' Q := by
  rw [Yields, R.run_bind]
  rfl

theorem yields_ofState {x : StateM σ α} {Q : α → σ → Prop} :
    ofState.Yields x s Q ↔ Q (x s).1 (x s).2 := Iff.rfl

theorem Yields.mono {x : m α} {P Q : α → σ → Prop} (h : R.Yields x s P)
    (hpq : ∀ a s', P a s' → Q a s') : R.Yields x s Q := hpq _ _ h

theorem Yields.and {x : m α} {P Q : α → σ → Prop} (h : R.Yields x s P) (h' : R.Yields x s Q) :
    R.Yields x s fun a s' => P a s' ∧ Q a s' := ⟨h, h'⟩

theorem carrying_lift {x : m α} {t : τ} {Q : α → τ × σ → Prop} :
    (carrying R).Yields (StateT.lift x) (t, s) Q ↔ R.Yields x s fun a s' => Q a (t, s') := by
  have h : (carrying R).run (StateT.lift x) (t, s) = ((R.run x s).1, t, (R.run x s).2) := by
    show ((R.run (x >>= fun a => pure (a, t)) s).1.1, (R.run (x >>= fun a => pure (a, t)) s).1.2,
      (R.run (x >>= fun a => pure (a, t)) s).2) = _
    rw [R.run_bind, R.run_pure]
  rw [Yields, h, Yields]

theorem carrying_modify {f : τ → τ} {t : τ} {Q : PUnit → τ × σ → Prop} :
    (carrying R).Yields (modify f) (t, s) Q ↔ Q () (f t, s) := by
  have h : (carrying R).run (modify f) (t, s) = ((), f t, s) := by
    show ((R.run (pure ((), f t)) s).1.1, (R.run (pure ((), f t)) s).1.2,
      (R.run (pure ((), f t)) s).2) = _
    rw [R.run_pure]
  rw [Yields, h]

end Runner

/-! ### Guarded calls -/

namespace Gate

variable {m : Type → Type} [Monad m] {σ ε α : Type} [Classified ε] [Describable ε]
  {R : Runner m σ} {s : σ}

theorem guard_yields {gate : Gate m} {caller : Caller m} {call : m (Except ε α)}
    {Q : Except (CallError ε) α → σ → Prop}
    (h : R.Yields gate.acquire s fun admission s' =>
      match admission with
      | .error refusal => Q (.error (.circuitOpen refusal)) s'
      | .ok () => R.Yields call s' fun r s' =>
        match r with
        | .ok v => R.Yields gate.recordSuccess s' fun _ s' => Q (.ok v) s'
        | .error e => R.Yields caller.cancelled s' fun stopped s' =>
          (isCancellation e = true ∨ stopped = true → Q (.error .cancelled) s') ∧
          (isCancellation e = false → stopped = false →
            R.Yields (gate.recordFailure (.ofFailure e)) s' fun _ s' =>
              Q (.error (.operation e)) s')) :
    R.Yields (gate.guard caller call) s Q := by
  rw [Gate.guard, Runner.yields_bind]
  refine h.mono ?_
  intro admission s₁ h₁
  cases admission with
  | error refusal => exact Runner.yields_pure.mpr h₁
  | ok u =>
    refine Runner.yields_bind.mpr (Runner.Yields.mono h₁ ?_)
    intro r s₂ h₂
    cases r with
    | ok v => exact Runner.yields_bind.mpr (Runner.Yields.mono h₂ fun _ _ => Runner.yields_pure.mpr)
    | error e =>
      refine Runner.yields_bind.mpr (Runner.Yields.mono h₂ ?_)
      rintro stopped s₃ ⟨hcut, hfail⟩
      split
      · rename_i hc
        exact Runner.yields_pure.mpr (hcut (by simpa using hc))
      · rename_i hc
        simp only [Bool.or_eq_true, not_or, Bool.not_eq_true] at hc
        exact Runner.yields_bind.mpr
          (Runner.Yields.mono (hfail hc.1 hc.2) fun _ _ => Runner.yields_pure.mpr)

end Gate

/-! ### Retrying -/

namespace RetryPolicy

variable {m : Type → Type} [Monad m] {σ ε α : Type} [Classified ε]

def delayAfter (policy : RetryPolicy) (attempt : Nat) (sample : Double) : Duration :=
  match policy with
  | once => 0
  | retrying p => p.delayAfter attempt sample

/-- What holds before an attempt (`before`), after it failed (`after`) and at the end (`last`), and
how the parts of an attempt lead from one to the other. -/
structure Invariant (R : Runner m σ) (policy : RetryPolicy) (caller : Caller m)
    (call : m (Except ε α)) (before : Nat → σ → Prop) (after : Nat → ε → σ → Prop)
    (last : Except (CallError ε) α → σ → Prop) : Prop where
  call : ∀ n s, before n s → R.Yields call s fun r s' =>
    match r with
    | .ok v => last (.ok v) s'
    | .error e => after n e s'
  stop : ∀ n e s, after n e s → R.Yields caller.cancelled s fun stopped s' =>
    stopped = true ∨ isCancellation e = true → last (.error .cancelled) s'
  final : ∀ n e s, after n e s → R.Yields caller.cancelled s fun stopped s' =>
    stopped = false → isCancellation e = false →
      policy.isRetriable e = false ∨ policy.maxAttempts ≤ n → last (.error (.operation e)) s'
  again : ∀ n e s, after n e s → R.Yields caller.cancelled s fun stopped s' =>
    stopped = false → policy.isRetriable e = true → n < policy.maxAttempts →
      R.Yields caller.sample s' fun x s' =>
        R.Yields (caller.pause (policy.delayAfter n x)) s' fun cut s' =>
          (cut = true → last (.error .cancelled) s') ∧ (cut = false → before (n + 1) s')

variable {R : Runner m σ} {policy : RetryPolicy} {caller : Caller m} {call : m (Except ε α)}
  {before : Nat → σ → Prop} {after : Nat → ε → σ → Prop}
  {last : Except (CallError ε) α → σ → Prop}

theorem Invariant.attempts {p : Retrying}
    (h : Invariant R (.retrying p) caller call before after last) (n left : Nat) (s : σ)
    (hn : n + left = max 1 p.maxAttempts) (hpos : 0 < n) (hs : before n s) :
    R.Yields (p.attempts caller call n left) s last := by
  -- on the attempts that are left after this one
  induction left generalizing n s with
  | zero =>
    rw [Retrying.attempts, Runner.yields_bind]
    refine (h.call n s hs).mono ?_
    intro r s₁ hr
    cases r with
    | ok v => exact Runner.yields_pure.mpr hr
    | error e =>
      simp only [Runner.yields_bind]
      refine ((h.stop n e s₁ hr).and (h.final n e s₁ hr)).mono ?_
      rintro stopped s₂ ⟨hstop, hfinal⟩
      split
      · rename_i hc
        exact Runner.yields_pure.mpr (hstop (by simpa using hc))
      · rename_i hc
        simp only [Bool.or_eq_true, not_or, Bool.not_eq_true] at hc
        have hlast : p.maxAttempts ≤ n := by omega
        have hq := hfinal hc.1 hc.2 (Or.inr hlast)
        split <;> exact Runner.yields_pure.mpr hq
  | succ left ih =>
    rw [Retrying.attempts, Runner.yields_bind]
    refine (h.call n s hs).mono ?_
    intro r s₁ hr
    cases r with
    | ok v => exact Runner.yields_pure.mpr hr
    | error e =>
      simp only [Runner.yields_bind]
      refine (((h.stop n e s₁ hr).and (h.final n e s₁ hr)).and (h.again n e s₁ hr)).mono ?_
      rintro stopped s₂ ⟨⟨hstop, hfinal⟩, hagain⟩
      split
      · rename_i hc
        exact Runner.yields_pure.mpr (hstop (by simpa using hc))
      · rename_i hc
        simp only [Bool.or_eq_true, not_or, Bool.not_eq_true] at hc
        split
        · rename_i hr
          have hno : p.isRetriable e = false := by simpa using hr
          exact Runner.yields_pure.mpr (hfinal hc.1 hc.2 (Or.inl hno))
        · rename_i hr
          have hyes : p.isRetriable e = true := by simpa using hr
          have hlt : n < p.maxAttempts := by omega
          simp only [Runner.yields_bind]
          refine (hagain hc.1 hyes hlt).mono ?_
          intro x s₃ hx
          refine hx.mono ?_
          rintro cut s₄ ⟨hcut, hgo⟩
          cases cut with
          | true => exact Runner.yields_pure.mpr (hcut rfl)
          | false => exact ih (n + 1) s₄ (by omega) (by omega) (hgo rfl)

theorem Invariant.executeOnce (h : Invariant R .once caller call before after last) (s : σ)
    (hs : before 1 s) : R.Yields (executeOnce caller call) s last := by
  rw [RetryPolicy.executeOnce, Runner.yields_bind]
  refine (h.call 1 s hs).mono ?_
  intro r s₁ hr
  cases r with
  | ok v => exact Runner.yields_pure.mpr hr
  | error e =>
    simp only [Runner.yields_bind]
    refine ((h.stop 1 e s₁ hr).and (h.final 1 e s₁ hr)).mono ?_
    rintro stopped s₂ ⟨hstop, hfinal⟩
    split
    · rename_i hc
      exact Runner.yields_pure.mpr (hstop (by simpa using hc))
    · rename_i hc
      simp only [Bool.or_eq_true, not_or, Bool.not_eq_true] at hc
      exact Runner.yields_pure.mpr (hfinal hc.1 hc.2 (Or.inl rfl))

theorem Invariant.execute (h : Invariant R policy caller call before after last) (s : σ)
    (hs : before 1 s) : R.Yields (policy.execute caller call) s last := by
  cases policy with
  | once => exact h.executeOnce s hs
  | retrying p => exact h.attempts 1 (p.maxAttempts - 1) s (by omega) Nat.one_pos hs

end RetryPolicy

end Delivery
