import Delivery.Proofs.Breaker.Run

/-!
# What is done with a breaker and what it makes of it

A breaker is asked something, or its listeners change. A run is a list of such acts, each with its
clock reading. All that a request can do is listed once, as the moves of a circuit that has just
been looked at: which guard it passed, what it leaves and which shift it makes.
-/

namespace Delivery

inductive BreakerAct (listener : Type) where
  | ask (request : BreakerRequest)
  | subscribe (l : listener)
  | unsubscribe (id : Nat)
  deriving DecidableEq, Repr

abbrev BreakerRun (listener : Type) := List (Instant × BreakerAct listener)

/-- The clock does not go back in a run of any kind. -/
def InTimeOrder {α : Type} (run : List (Instant × α)) : Prop := run.Pairwise fun a b => a.1 ≤ b.1

instance {α : Type} (run : List (Instant × α)) : Decidable (InTimeOrder run) :=
  inferInstanceAs (Decidable (run.Pairwise fun a b => a.1 ≤ b.1))

/-! ### Looking at a circuit -/

namespace Circuit

variable {c : Circuit} {period : Duration} {now : Instant}

/-- A look makes an open circuit whose period is over half-open, and leaves any other as it is. -/
theorem refresh_cases (c : Circuit) (period : Duration) (now : Instant) :
    (∃ start, c.state = .opened ∧ c.openedAt = some start ∧ period ≤ now - start ∧
      c.refresh period now =
        ⟨(), { c with state := .halfOpen, consecutiveSuccesses := 0 },
         [⟨.opened, .halfOpen, none⟩]⟩) ∨
    (c.refresh period now = ⟨(), c, []⟩ ∧
      ∀ start, c.state = .opened → c.openedAt = some start → now - start < period) := by
  by_cases hdue : c.isDue period now = true
  · have hstate : c.state = .opened := by
      simp only [isDue, Bool.and_eq_true, decide_eq_true_eq] at hdue
      exact hdue.1
    cases hat : c.openedAt with
    | none => simp [isDue, hat] at hdue
    | some start =>
      have hle : period ≤ now - start := by
        simp only [isDue, hat, Option.map_some, Option.getD_some, Bool.and_eq_true,
          decide_eq_true_eq] at hdue
        exact hdue.2
      refine Or.inl ⟨start, hstate, rfl, hle, ?_⟩
      rw [refresh, if_pos hdue, shift, hstate, hat]
  · refine Or.inr ⟨by rw [refresh, if_neg hdue], ?_⟩
    intro start hstate hat
    simp only [isDue, hstate, hat, Option.map_some, Option.getD_some, decide_true, Bool.true_and,
      decide_eq_true_eq] at hdue
    exact Nat.lt_of_not_le hdue

/-! ### Moves -/

/-- What a request makes of a circuit that has just been looked at, and with which shifts. -/
inductive Move (s : BreakerSettings) (now : Instant) (c : Circuit) :
    BreakerRequest → Circuit → List Shift → Prop where
  | observed : Move s now c .observe c []
  | admitted (h : c.state ≠ .opened) : Move s now c .acquire c []
  | refused (h : c.state = .opened) :
      Move s now c .acquire { c with rejected := c.rejected + 1 } []
  | forgiven (h : c.state ≠ .halfOpen) :
      Move s now c .recordSuccess { c with consecutiveFailures := 0 } []
  | probed (h : c.state = .halfOpen) (hfew : c.consecutiveSuccesses + 1 < s.successThreshold) :
      Move s now c .recordSuccess
        { c with consecutiveFailures := 0, consecutiveSuccesses := c.consecutiveSuccesses + 1 } []
  | recovered (h : c.state = .halfOpen) (hmany : s.successThreshold ≤ c.consecutiveSuccesses + 1) :
      Move s now c .recordSuccess
        { c with
          state := .closed, consecutiveFailures := 0, consecutiveSuccesses := 0, openedAt := none }
        [⟨.halfOpen, .closed, none⟩]
  | failed (cause : Option Incident) (h : c.state = .closed)
      (hfew : addCounts c.consecutiveFailures 1 < s.failureThreshold) :
      Move s now c (.recordFailure cause)
        { c with consecutiveFailures := addCounts c.consecutiveFailures 1 } []
  | tripped (cause : Option Incident) (h : c.state = .closed)
      (hmany : s.failureThreshold ≤ addCounts c.consecutiveFailures 1) :
      Move s now c (.recordFailure cause)
        { c with
          state := .opened, consecutiveFailures := addCounts c.consecutiveFailures 1
          openedAt := some now, consecutiveSuccesses := 0, timesOpened := c.timesOpened + 1 }
        [⟨.closed, .opened, cause⟩]
  | relapsed (cause : Option Incident) (h : c.state = .halfOpen) :
      Move s now c (.recordFailure cause)
        { c with
          state := .opened, consecutiveFailures := addCounts c.consecutiveFailures 1
          openedAt := some now, consecutiveSuccesses := 0, timesOpened := c.timesOpened + 1 }
        [⟨.halfOpen, .opened, cause⟩]
  | unheard (cause : Option Incident) (h : c.state = .opened) :
      Move s now c (.recordFailure cause) c []
  | cleared (h : c.state = .closed) :
      Move s now c .reset
        { c with consecutiveFailures := 0, consecutiveSuccesses := 0, openedAt := none } []
  | forced (h : c.state ≠ .closed) :
      Move s now c .reset
        { c with
          state := .closed, consecutiveFailures := 0, consecutiveSuccesses := 0, openedAt := none }
        [⟨c.state, .closed, none⟩]

end Circuit

/-! ### Requests -/

namespace CircuitBreaker

variable {listener : Type}

/-- The shifts that a request makes, in order. -/
def shifts (b : CircuitBreaker listener) (now : Instant) : BreakerRequest → List Shift
  | .observe => (b.circuit.observe b.settings.openDuration now).shifts
  | .acquire => (b.circuit.acquire b.settings.openDuration now).shifts
  | .recordSuccess => (b.circuit.recordSuccess b.settings now).shifts
  | .recordFailure incident =>
    if b.countsFailure incident then (b.circuit.recordFailure b.settings now incident).shifts
    else []
  | .reset => (b.circuit.reset b.settings.openDuration now).shifts

theorem notices_serve (b : CircuitBreaker listener) (now : Instant) (q : BreakerRequest) :
    (b.serve now q).notices = b.notices (b.shifts now q) := by
  cases q with
  | recordFailure incident =>
    simp only [serve, shifts]
    split
    · rfl
    · rfl
  | _ => rfl

/-- What becomes of a breaker that is asked something, and with which shifts. -/
inductive Served (b : CircuitBreaker listener) (now : Instant) :
    BreakerRequest → CircuitBreaker listener → List Shift → Prop where
  | uncounted (incident : Option Incident) (h : b.countsFailure incident = false) :
      Served b now (.recordFailure incident) b []
  | moved (q : BreakerRequest) (c : Circuit) (shifts : List Shift)
      (hcount : ∀ incident, q = .recordFailure incident → b.countsFailure incident = true)
      (hmove : Circuit.Move b.settings now
        (b.circuit.refresh b.settings.openDuration now).circuit q c shifts) :
      Served b now q { b with circuit := c }
        ((b.circuit.refresh b.settings.openDuration now).shifts ++ shifts)

theorem served_of_move {b : CircuitBreaker listener} {now : Instant} {q : BreakerRequest}
    {α : Type} {next : Circuit → Circuit.Effect α}
    (hcount : ∀ incident, q = .recordFailure incident → b.countsFailure incident = true)
    (hmove : ∀ c : Circuit, Circuit.Move b.settings now c q (next c).circuit (next c).shifts) :
    let e := b.circuit.refreshed b.settings.openDuration now next
    Served b now q { b with circuit := e.circuit } e.shifts :=
  Served.moved q _ _ hcount (hmove _)

theorem served (b : CircuitBreaker listener) (now : Instant) (q : BreakerRequest) :
    Served b now q (b.serve now q).breaker (b.shifts now q) := by
  cases q with
  | observe => exact served_of_move (by simp) fun c => .observed
  | acquire =>
    refine served_of_move (by simp) fun c => ?_
    by_cases h : c.state = .opened
    · simp only [if_pos h]
      exact .refused h
    · simp only [if_neg h]
      exact .admitted h
  | recordSuccess =>
    refine served_of_move (by simp) fun c => ?_
    obtain ⟨state, failures, successes, openedAt, timesOpened, rejected⟩ := c
    cases state with
    | closed => exact .forgiven (by simp)
    | opened => exact .forgiven (by simp)
    | halfOpen =>
      by_cases hmany : b.settings.successThreshold ≤ successes + 1
      · simp only [if_pos hmany]
        exact .recovered rfl hmany
      · simp only [if_neg hmany]
        exact .probed rfl (Nat.lt_of_not_le hmany)
  | recordFailure incident =>
    by_cases hcount : b.countsFailure incident = true
    · simp only [serve, shifts, if_pos hcount]
      refine served_of_move ?_ fun c => ?_
      · rintro _ ⟨⟩
        exact hcount
      · obtain ⟨state, failures, successes, openedAt, timesOpened, rejected⟩ := c
        cases state with
        | closed =>
          by_cases hmany : b.settings.failureThreshold ≤ addCounts failures 1
          · simp only [if_pos hmany]
            exact .tripped incident rfl hmany
          · simp only [if_neg hmany]
            exact .failed incident rfl (Nat.lt_of_not_le hmany)
        | halfOpen => exact .relapsed incident rfl
        | opened => exact .unheard incident rfl
    · simp only [serve, shifts, if_neg hcount]
      exact .uncounted incident (by simpa using hcount)
  | reset =>
    refine served_of_move (by simp) fun c => ?_
    by_cases h : c.state = .closed
    · simp only [if_pos h]
      exact .cleared h
    · simp only [if_neg h]
      exact .forced h

/-! ### Runs -/

def perform (b : CircuitBreaker listener) (now : Instant) :
    BreakerAct listener → CircuitBreaker listener
  | .ask q => (b.serve now q).breaker
  | .subscribe l => (b.subscribe l).2
  | .unsubscribe id => (b.unsubscribe id).2

/-- The breaker after a run. -/
def after (b : CircuitBreaker listener) (run : BreakerRun listener) : CircuitBreaker listener :=
  run.foldl (fun b e => b.perform e.1 e.2) b

@[simp] theorem after_nil (b : CircuitBreaker listener) : b.after [] = b := rfl

@[simp] theorem after_cons (b : CircuitBreaker listener) (e : Instant × BreakerAct listener)
    (run : BreakerRun listener) : b.after (e :: run) = (b.perform e.1 e.2).after run := rfl

@[simp] theorem after_append (b : CircuitBreaker listener) (first second : BreakerRun listener) :
    b.after (first ++ second) = (b.after first).after second := by
  simp only [after, List.foldl_append]

/-- A request changes nothing of a breaker but its circuit. -/
theorem serve_circuit_only (b : CircuitBreaker listener) (now : Instant) (q : BreakerRequest) :
    ∃ c, (b.serve now q).breaker = { b with circuit := c } := by
  have hs := b.served now q
  generalize (b.serve now q).breaker = b', b.shifts now q = shifts at hs
  cases hs with
  | uncounted incident h => exact ⟨b.circuit, rfl⟩
  | moved q c shifts hcount hmove => exact ⟨c, rfl⟩

/-- An act changes neither the name nor the settings nor the test of a breaker. -/
theorem perform_fixed (b : CircuitBreaker listener) (now : Instant) (act : BreakerAct listener) :
    (b.perform now act).name = b.name ∧ (b.perform now act).settings = b.settings ∧
      (b.perform now act).counts = b.counts := by
  cases act with
  | ask q =>
    obtain ⟨c, heq⟩ := b.serve_circuit_only now q
    rw [perform, heq]
    exact ⟨rfl, rfl, rfl⟩
  | subscribe l => exact ⟨rfl, rfl, rfl⟩
  | unsubscribe id => exact ⟨rfl, rfl, rfl⟩

theorem after_fixed (b : CircuitBreaker listener) (run : BreakerRun listener) :
    (b.after run).name = b.name ∧ (b.after run).settings = b.settings ∧
      (b.after run).counts = b.counts := by
  induction run generalizing b with
  | nil => exact ⟨rfl, rfl, rfl⟩
  | cons e rest ih =>
    obtain ⟨hname, hsettings, hcounts⟩ := b.perform_fixed e.1 e.2
    obtain ⟨hname', hsettings', hcounts'⟩ := ih (b.perform e.1 e.2)
    exact ⟨hname'.trans hname, hsettings'.trans hsettings, hcounts'.trans hcounts⟩

end CircuitBreaker

end Delivery
