import Delivery.Proofs.Breaker.Moves

/-!
# What is always true of a stored circuit

The five numbers that are stored of a circuit and the clock fit together after every run: when the
circuit opened, which counts are nought, and which are below their thresholds. Every look and every
move keeps this (`Sound.refresh`, `Sound.move`), so it holds of every breaker that there can be
(`after_sound`). It follows that no count ever reaches its 32 bits in a way that would show: the
count of probes stays below, and the count of failures is the true one while the circuit is closed.
-/

namespace Delivery

/-- The thresholds are numbers of 32 bits. -/
structure BreakerSettings.Fits (s : BreakerSettings) : Prop where
  failures : s.failureThreshold ≤ countLimit
  successes : s.successThreshold ≤ countLimit

namespace Circuit

/-- What is true of a stored circuit at a reading that nothing done with it is later than. -/
structure Sound (s : BreakerSettings) (now : Instant) (c : Circuit) : Prop where
  closed : c.state = .closed →
    c.openedAt = none ∧ c.consecutiveSuccesses = 0 ∧ c.consecutiveFailures < s.failureThreshold
  opened : c.state = .opened →
    (∃ start, c.openedAt = some start ∧ start ≤ now) ∧ c.consecutiveSuccesses = 0 ∧
      1 ≤ c.timesOpened
  halfOpen : c.state = .halfOpen →
    (∃ start, c.openedAt = some start ∧ start + s.openDuration ≤ now) ∧
      c.consecutiveSuccesses < s.successThreshold ∧ 1 ≤ c.timesOpened ∧
      (0 < c.consecutiveSuccesses → c.consecutiveFailures = 0)

variable {s : BreakerSettings} {c c' : Circuit} {now later : Instant} {q : BreakerRequest}
  {shifts : List Shift}

theorem Sound.of_closed (hst : c.state = .closed) (hat : c.openedAt = none)
    (hsucc : c.consecutiveSuccesses = 0) (hfail : c.consecutiveFailures < s.failureThreshold) :
    Sound s now c where
  closed _ := ⟨hat, hsucc, hfail⟩
  opened hop := by cases hst.symm.trans hop
  halfOpen hhalf := by cases hst.symm.trans hhalf

theorem Sound.of_opened (hst : c.state = .opened)
    (hat : ∃ start, c.openedAt = some start ∧ start ≤ now)
    (hsucc : c.consecutiveSuccesses = 0) (htimes : 1 ≤ c.timesOpened) : Sound s now c where
  closed hcl := by cases hst.symm.trans hcl
  opened _ := ⟨hat, hsucc, htimes⟩
  halfOpen hhalf := by cases hst.symm.trans hhalf

theorem Sound.of_halfOpen (hst : c.state = .halfOpen)
    (hat : ∃ start, c.openedAt = some start ∧ start + s.openDuration ≤ now)
    (hsucc : c.consecutiveSuccesses < s.successThreshold) (htimes : 1 ≤ c.timesOpened)
    (hfail : 0 < c.consecutiveSuccesses → c.consecutiveFailures = 0) : Sound s now c where
  closed hcl := by cases hst.symm.trans hcl
  opened hop := by cases hst.symm.trans hop
  halfOpen _ := ⟨hat, hsucc, htimes, hfail⟩

theorem Sound.initial (hv : s.validate = .ok ()) (now : Instant) : Sound s now {} := by
  obtain ⟨hfail, -, -⟩ := (BreakerSettings.validate_eq_ok_iff s).mp hv
  exact .of_closed rfl rfl rfl hfail

theorem Sound.mono (h : Sound s now c) (hle : now ≤ later) : Sound s later c := by
  refine ⟨h.closed, ?_, ?_⟩
  · intro hst
    obtain ⟨⟨start, hat, hstart⟩, hrest⟩ := h.opened hst
    exact ⟨⟨start, hat, Nat.le_trans hstart hle⟩, hrest⟩
  · intro hst
    obtain ⟨⟨start, hat, hstart⟩, hrest⟩ := h.halfOpen hst
    exact ⟨⟨start, hat, Nat.le_trans hstart hle⟩, hrest⟩

theorem Sound.refresh (hv : s.validate = .ok ()) (h : Sound s now c) :
    Sound s now (c.refresh s.openDuration now).circuit := by
  obtain ⟨-, hsucc, hopen⟩ := (BreakerSettings.validate_eq_ok_iff s).mp hv
  rcases c.refresh_cases s.openDuration now with ⟨start, hst, hat, hdue, heq⟩ | ⟨heq, -⟩
  · obtain ⟨⟨start', hat', hstart⟩, -, htimes⟩ := h.opened hst
    have hsame : start' = start := Option.some.inj (hat'.symm.trans hat)
    have hover : start + s.openDuration ≤ now := by
      rw [hsame] at hstart
      have hsum := Nat.add_le_add_left hdue start
      rwa [Nat.add_sub_of_le hstart] at hsum
    rw [heq]
    exact .of_halfOpen rfl ⟨start, hat, hover⟩ hsucc htimes fun hpos =>
      absurd hpos (Nat.lt_irrefl 0)
  · rw [heq]
    exact h

theorem Sound.move (hv : s.validate = .ok ()) (h : Sound s now c) (hm : Move s now c q c' shifts) :
    Sound s now c' := by
  obtain ⟨hfail, -, -⟩ := (BreakerSettings.validate_eq_ok_iff s).mp hv
  have hpositive : 1 ≤ c.timesOpened + 1 := Nat.le_add_left 1 _
  cases hm with
  | observed => exact h
  | admitted _ => exact h
  | refused hst => exact ⟨h.closed, h.opened, h.halfOpen⟩
  | forgiven hst =>
    refine ⟨?_, h.opened, ?_⟩
    · intro hcl
      obtain ⟨hat, hsucc, -⟩ := h.closed hcl
      exact ⟨hat, hsucc, hfail⟩
    · intro hhalf
      exact absurd hhalf hst
  | probed hst hfew =>
    obtain ⟨hat, -, htimes, -⟩ := h.halfOpen hst
    exact .of_halfOpen hst hat hfew htimes fun _ => rfl
  | recovered hst hmany => exact .of_closed rfl rfl rfl hfail
  | failed cause hst hfew =>
    obtain ⟨hat, hsucc, -⟩ := h.closed hst
    exact .of_closed hst hat hsucc hfew
  | tripped cause hst hmany => exact .of_opened rfl ⟨now, rfl, Nat.le_refl now⟩ rfl hpositive
  | relapsed cause hst => exact .of_opened rfl ⟨now, rfl, Nat.le_refl now⟩ rfl hpositive
  | unheard cause hst => exact h
  | cleared hst => exact .of_closed hst rfl rfl hfail
  | forced hst => exact .of_closed rfl rfl rfl hfail

/-- Below its threshold in every state, so that one more success never goes past the threshold. -/
theorem Sound.succ_successes_le (hv : s.validate = .ok ()) (h : Sound s now c) :
    c.consecutiveSuccesses + 1 ≤ s.successThreshold := by
  obtain ⟨-, hsucc, -⟩ := (BreakerSettings.validate_eq_ok_iff s).mp hv
  cases hst : c.state with
  | closed =>
    rw [(h.closed hst).2.1]
    exact hsucc
  | opened =>
    rw [(h.opened hst).2.1]
    exact hsucc
  | halfOpen => exact (h.halfOpen hst).2.1

end Circuit

namespace CircuitBreaker

variable {listener : Type} {b b' : CircuitBreaker listener} {now later : Instant}
  {q : BreakerRequest} {shifts : List Shift}

theorem Served.sound (hs : Served b now q b' shifts) (hv : b.settings.validate = .ok ())
    (h : b.circuit.Sound b.settings now) : b'.circuit.Sound b.settings now := by
  cases hs with
  | uncounted incident hno => exact h
  | moved q c shifts hcount hmove => exact (h.refresh hv).move hv hmove

theorem sound_perform (hv : b.settings.validate = .ok ()) (h : b.circuit.Sound b.settings now)
    (act : BreakerAct listener) : (b.perform now act).circuit.Sound b.settings now := by
  cases act with
  | ask q => exact (b.served now q).sound hv h
  | subscribe l => exact h
  | unsubscribe id => exact h

theorem sound_of_run (hv : b.settings.validate = .ok ()) (run : BreakerRun listener)
    (ho : InTimeOrder run) (hbefore : ∀ e ∈ run, now ≤ e.1) (hafter : ∀ e ∈ run, e.1 ≤ later)
    (hle : now ≤ later) (h : b.circuit.Sound b.settings now) :
    (b.after run).circuit.Sound b.settings later := by
  induction run generalizing b now with
  | nil => exact h.mono hle
  | cons e rest ih =>
    obtain ⟨hrest, ho'⟩ := List.pairwise_cons.mp ho
    have hat : b.circuit.Sound b.settings e.1 := h.mono (hbefore e List.mem_cons_self)
    have hstep := sound_perform hv hat e.2
    obtain ⟨-, hsettings, -⟩ := b.perform_fixed e.1 e.2
    rw [← hsettings] at hv hstep ⊢
    exact ih hv ho' hrest (fun r hr => hafter r (List.mem_cons_of_mem e hr))
      (hafter e List.mem_cons_self) hstep

/-! ### The row of failures -/

/-- The failures that count since the latest success or reset, counted without a limit. -/
def rowAfter (b : CircuitBreaker listener) (n : Nat) : BreakerAct listener → Nat
  | .ask (.recordFailure incident) => if b.countsFailure incident then n + 1 else n
  | .ask .recordSuccess | .ask .reset => 0
  | _ => n

def failuresInRow (b : CircuitBreaker listener) (run : BreakerRun listener) : Nat :=
  run.foldl (fun n e => b.rowAfter n e.2) 0

theorem addCounts_one_of_lt {n threshold : Nat} (h : addCounts n 1 < threshold)
    (hfit : threshold ≤ countLimit) : addCounts n 1 = n + 1 := by
  unfold addCounts at h ⊢
  omega

theorem refresh_of_closed {c : Circuit} {period : Duration}
    (h : (c.refresh period now).circuit.state = .closed) : (c.refresh period now).circuit = c := by
  rcases c.refresh_cases period now with ⟨start, hst, hat, hdue, heq⟩ | ⟨heq, -⟩
  · rw [heq] at h
    cases h
  · rw [heq]

theorem Served.row (hs : Served b now q b' shifts) (hfit : b.settings.Fits) {n : Nat}
    (h : b.circuit.state = .closed → b.circuit.consecutiveFailures = n)
    (hclosed : b'.circuit.state = .closed) :
    b'.circuit.consecutiveFailures = b.rowAfter n (.ask q) := by
  cases hs with
  | uncounted incident hno =>
    simp only [rowAfter, hno]
    exact h hclosed
  | moved q c shifts hcount hmove =>
    -- unless the move closes the circuit, it was closed before and is as it was stored
    have hsame : (b.circuit.refresh b.settings.openDuration now).circuit.state = .closed →
        (b.circuit.refresh b.settings.openDuration now).circuit.consecutiveFailures = n := by
      intro hst
      have heq := refresh_of_closed hst
      rw [heq] at hst ⊢
      exact h hst
    cases hmove with
    | observed => exact hsame hclosed
    | admitted _ => exact hsame hclosed
    | refused _ => exact hsame hclosed
    | forgiven _ => rfl
    | probed _ _ => rfl
    | recovered _ _ => rfl
    | failed cause hst hfew =>
      have hrow := hsame hst
      simp only [rowAfter, hcount cause rfl, if_true, ← hrow]
      exact addCounts_one_of_lt hfew hfit.failures
    | tripped cause _ _ => cases hclosed
    | relapsed cause _ => cases hclosed
    | unheard cause hst => cases hst.symm.trans hclosed
    | cleared _ => rfl
    | forced _ => rfl

theorem row_of_run (hfit : b.settings.Fits) (run : BreakerRun listener) {n : Nat}
    (h : b.circuit.state = .closed → b.circuit.consecutiveFailures = n)
    (hclosed : (b.after run).circuit.state = .closed) :
    (b.after run).circuit.consecutiveFailures = run.foldl (fun n e => b.rowAfter n e.2) n := by
  induction run generalizing b n with
  | nil => exact h hclosed
  | cons e rest ih =>
    obtain ⟨-, hsettings, hcounts⟩ := b.perform_fixed e.1 e.2
    have hstep : (b.perform e.1 e.2).circuit.state = .closed →
        (b.perform e.1 e.2).circuit.consecutiveFailures = b.rowAfter n e.2 := by
      cases hact : e.2 with
      | ask q => exact (b.served e.1 q).row hfit h
      | subscribe l => exact h
      | unsubscribe id => exact h
    have hrow : (b.perform e.1 e.2).rowAfter = b.rowAfter := by
      funext n act
      unfold rowAfter countsFailure
      rw [hcounts]
    have hrest := ih (hsettings ▸ hfit) hstep hclosed
    rw [hrow] at hrest
    exact hrest

/-- Whatever has been done with a breaker since it was created, what is stored of it fits together;
the count of probes never leaves its 32 bits when a success is noted; and while the circuit is
closed the count of failures is the number of failures in a row. -/
theorem after_sound {name : String} {s : BreakerSettings} {counts : Incident → Bool}
    (h : create name s counts = .ok b) (run : BreakerRun listener) (ho : InTimeOrder run)
    (hnow : ∀ e ∈ run, e.1 ≤ now) :
    (b.after run).circuit.Sound s now ∧
      (s.Fits →
        (∀ later, now ≤ later →
          ((b.after run).circuit.refresh s.openDuration later).circuit.consecutiveSuccesses + 1 ≤
            countLimit) ∧
        ((b.after run).circuit.state = .closed →
          (b.after run).circuit.consecutiveFailures = b.failuresInRow run)) := by
  obtain ⟨hv, hb⟩ := create_eq h
  have hsettings : b.settings = s := by rw [hb]
  have hcircuit : b.circuit = {} := by rw [hb]
  have hsound : (b.after run).circuit.Sound s now := by
    have hv' : b.settings.validate = .ok () := hsettings ▸ hv
    have hstart : b.circuit.Sound b.settings 0 := by
      rw [hcircuit]
      exact Circuit.Sound.initial hv' 0
    rw [← hsettings]
    exact sound_of_run hv' run ho (fun e _ => Nat.zero_le e.1) hnow (Nat.zero_le now) hstart
  refine ⟨hsound, ?_⟩
  intro hfit
  constructor
  · intro later hle
    have hlater := ((hsound.mono hle).refresh hv).succ_successes_le hv
    exact Nat.le_trans hlater hfit.successes
  · intro hclosed
    refine row_of_run (hsettings ▸ hfit) run ?_ hclosed
    intro _
    rw [hcircuit]

/-- Two failures open the circuit, a call is refused, a late failure of the half-open circuit opens
it again, two probes close it, and of the two failures after that one counts. -/
def ailing : BreakerRun Unit :=
  [(0, .ask (.recordFailure none)), (5, .subscribe ()), (5, .ask (.recordFailure none)),
   (400005, .ask .acquire), (1000005, .ask (.recordFailure none)),
   (2000005, .ask .recordSuccess), (2000006, .ask .observe), (2000007, .ask .recordSuccess),
   (2000008, .ask (.recordFailure (some ⟨.validation, "", false⟩))),
   (2000009, .ask (.recordFailure none))]

theorem after_sound_ailing :
    let s : BreakerSettings := { failureThreshold := 2, openDurationMs := 1, successThreshold := 2 }
    let counts : Incident → Bool := fun i => i.kind != .validation
    let b : CircuitBreaker Unit := { name := "orders", settings := s, counts }
    create "orders" s counts = .ok b ∧ InTimeOrder ailing ∧ (∀ e ∈ ailing, e.1 ≤ 2000009) ∧
      s.Fits ∧ (b.after (ailing.take 6)).circuit = ⟨.halfOpen, 0, 1, some 1000005, 2, 1⟩ ∧
      (b.after ailing).circuit.Sound s 2000009 ∧
      (b.after ailing).circuit = ⟨.closed, 1, 0, none, 2, 1⟩ ∧ b.failuresInRow ailing = 1 ∧
      (b.after ailing).circuit.consecutiveFailures = b.failuresInRow ailing ∧
      ((b.after ailing).circuit.refresh s.openDuration 3000000).circuit.consecutiveSuccesses + 1 ≤
        countLimit := by
  intro s counts b
  have hb : create "orders" s counts = .ok b := rfl
  have ho : InTimeOrder ailing := by decide
  have hnow : ∀ e ∈ ailing, e.1 ≤ 2000009 := by decide
  have hfit : s.Fits := ⟨by decide, by decide⟩
  obtain ⟨hsound, hcounts⟩ := after_sound hb ailing ho hnow
  obtain ⟨hsuccesses, hrow⟩ := hcounts hfit
  exact ⟨hb, ho, hnow, hfit, by decide, hsound, by decide, by decide, hrow (by decide),
    hsuccesses 3000000 (by decide)⟩

end CircuitBreaker

end Delivery
