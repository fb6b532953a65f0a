import Delivery.Proofs.Breaker.Run

/-!
# Circuits with a timer

The eager circuit knows only its log: the failures that count, the successes and the resets, each
with its clock reading. From the log follows where the circuit stands at any reading, because its
timer turns it from open to half-open at the very moment at which the open period is over. Nothing
in it depends on when somebody looks.

A breaker has no timer and turns its circuit when it is next asked. Main statement
(`answers_eq_eager`): nobody can tell the two apart, so looking at a breaker, or reporting failures
that do not count, changes no other answer. The invariant is that the stored circuit is the eager
one as it stood when it was last looked at.
-/

namespace Delivery.Eager

/-! ### The log and where it leads -/

inductive Stimulus where
  | failure
  | success
  | reset
  deriving DecidableEq, Repr

abbrev Log := List (Instant × Stimulus)

/-- Where a circuit stands; unless it is closed, with the reading at which it opened. -/
inductive Standing where
  | closed
  | opened (since : Instant)
  | halfOpen (since : Instant)
  deriving DecidableEq, Repr

namespace Standing

/-- The timer: an open period that is over makes the circuit half-open. -/
def atTime (period : Duration) (now : Instant) : Standing → Standing
  | .opened since => if since + period ≤ now then .halfOpen since else .opened since
  | st => st

def isOpen : Standing → Bool
  | .opened _ => true
  | _ => false

def state : Standing → CircuitState
  | .closed => .closed
  | .opened _ => .opened
  | .halfOpen _ => .halfOpen

def since? : Standing → Option Instant
  | .closed => none
  | .opened since | .halfOpen since => some since

end Standing

/-- The successes noted from a reading on. -/
def successesFrom (start : Instant) (log : Log) : Nat :=
  log.countP fun e => e.2 = .success && start ≤ e.1

mutual

/-- Where the circuit stands after the last thing that drove it. -/
def standing (s : BreakerSettings) : Log → Standing
  | [] => .closed
  | (t, .failure) :: log =>
    match (standing s log).atTime s.openDuration t with
    | .closed =>
      if s.failureThreshold ≤ min (failuresInRow s log + 1) countLimit then .opened t else .closed
    | .halfOpen _ => .opened t
    | .opened since => .opened since
  | (t, .success) :: log =>
    match (standing s log).atTime s.openDuration t with
    | .halfOpen since =>
      if s.successThreshold ≤ successesFrom (since + s.openDuration) log + 1 then .closed
      else .halfOpen since
    | st => st
  | (_, .reset) :: _ => .closed

/-- The failures noted while the circuit was not open, since the latest success or reset. -/
def failuresInRow (s : BreakerSettings) : Log → Nat
  | (t, .failure) :: log =>
    if ((standing s log).atTime s.openDuration t).isOpen then failuresInRow s log
    else failuresInRow s log + 1
  | _ => 0

end

/-- Where the circuit stands at a clock reading. -/
def standingAt (s : BreakerSettings) (log : Log) (now : Instant) : Standing :=
  (standing s log).atTime s.openDuration now

/-- How often the circuit has opened: a failure opens one that was not open at that moment. -/
def openings (s : BreakerSettings) : Log → Nat
  | [] => 0
  | e :: log =>
    openings s log +
      if (standing s (e :: log)).isOpen && !(standingAt s log e.1).isOpen then 1 else 0

/-- The successes of the present half-open time; none at any other time. -/
def probes (s : BreakerSettings) (log : Log) (now : Instant) : Nat :=
  match standingAt s log now with
  | .halfOpen since => successesFrom (since + s.openDuration) log
  | _ => 0

/-! ### What can be seen of it -/

/-- The stimulus in a request. Looking, asking for admission and a failure that does not count are
none. -/
def stimulus? (counts : Incident → Bool) : BreakerRequest → Option Stimulus
  | .recordSuccess => some .success
  | .recordFailure incident => if (incident.map counts).getD true then some .failure else none
  | .reset => some .reset
  | .observe | .acquire => none

def logOf (counts : Incident → Bool) (past : List TimedRequest) : Log :=
  past.filterMap fun q => (stimulus? counts q.2).map (q.1, ·)

/-- How many of the past requests asked for admission at an open circuit. -/
def refusals (s : BreakerSettings) (counts : Incident → Bool) : List TimedRequest → Nat
  | [] => 0
  | q :: past =>
    refusals s counts past +
      if q.2 = .acquire ∧ (standingAt s (logOf counts past) q.1).isOpen then 1 else 0

def statsAt (s : BreakerSettings) (log : Log) (rejected : Nat) (now : Instant) : CircuitStats where
  state := (standingAt s log now).state
  consecutiveFailures := min (failuresInRow s log) countLimit
  consecutiveSuccesses := probes s log now
  timesOpened := openings s log
  rejected := rejected

/-- The answer of the eager circuit to a request after past ones, latest first. -/
def answer (s : BreakerSettings) (counts : Incident → Bool) (name : String)
    (past : List TimedRequest) (q : TimedRequest) : BreakerAnswer :=
  match q.2 with
  | .observe => .stats (statsAt s (logOf counts past) (refusals s counts past) q.1)
  | .acquire =>
    match standingAt s (logOf counts past) q.1 with
    | .opened since => .refused ⟨name, since + s.openDuration - q.1⟩
    | _ => .admitted
  | _ => .noted

def answers (s : BreakerSettings) (counts : Incident → Bool) (name : String) :
    (past run : List TimedRequest) → List BreakerAnswer
  | _, [] => []
  | past, q :: rest => answer s counts name past q :: answers s counts name (q :: past) rest

/-! ### Where an eager circuit can stand -/

namespace Standing

theorem atTime_eq_opened {period : Duration} {now since : Instant} {st : Standing} :
    st.atTime period now = .opened since ↔ st = .opened since ∧ now < since + period := by
  cases st with
  | opened start =>
    by_cases h : start + period ≤ now
    · simp only [atTime, if_pos h, reduceCtorEq, false_iff, not_and, opened.injEq]
      intro he
      lia
    · simp only [atTime, if_neg h, opened.injEq]
      constructor
      · intro he
        exact ⟨he, by lia⟩
      · exact fun he => he.1
  | _ => simp [atTime]

theorem atTime_eq_halfOpen {period : Duration} {now since : Instant} {st : Standing} :
    st.atTime period now = .halfOpen since ↔
      st = .halfOpen since ∨ st = .opened since ∧ since + period ≤ now := by
  cases st with
  | opened start =>
    by_cases h : start + period ≤ now
    · simp only [atTime, if_pos h, halfOpen.injEq, reduceCtorEq, false_or, opened.injEq]
      constructor
      · intro he
        exact ⟨he, by lia⟩
      · exact fun he => he.1
    · simp only [atTime, if_neg h, reduceCtorEq, false_or, opened.injEq, false_iff, not_and]
      intro he
      lia
  | _ => simp [atTime]

theorem atTime_eq_closed {period : Duration} {now : Instant} {st : Standing} :
    st.atTime period now = .closed ↔ st = .closed := by
  cases st with
  | opened start =>
    simp only [atTime]
    split <;> simp
  | _ => simp [atTime]

end Standing

/-- An open circuit was opened by a failure of its log, and all of the log falls into its open
period or before it. -/
theorem standing_opened {s : BreakerSettings} {log : Log} {since : Instant}
    (hp : 0 < s.openDuration) (ho : log.Pairwise fun a b => b.1 ≤ a.1)
    (h : standing s log = .opened since) :
    (since, .failure) ∈ log ∧ ∀ e ∈ log, e.1 < since + s.openDuration := by
  induction log with
  | nil => simp [standing] at h
  | cons e log ih =>
    obtain ⟨t, x⟩ := e
    obtain ⟨hle, ho'⟩ := List.pairwise_cons.mp ho
    -- either this failure opens the circuit, or it was open already and still is
    have key : (x = .failure ∧ since = t) ∨ standingAt s log t = .opened since := by
      cases x with
      | reset => simp [standing] at h
      | failure =>
        rw [standing] at h
        cases hs : (standing s log).atTime s.openDuration t with
        | closed =>
          simp only [hs] at h
          split at h
          · exact Or.inl ⟨rfl, (Standing.opened.inj h).symm⟩
          · cases h
        | halfOpen start =>
          simp only [hs] at h
          exact Or.inl ⟨rfl, (Standing.opened.inj h).symm⟩
        | opened start =>
          simp only [hs] at h
          exact Or.inr (hs.trans h)
      | success =>
        rw [standing] at h
        cases hs : (standing s log).atTime s.openDuration t with
        | halfOpen start =>
          simp only [hs] at h
          split at h <;> cases h
        | closed => simp only [hs] at h; cases h
        | opened start =>
          simp only [hs] at h
          exact Or.inr (hs.trans h)
    rcases key with ⟨rfl, rfl⟩ | hs
    · refine ⟨List.mem_cons_self, ?_⟩
      intro e he
      rcases List.mem_cons.mp he with rfl | he
      · exact Nat.lt_add_of_pos_right hp
      · have hle' : e.1 ≤ since := hle e he
        lia
    · obtain ⟨hst, ht⟩ := Standing.atTime_eq_opened.mp hs
      obtain ⟨hm, hall⟩ := ih ho' hst
      refine ⟨List.mem_cons_of_mem _ hm, ?_⟩
      intro e he
      rcases List.mem_cons.mp he with rfl | he
      · exact ht
      · exact hall e he

theorem standing_halfOpen {s : BreakerSettings} {log : Log} {since : Instant}
    (h : standing s log = .halfOpen since) : ∃ e ∈ log, since + s.openDuration ≤ e.1 := by
  induction log with
  | nil => simp [standing] at h
  | cons e log ih =>
    obtain ⟨t, x⟩ := e
    have key : standingAt s log t = .halfOpen since := by
      cases x with
      | reset => simp [standing] at h
      | failure =>
        rw [standing] at h
        cases hs : (standing s log).atTime s.openDuration t with
        | closed => simp only [hs] at h; split at h <;> cases h
        | _ => simp only [hs] at h; cases h
      | success =>
        rw [standing] at h
        cases hs : (standing s log).atTime s.openDuration t with
        | halfOpen start =>
          simp only [hs] at h
          split at h
          · cases h
          · exact hs.trans h
        | _ => simp only [hs] at h; cases h
    rcases Standing.atTime_eq_halfOpen.mp key with hst | ⟨hst, ht⟩
    · obtain ⟨e, he, hle⟩ := ih hst
      exact ⟨e, List.mem_cons_of_mem _ he, hle⟩
    · exact ⟨(t, x), List.mem_cons_self, ht⟩

/-! ### What is stored of a circuit -/

/-- The eager circuit at a clock reading, in the form in which circuits are stored. -/
def circuitAt (s : BreakerSettings) (log : Log) (rejected : Nat) (now : Instant) : Circuit where
  state := (standingAt s log now).state
  consecutiveFailures := min (failuresInRow s log) countLimit
  consecutiveSuccesses := probes s log now
  openedAt := (standingAt s log now).since?
  timesOpened := openings s log
  rejected := rejected

theorem stats_circuitAt (s : BreakerSettings) (log : Log) (rejected : Nat) (now : Instant) :
    (circuitAt s log rejected now).stats = statsAt s log rejected now := rfl

structure UpTo (now : Instant) (log : Log) : Prop where
  inOrder : log.Pairwise fun a b => b.1 ≤ a.1
  le : ∀ e ∈ log, e.1 ≤ now

theorem UpTo.mono {t now : Instant} {log : Log} (h : UpTo t log) (ht : t ≤ now) : UpTo now log :=
  ⟨h.inOrder, fun e he => Nat.le_trans (h.le e he) ht⟩

theorem UpTo.cons {now : Instant} {log : Log} (h : UpTo now log) (x : Stimulus) :
    UpTo now ((now, x) :: log) := by
  refine ⟨List.pairwise_cons.mpr ⟨h.le, h.inOrder⟩, ?_⟩
  intro e he
  rcases List.mem_cons.mp he with rfl | he
  · exact Nat.le_refl now
  · exact h.le e he

theorem successesFrom_eq_zero {start : Instant} {log : Log} (h : ∀ e ∈ log, e.1 < start) :
    successesFrom start log = 0 := by
  simp only [successesFrom, List.countP_eq_zero]
  intro e he hc
  have hlt := h e he
  simp only [Bool.and_eq_true, decide_eq_true_eq] at hc
  lia

section Settings

variable {s : BreakerSettings} {log : Log}

theorem opened_le {now since : Instant} (hp : 0 < s.openDuration) (hl : UpTo now log)
    (h : standingAt s log now = .opened since) : since ≤ now := by
  obtain ⟨hst, -⟩ := Standing.atTime_eq_opened.mp h
  exact hl.le _ (standing_opened hp hl.inOrder hst).1

/-- Looking at the stored circuit later makes it the eager circuit of that time. -/
theorem refresh_circuitAt {last now : Instant} (rejected : Nat) (hp : 0 < s.openDuration)
    (hl : UpTo last log) (hle : last ≤ now) :
    ((circuitAt s log rejected last).refresh s.openDuration now).circuit =
      circuitAt s log rejected now := by
  cases hst : standing s log with
  | closed =>
    have hat : ∀ t, standingAt s log t = .closed := fun t => Standing.atTime_eq_closed.mpr hst
    simp [Circuit.refresh, Circuit.isDue, circuitAt, probes, hat, Standing.state]
  | halfOpen since =>
    have hat : ∀ t, standingAt s log t = .halfOpen since :=
      fun t => Standing.atTime_eq_halfOpen.mpr (Or.inl hst)
    simp [Circuit.refresh, Circuit.isDue, circuitAt, probes, hat, Standing.state]
  | opened since =>
    obtain ⟨hm, hlog⟩ := standing_opened hp hl.inOrder hst
    have hs0 : successesFrom (since + s.openDuration) log = 0 := successesFrom_eq_zero hlog
    have hsince : since ≤ last := hl.le _ hm
    by_cases hlast : since + s.openDuration ≤ last
    · have hat : ∀ t, last ≤ t → standingAt s log t = .halfOpen since := fun t ht =>
        Standing.atTime_eq_halfOpen.mpr (Or.inr ⟨hst, Nat.le_trans hlast ht⟩)
      simp [Circuit.refresh, Circuit.isDue, circuitAt, probes, hat last (Nat.le_refl _),
        hat now hle, Standing.state]
    · have hbefore : standingAt s log last = .opened since :=
        Standing.atTime_eq_opened.mpr ⟨hst, by lia⟩
      by_cases hnow : since + s.openDuration ≤ now
      · have hafter : standingAt s log now = .halfOpen since :=
          Standing.atTime_eq_halfOpen.mpr (Or.inr ⟨hst, hnow⟩)
        have hdue : s.openDuration ≤ now - since := by lia
        simp [Circuit.refresh, Circuit.isDue, Circuit.shift, circuitAt, probes, hbefore, hafter,
          Standing.state, Standing.since?, hdue, hs0]
      · have hafter : standingAt s log now = .opened since :=
          Standing.atTime_eq_opened.mpr ⟨hst, by lia⟩
        have hdue : ¬ s.openDuration ≤ now - since := by lia
        simp [Circuit.refresh, Circuit.isDue, circuitAt, probes, hbefore, hafter,
          Standing.state, Standing.since?, hdue]

theorem halfOpen_le {now since : Instant} (hl : UpTo now log)
    (h : standingAt s log now = .halfOpen since) : since + s.openDuration ≤ now := by
  rcases Standing.atTime_eq_halfOpen.mp h with hst | ⟨-, hle⟩
  · obtain ⟨e, he, hle⟩ := standing_halfOpen hst
    exact Nat.le_trans hle (hl.le e he)
  · exact hle

/-! ### Operations on the stored circuit -/

variable {c : Circuit} {rejected : Nat} {now : Instant}

theorem reset_circuitAt
    (hc : (c.refresh s.openDuration now).circuit = circuitAt s log rejected now) :
    (c.reset s.openDuration now).circuit = circuitAt s ((now, .reset) :: log) rejected now := by
  have hat : standingAt s ((now, .reset) :: log) now = .closed := by
    simp [standingAt, standing, Standing.atTime]
  simp only [Circuit.reset, Circuit.refreshed, hc]
  split
  · simp_all [circuitAt, probes, failuresInRow, openings, standing, Standing.state,
      Standing.since?, Standing.isOpen]
  · simp [circuitAt, Circuit.shift, probes, failuresInRow, openings, hat, standing,
      Standing.state, Standing.since?, Standing.isOpen]

theorem recordSuccess_circuitAt (hl : UpTo now log)
    (hc : (c.refresh s.openDuration now).circuit = circuitAt s log rejected now) :
    (c.recordSuccess s now).circuit = circuitAt s ((now, .success) :: log) rejected now := by
  have hstep : standing s ((now, .success) :: log) = match standingAt s log now with
      | .halfOpen since =>
        if s.successThreshold ≤ successesFrom (since + s.openDuration) log + 1 then .closed
        else .halfOpen since
      | st => st := by rw [standing, standingAt]
  simp only [Circuit.recordSuccess, Circuit.refreshed, hc]
  cases hst : standingAt s log now with
  | closed =>
    simp only [hst] at hstep
    have hat : standingAt s ((now, .success) :: log) now = .closed := by
      simp [standingAt, hstep, Standing.atTime]
    simp [circuitAt, probes, failuresInRow, openings, hst, hat, hstep, Standing.state,
      Standing.since?, Standing.isOpen]
  | opened since =>
    simp only [hst] at hstep
    obtain ⟨-, hlt⟩ := Standing.atTime_eq_opened.mp hst
    have hat : standingAt s ((now, .success) :: log) now = .opened since :=
      Standing.atTime_eq_opened.mpr ⟨hstep, hlt⟩
    simp [circuitAt, probes, failuresInRow, openings, hst, hat, hstep, Standing.state,
      Standing.since?, Standing.isOpen]
  | halfOpen since =>
    simp only [hst] at hstep
    have hle := halfOpen_le hl hst
    have hcount : successesFrom (since + s.openDuration) ((now, .success) :: log) =
        successesFrom (since + s.openDuration) log + 1 := by
      simp [successesFrom, hle]
    by_cases hth : s.successThreshold ≤ successesFrom (since + s.openDuration) log + 1
    · rw [if_pos hth] at hstep
      have hat : standingAt s ((now, .success) :: log) now = .closed := by
        simp [standingAt, hstep, Standing.atTime]
      simp [circuitAt, Circuit.shift, probes, failuresInRow, openings, hst, hat, hstep, hth,
        Standing.state, Standing.since?, Standing.isOpen]
    · rw [if_neg hth] at hstep
      have hat : standingAt s ((now, .success) :: log) now = .halfOpen since := by
        simp [standingAt, hstep, Standing.atTime]
      simp [circuitAt, probes, failuresInRow, openings, hst, hat, hstep, hth, hcount,
        Standing.state, Standing.since?, Standing.isOpen]

theorem addCounts_min (n : Nat) : addCounts (min n countLimit) 1 = min (n + 1) countLimit := by
  simp only [addCounts]
  omega

theorem recordFailure_circuitAt (hp : 0 < s.openDuration) (cause : Option Incident)
    (hc : (c.refresh s.openDuration now).circuit = circuitAt s log rejected now) :
    (c.recordFailure s now cause).circuit = circuitAt s ((now, .failure) :: log) rejected now := by
  have hstep : standing s ((now, .failure) :: log) = match standingAt s log now with
      | .closed =>
        if s.failureThreshold ≤ min (failuresInRow s log + 1) countLimit then .opened now
        else .closed
      | .halfOpen _ => .opened now
      | .opened since => .opened since := by rw [standing, standingAt]
  have hrow : failuresInRow s ((now, .failure) :: log) =
      if (standingAt s log now).isOpen then failuresInRow s log else failuresInRow s log + 1 := by
    rw [failuresInRow, standingAt]
  -- a circuit that opens now is not half-open at the same moment
  have hnew : standing s ((now, .failure) :: log) = .opened now →
      standingAt s ((now, .failure) :: log) now = .opened now :=
    fun h => Standing.atTime_eq_opened.mpr ⟨h, Nat.lt_add_of_pos_right hp⟩
  simp only [Circuit.recordFailure, Circuit.refreshed, hc]
  cases hst : standingAt s log now with
  | closed =>
    simp only [hst, Standing.isOpen, Bool.false_eq_true, if_false] at hstep hrow
    by_cases hth : s.failureThreshold ≤ min (failuresInRow s log + 1) countLimit
    · rw [if_pos hth] at hstep
      simp [circuitAt, Circuit.shift, probes, openings, addCounts_min, hst, hrow, hstep,
        hnew hstep, hth, Standing.state, Standing.since?, Standing.isOpen]
    · rw [if_neg hth] at hstep
      have hat : standingAt s ((now, .failure) :: log) now = .closed := by
        simp [standingAt, hstep, Standing.atTime]
      simp [circuitAt, probes, openings, addCounts_min, hst, hrow, hstep, hat, hth,
        Standing.state, Standing.since?, Standing.isOpen]
  | halfOpen since =>
    simp only [hst, Standing.isOpen, Bool.false_eq_true, if_false] at hstep hrow
    simp [circuitAt, Circuit.shift, probes, openings, addCounts_min, hst, hrow, hstep,
      hnew hstep, Standing.state, Standing.since?, Standing.isOpen]
  | opened since =>
    simp only [hst, Standing.isOpen, if_true] at hstep hrow
    obtain ⟨-, hlt⟩ := Standing.atTime_eq_opened.mp hst
    have hat : standingAt s ((now, .failure) :: log) now = .opened since :=
      Standing.atTime_eq_opened.mpr ⟨hstep, hlt⟩
    simp [circuitAt, probes, openings, hst, hrow, hstep, hat, Standing.state,
      Standing.since?, Standing.isOpen]

theorem remaining_eq (period start now : Nat) (h : start ≤ now) :
    Duration.remaining period start now = start + period - now := by
  show period - (now - start) = start + period - now
  omega

theorem acquire_circuitAt (hp : 0 < s.openDuration) (hl : UpTo now log)
    (hc : (c.refresh s.openDuration now).circuit = circuitAt s log rejected now) :
    (c.acquire s.openDuration now).circuit = circuitAt s log
        (rejected + if (standingAt s log now).isOpen then 1 else 0) now ∧
      (c.acquire s.openDuration now).answer = match standingAt s log now with
        | .opened since => .error (since + s.openDuration - now)
        | _ => .ok () := by
  simp only [Circuit.acquire, Circuit.refreshed, hc]
  cases hst : standingAt s log now with
  | opened since =>
    have hleft := remaining_eq s.openDuration since now (opened_le hp hl hst)
    simp [circuitAt, Circuit.openRemaining, hst, hleft, Standing.state, Standing.since?,
      Standing.isOpen]
  | _ => simp [circuitAt, hst, Standing.state, Standing.since?, Standing.isOpen]

end Settings

/-! ### Runs -/

section Runs

variable {listener : Type} {s : BreakerSettings} {counts : Incident → Bool} {name : String}

/-- The breaker is in step with the eager circuit: what it stores is the eager circuit as it stood
at some reading that nothing in the log is later than. -/
structure InStep (s : BreakerSettings) (counts : Incident → Bool) (name : String)
    (b : CircuitBreaker listener) (past : List TimedRequest) (now : Instant) : Prop where
  settings_eq : b.settings = s
  counts_eq : b.counts = counts
  name_eq : b.name = name
  circuit : ∃ last, last ≤ now ∧ UpTo last (logOf counts past) ∧
    b.circuit = circuitAt s (logOf counts past) (refusals s counts past) last

variable {b : CircuitBreaker listener} {past : List TimedRequest} {now : Instant}

theorem InStep.upTo (h : InStep s counts name b past now) : UpTo now (logOf counts past) := by
  obtain ⟨last, hle, hl, -⟩ := h.circuit
  exact hl.mono hle

theorem InStep.mono {t : Instant} (h : InStep s counts name b past t) (ht : t ≤ now) :
    InStep s counts name b past now := by
  obtain ⟨last, hle, hc⟩ := h.circuit
  exact ⟨h.settings_eq, h.counts_eq, h.name_eq, last, Nat.le_trans hle ht, hc⟩

theorem InStep.refresh (hp : 0 < s.openDuration) (h : InStep s counts name b past now) :
    (b.circuit.refresh s.openDuration now).circuit =
      circuitAt s (logOf counts past) (refusals s counts past) now := by
  obtain ⟨last, hle, hl, hc⟩ := h.circuit
  rw [hc]
  exact refresh_circuitAt _ hp hl hle

theorem create_inStep (h : CircuitBreaker.create name s counts = .ok b) (now : Instant) :
    InStep s counts name b [] now := by
  obtain ⟨-, rfl⟩ := CircuitBreaker.create_eq h
  exact ⟨rfl, rfl, rfl, now, Nat.le_refl now, ⟨List.Pairwise.nil, by simp [logOf]⟩, rfl⟩

theorem logOf_cons (q : TimedRequest) (past : List TimedRequest) :
    logOf counts (q :: past) = match stimulus? counts q.2 with
      | some x => (q.1, x) :: logOf counts past
      | none => logOf counts past := by
  cases h : stimulus? counts q.2 <;> simp [logOf, h]

theorem refusals_cons {q : TimedRequest} (hq : q.2 ≠ .acquire) (past : List TimedRequest) :
    refusals s counts (q :: past) = refusals s counts past := by
  simp [refusals, hq]

theorem InStep.serve (hp : 0 < s.openDuration) (h : InStep s counts name b past now)
    (q : BreakerRequest) :
    (b.serve now q).answer = answer s counts name past (now, q) ∧
      InStep s counts name (b.serve now q).breaker ((now, q) :: past) now := by
  have hc := h.refresh hp
  have hl := h.upTo
  have hcounts : b.countsFailure = fun i => (i.map counts).getD true := by
    funext i
    rw [CircuitBreaker.countsFailure, h.counts_eq]
  -- all requests but a failure that does not count settle the breaker on a new circuit
  have settle : ∀ c : Circuit, UpTo now (logOf counts ((now, q) :: past)) →
      c = circuitAt s (logOf counts ((now, q) :: past)) (refusals s counts ((now, q) :: past)) now →
      InStep s counts name { b with circuit := c } ((now, q) :: past) now := fun c hu he =>
    ⟨h.settings_eq, h.counts_eq, h.name_eq, now, Nat.le_refl now, hu, he⟩
  cases q with
  | observe =>
    have hlog : logOf counts ((now, .observe) :: past) = logOf counts past := logOf_cons _ _
    constructor
    · simp only [CircuitBreaker.serve, CircuitBreaker.settle, Circuit.observe, Circuit.refreshed,
        h.settings_eq, hc, answer, stats_circuitAt]
    · apply settle
      · rw [hlog]
        exact hl
      · rw [hlog, refusals_cons (by simp)]
        simp only [Circuit.observe, Circuit.refreshed, h.settings_eq, hc]
  | acquire =>
    have hlog : logOf counts ((now, .acquire) :: past) = logOf counts past := logOf_cons _ _
    obtain ⟨hcirc, hans⟩ := acquire_circuitAt hp hl hc
    constructor
    · simp only [CircuitBreaker.serve, CircuitBreaker.settle, h.settings_eq, hans, h.name_eq,
        answer]
      cases standingAt s (logOf counts past) now <;> rfl
    · apply settle
      · rw [hlog]
        exact hl
      · rw [hlog, h.settings_eq, hcirc]
        simp [refusals]
  | recordSuccess =>
    have hlog : logOf counts ((now, .recordSuccess) :: past) =
        (now, .success) :: logOf counts past := logOf_cons _ _
    refine ⟨rfl, settle _ ?_ ?_⟩
    · rw [hlog]
      exact hl.cons .success
    · rw [hlog, refusals_cons (by simp), h.settings_eq]
      exact recordSuccess_circuitAt hl hc
  | recordFailure incident =>
    by_cases hcount : (incident.map counts).getD true = true
    · have hlog : logOf counts ((now, .recordFailure incident) :: past) =
          (now, .failure) :: logOf counts past := by
        rw [logOf_cons]
        simp [stimulus?, hcount]
      have hserve : b.serve now (.recordFailure incident) =
          b.settle (b.circuit.recordFailure b.settings now incident) .noted := by
        simp only [CircuitBreaker.serve, hcounts, if_pos hcount]
      rw [hserve]
      refine ⟨rfl, settle _ ?_ ?_⟩
      · rw [hlog]
        exact hl.cons .failure
      · rw [hlog, refusals_cons (by simp), h.settings_eq]
        exact recordFailure_circuitAt hp incident hc
    · have hlog : logOf counts ((now, .recordFailure incident) :: past) = logOf counts past := by
        rw [logOf_cons]
        simp [stimulus?, hcount]
      have hserve : b.serve now (.recordFailure incident) = ⟨.noted, b, []⟩ := by
        simp only [CircuitBreaker.serve, hcounts, if_neg hcount]
      rw [hserve]
      refine ⟨rfl, h.settings_eq, h.counts_eq, h.name_eq, ?_⟩
      rw [hlog, refusals_cons (by simp)]
      exact h.circuit
  | reset =>
    have hlog : logOf counts ((now, .reset) :: past) =
        (now, .reset) :: logOf counts past := logOf_cons _ _
    refine ⟨rfl, settle _ ?_ ?_⟩
    · rw [hlog]
      exact hl.cons .reset
    · rw [hlog, refusals_cons (by simp), h.settings_eq]
      exact reset_circuitAt hc

theorem InStep.answers_eq (hp : 0 < s.openDuration) (run : List TimedRequest)
    (h : ∀ q ∈ run, InStep s counts name b past q.1) (ho : InOrder run) :
    b.answers run = answers s counts name past run := by
  induction run generalizing b past with
  | nil => rfl
  | cons q rest ih =>
    obtain ⟨hle, ho'⟩ := List.pairwise_cons.mp ho
    obtain ⟨hans, hnext⟩ := (h q List.mem_cons_self).serve hp q.2
    simp only [CircuitBreaker.answers, answers, hans]
    rw [ih (fun r hr => hnext.mono (hle r hr)) ho']

/-! ### What leaves no trace -/

/-- A request that leaves no trace: a look at the breaker, or a failure that does not count. -/
def isSilent (counts : Incident → Bool) : BreakerRequest → Bool
  | .observe => true
  | .recordFailure incident => !(incident.map counts).getD true
  | _ => false

theorem logOf_silent {q : TimedRequest} (hq : isSilent counts q.2 = true)
    (past : List TimedRequest) : logOf counts (q :: past) = logOf counts past := by
  rw [logOf_cons]
  cases hr : q.2 <;> simp_all [isSilent, stimulus?]

theorem refusals_silent {q : TimedRequest} (hq : isSilent counts q.2 = true)
    (past : List TimedRequest) : refusals s counts (q :: past) = refusals s counts past := by
  apply refusals_cons
  intro hr
  simp [hr, isSilent] at hq

theorem answers_congr {past past' : List TimedRequest}
    (hlog : logOf counts past = logOf counts past')
    (href : refusals s counts past = refusals s counts past') (run : List TimedRequest) :
    answers s counts name past run = answers s counts name past' run := by
  induction run generalizing past past' with
  | nil => rfl
  | cons q rest ih =>
    have hans : answer s counts name past q = answer s counts name past' q := by
      simp only [answer, hlog, href]
    have hlog' : logOf counts (q :: past) = logOf counts (q :: past') := by
      rw [logOf_cons, logOf_cons, hlog]
    have href' : refusals s counts (q :: past) = refusals s counts (q :: past') := by
      simp only [refusals, hlog, href]
    simp only [answers, hans]
    rw [ih hlog' href']

theorem answers_append (past xs ys : List TimedRequest) :
    answers s counts name past (xs ++ ys) =
      answers s counts name past xs ++ answers s counts name (xs.reverse ++ past) ys := by
  induction xs generalizing past with
  | nil => rfl
  | cons q xs ih => simp [answers, ih]

theorem length_answers (past run : List TimedRequest) :
    (answers s counts name past run).length = run.length := by
  induction run generalizing past with
  | nil => rfl
  | cons q rest ih => simp [answers, ih]

theorem answers_eraseIdx (past xs ys : List TimedRequest) (q : TimedRequest)
    (hq : isSilent counts q.2 = true) :
    (answers s counts name past (xs ++ q :: ys)).eraseIdx xs.length =
      answers s counts name past (xs ++ ys) := by
  have hsame : answers s counts name (q :: (xs.reverse ++ past)) ys =
      answers s counts name (xs.reverse ++ past) ys :=
    answers_congr (logOf_silent hq _) (refusals_silent hq _) ys
  have hlen : (answers s counts name past xs).length = xs.length := length_answers past xs
  rw [answers_append, answers_append, answers, hsame, ← hlen]
  rw [List.eraseIdx_append_of_length_le (Nat.le_refl _), Nat.sub_self, List.eraseIdx_zero,
    List.tail_cons]

/-- A breaker answers every request of a run like the circuit with a timer, and leaving out a look
or a failure that does not count, at whatever place of the run, changes no other answer. -/
theorem answers_eq_eager (h : CircuitBreaker.create name s counts = .ok b)
    (run : List TimedRequest) (ho : InOrder run) :
    b.answers run = answers s counts name [] run ∧
      ∀ xs q ys, run = xs ++ q :: ys → isSilent counts q.2 = true →
        (b.answers run).eraseIdx xs.length = b.answers (xs ++ ys) := by
  have hvalid := (BreakerSettings.validate_eq_ok_iff s).mp (CircuitBreaker.create_eq h).1
  have hp : 0 < s.openDuration := Nat.mul_pos hvalid.2.2 (by decide)
  have hstart : ∀ run, InOrder run → b.answers run = answers s counts name [] run :=
    fun run ho => InStep.answers_eq hp run (fun q _ => create_inStep h q.1) ho
  refine ⟨hstart run ho, ?_⟩
  rintro xs q ys rfl hq
  have hsub : (xs ++ ys).Sublist (xs ++ q :: ys) :=
    (List.Sublist.refl xs).append (List.sublist_cons_self q ys)
  rw [hstart _ ho, hstart _ (ho.sublist hsub), answers_eraseIdx [] xs ys q hq]

/-- Two failures that count open a circuit for a millisecond, and one that does not count is in
between; a refusal, a look after the period, a failed probe, and a probe that closes it. -/
def reopening : List TimedRequest :=
  [(0, .recordFailure none), (5, .recordFailure (some ⟨.validation, "", false⟩)),
   (7, .recordFailure none), (400007, .acquire), (1000007, .observe),
   (1000009, .recordFailure none), (2000009, .recordSuccess), (2000009, .observe)]

theorem answers_eq_eager_reopening :
    let s : BreakerSettings := { failureThreshold := 2, openDurationMs := 1 }
    let counts : Incident → Bool := fun i => i.kind != .validation
    let b : CircuitBreaker Unit := { name := "orders", settings := s, counts }
    CircuitBreaker.create "orders" s counts = .ok b ∧ InOrder reopening ∧
      b.answers reopening =
        [.noted, .noted, .noted, .refused ⟨"orders", 600000⟩, .stats ⟨.halfOpen, 2, 0, 1, 1⟩,
         .noted, .noted, .stats ⟨.closed, 0, 0, 2, 1⟩] ∧
      b.answers reopening = answers s counts "orders" [] reopening ∧
      (b.answers reopening).eraseIdx 4 = b.answers (reopening.eraseIdx 4) := by
  intro s counts b
  have hb : CircuitBreaker.create "orders" s counts = .ok b := rfl
  have ho : InOrder reopening := by unfold InOrder; decide
  obtain ⟨heager, hsilent⟩ := answers_eq_eager hb reopening ho
  exact ⟨hb, ho, by decide, heager,
    hsilent (reopening.take 4) (1000007, .observe) (reopening.drop 5) rfl rfl⟩

end Runs

end Delivery.Eager
