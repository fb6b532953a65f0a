import Delivery.Proofs.Calls.Scene

/-!
# The course of a retried call

A plan says how every invocation of an operation goes, when the caller asks to stop, and what is
left to chance. From it follow the readings at which each invocation would begin and end, whatever
the policy does. Main statement (`execute_course`): how many invocations and waits there are, when,
and how the call ends.
-/

namespace Delivery

theorem Retrying.not_isCancellation {ε : Type} [Classified ε] {p : Retrying} {e : ε}
    (h : p.isRetriable e = true) : isCancellation e = false := by
  simp only [Retrying.isRetriable, Bool.and_eq_true, Bool.not_eq_true'] at h
  exact h.1.1

structure Invocation (ε α : Type) where
  lasts : Duration := 0
  -- How long after its beginning it makes the caller ask to stop, if it does.
  stops : Option Duration := none
  result : Except ε α

/-- How a retried call goes on from a clock reading. Invocations and numbers count from one. -/
structure CallPlan (ε α : Type) where
  operation : Nat → Invocation ε α
  chance : Nat → Double
  start : Instant := 0
  stopAt : Option Instant := none

namespace CallPlan

variable {ε α : Type}

def call (t : CallPlan ε α) : StateM (Scene Unit Nat) (Except ε α) := fun s =>
  let o := t.operation (s.rest + 1)
  (o.result, { (s.record (.happened ())).pass o.lasts o.stops with rest := s.rest + 1 })

def run [Classified ε] (t : CallPlan ε α) (p : Retrying) :
    Except (CallError ε) α × Scene Unit Nat :=
  p.execute (Scene.caller t.chance) t.call { clock := t.start, stopAt := t.stopAt, rest := 0 }

/-! ### Readings -/

variable (t : CallPlan ε α) (p : Retrying)

/-- The delay that the backoff has for an attempt, or none. -/
def delay (i : Nat) : Duration := ((p.backoff.delay i (t.chance i)).toOption).getD 0

/-- When an invocation begins, if it is made. -/
def startOf : Nat → Instant
  | 0 | 1 => t.start
  | i + 2 => startOf (i + 1) + (t.operation (i + 1)).lasts + t.delay p (i + 1)

def finishOf (i : Nat) : Instant := t.startOf p i + (t.operation i).lasts

/-- The stop that is due when so many invocations have been made. -/
def stopAfter : Nat → Option Instant
  | 0 => t.stopAt
  | i + 1 => earlierStop (stopAfter i) ((t.operation (i + 1)).stops.map (t.startOf p (i + 1) + ·))

def stoppedAfter (i : Nat) : Bool := hasCome (t.stopAfter p i) (t.finishOf p i)

/-- Whether the caller asks to stop before the wait after an invocation is over, or just then. -/
def stoppedInWait (i : Nat) : Bool := hasCome (t.stopAfter p i) (t.finishOf p i + t.delay p i)

def rounds : Nat → List (Instant × CallEvent Unit)
  | 0 => []
  | i + 1 => rounds i ++ [(t.startOf p (i + 1), .happened ())] ++
    [(t.finishOf p (i + 1), .paused (t.delay p (i + 1)))]

def sceneBefore (k : Nat) : Scene Unit Nat where
  clock := t.startOf p k
  stopAt := t.stopAfter p (k - 1)
  draws := k - 1
  log := t.rounds p (k - 1)
  rest := k - 1

def sceneAfter (k : Nat) : Scene Unit Nat where
  clock := t.finishOf p k
  stopAt := t.stopAfter p k
  draws := k - 1
  log := t.rounds p (k - 1) ++ [(t.startOf p k, .happened ())]
  rest := k

variable {t p} {k : Nat}

theorem call_sceneBefore (hk : 1 ≤ k) :
    t.call (t.sceneBefore p k) = ((t.operation k).result, t.sceneAfter p k) := by
  obtain ⟨i, rfl⟩ := Nat.exists_eq_add_of_le' hk
  rfl

theorem delayAfter_eq (t : CallPlan ε α) (p : Retrying) (k : Nat) :
    p.delayAfter k (t.chance k) = t.delay p k := by
  unfold Retrying.delayAfter delay
  cases p.backoff.delay k (t.chance k) <;> rfl

def sceneWaited (t : CallPlan ε α) (p : Retrying) (k : Nat) : Scene Unit Nat :=
  { t.sceneAfter p k with
    clock := (t.sceneAfter p k).waitEnd (t.delay p k), draws := k, log := t.rounds p k }

theorem wait_sceneAfter (hk : 1 ≤ k) {Q : Bool → Scene Unit Nat → Prop}
    (h : Q (t.stoppedInWait p k) (t.sceneWaited p k)) :
    Runner.ofState.Yields (Scene.caller t.chance).sample (t.sceneAfter p k) fun x s =>
      Runner.ofState.Yields ((Scene.caller t.chance).pause (p.delayAfter k x)) s Q := by
  obtain ⟨i, rfl⟩ := Nat.exists_eq_add_of_le' hk
  simp only [stoppedInWait, sceneWaited, rounds, ← t.delayAfter_eq p] at h
  exact h

theorem sceneWaited_eq (h : t.stoppedInWait p k = false) (hk : 1 ≤ k) :
    t.sceneWaited p k = t.sceneBefore p (k + 1) := by
  obtain ⟨i, rfl⟩ := Nat.exists_eq_add_of_le' hk
  have hclock : (t.sceneAfter p (i + 1)).waitEnd (t.delay p (i + 1)) = t.startOf p (i + 2) :=
    Scene.waitEnd_of_not_hasCome h
  rw [sceneWaited, hclock]
  rfl

/-! ### Courses -/

variable (t p) [Classified ε]

/-- The invocation fails, the policy goes on after it, and nobody asks to stop. -/
def Retried (i : Nat) : Prop :=
  t.stoppedAfter p i = false ∧ t.stoppedInWait p i = false ∧ ∃ e,
    (t.operation i).result = .error e ∧ isCancellation e = false ∧ p.isRetriable e = true

/-- The invocation fails, the policy begins to wait, and the wait is cut. -/
def Cut (i : Nat) : Prop :=
  t.stoppedAfter p i = false ∧ t.stoppedInWait p i = true ∧ i < p.maxAttempts ∧ ∃ e,
    (t.operation i).result = .error e ∧ p.isRetriable e = true

structure Reached (k : Nat) : Prop where
  pos : 1 ≤ k
  le : k ≤ p.maxAttempts
  retried : ∀ i, 1 ≤ i → i < k → t.Retried p i

/-- The course of a call of `k` invocations that ends with `r` and leaves this log. -/
structure Course (k : Nat) (r : Except (CallError ε) α) (log : List (Instant × CallEvent Unit)) :
    Prop extends t.Reached p k where
  -- One wait between two invocations, and one after the last only if it is cut.
  log_of_cut : t.Cut p k → log = t.rounds p k
  log_of_not_cut : ¬ t.Cut p k → log = t.rounds p (k - 1) ++ [(t.startOf p k, .happened ())]
  ok_iff : ∀ v, r = .ok v ↔ (t.operation k).result = .ok v
  cancelled_iff : r = .error .cancelled ↔ t.Cut p k ∨
    ∃ e, (t.operation k).result = .error e ∧ (t.stoppedAfter p k = true ∨ isCancellation e = true)
  operation_iff : ∀ e, r = .error (.operation e) ↔ (t.operation k).result = .error e ∧
    t.stoppedAfter p k = false ∧ isCancellation e = false ∧
    (p.isRetriable e = false ∨ k = p.maxAttempts)
  not_circuitOpen : ∀ c, r ≠ .error (.circuitOpen c)

variable {t p} {e : ε}

theorem Reached.first (hp : 0 < p.maxAttempts) : t.Reached p 1 where
  pos := Nat.le_refl 1
  le := hp
  retried _ hi h1 := absurd hi (Nat.not_le_of_lt h1)

theorem Reached.next (h : t.Reached p k) (hk : t.Retried p k) (hlt : k < p.maxAttempts) :
    t.Reached p (k + 1) where
  pos := Nat.le_add_left 1 k
  le := hlt
  retried i hi hik := by
    rcases Nat.lt_succ_iff_lt_or_eq.mp hik with h' | rfl
    · exact h.retried i hi h'
    · exact hk

/-! ### The four ways to end -/

theorem Reached.ended_ok (h : t.Reached p k) {v : α} (hr : (t.operation k).result = .ok v) :
    t.Course p k (.ok v) (t.rounds p (k - 1) ++ [(t.startOf p k, .happened ())]) where
  toReached := h
  log_of_cut := by simp [Cut, hr]
  log_of_not_cut _ := rfl
  ok_iff := by simp [hr]
  cancelled_iff := by simp [Cut, hr]
  operation_iff := by simp [hr]
  not_circuitOpen := by simp

theorem Reached.ended_cancelled (h : t.Reached p k) (hr : (t.operation k).result = .error e)
    (hs : t.stoppedAfter p k = true ∨ isCancellation e = true) :
    t.Course p k (.error .cancelled) (t.rounds p (k - 1) ++ [(t.startOf p k, .happened ())]) where
  toReached := h
  log_of_cut := by
    rintro ⟨hno, -, -, e', he, hre⟩
    obtain rfl : e = e' := by simpa [hr] using he
    simp [hno, Retrying.not_isCancellation hre] at hs
  log_of_not_cut _ := rfl
  ok_iff := by simp [hr]
  cancelled_iff := by simpa [hr] using Or.inr hs
  operation_iff := by
    intro e'
    simp only [hr, Except.error.injEq, reduceCtorEq, false_iff]
    rintro ⟨rfl, hno, hc, -⟩
    simp [hno, hc] at hs
  not_circuitOpen := by simp

theorem Reached.ended_operation (h : t.Reached p k) (hr : (t.operation k).result = .error e)
    (hs : t.stoppedAfter p k = false) (hc : isCancellation e = false)
    (hl : p.isRetriable e = false ∨ p.maxAttempts ≤ k) :
    t.Course p k (.error (.operation e))
      (t.rounds p (k - 1) ++ [(t.startOf p k, .happened ())]) := by
  have hlast : p.isRetriable e = false ∨ k = p.maxAttempts :=
    hl.imp_right fun hk => Nat.le_antisymm h.le hk
  have hcut : ¬ t.Cut p k := by
    rintro ⟨-, -, hlt, e', he, hre⟩
    obtain rfl : e = e' := by simpa [hr] using he
    simp [hre, Nat.not_le_of_lt hlt] at hl
  exact {
    toReached := h
    log_of_cut := fun hc => absurd hc hcut
    log_of_not_cut := fun _ => rfl
    ok_iff := by simp [hr]
    cancelled_iff := by simp [hr, hs, hc, hcut]
    operation_iff := by
      intro e'
      simp only [hr, hs, Except.error.injEq, CallError.operation.injEq, true_and]
      refine ⟨?_, fun he => he.1⟩
      rintro rfl
      exact ⟨rfl, hc, hlast⟩
    not_circuitOpen := by simp }

theorem Reached.ended_cut (h : t.Reached p k) (hcut : t.Cut p k) :
    t.Course p k (.error .cancelled) (t.rounds p k) := by
  have ⟨_, _, hlt, e, hr, hre⟩ := hcut
  exact {
    toReached := h
    log_of_cut := fun _ => rfl
    log_of_not_cut := fun hno => absurd hcut hno
    ok_iff := by simp [hr]
    cancelled_iff := by simp [hcut]
    operation_iff := by
      intro e'
      simp only [hr, Except.error.injEq, reduceCtorEq, false_iff]
      rintro ⟨rfl, -, -, hno | rfl⟩
      · simp [hre] at hno
      · exact Nat.lt_irrefl _ hlt
    not_circuitOpen := by simp }

/-! ### Running -/

theorem invariant : RetryPolicy.Invariant (Runner.ofState (σ := Scene Unit Nat)) (.retrying p)
    (Scene.caller t.chance) t.call
    (fun k s => t.Reached p k ∧ s = t.sceneBefore p k)
    (fun k e s => t.Reached p k ∧ (t.operation k).result = .error e ∧ s = t.sceneAfter p k)
    (fun r s => ∃ k, t.Course p k r s.log) where
  call := by
    rintro k s ⟨hk, rfl⟩
    rw [Runner.yields_ofState, call_sceneBefore hk.pos]
    split
    · rename_i v hr
      exact ⟨k, hk.ended_ok hr⟩
    · rename_i e hr
      exact ⟨hk, hr, rfl⟩
  stop := by
    rintro k e s ⟨hk, hr, rfl⟩ hs
    exact ⟨k, hk.ended_cancelled hr hs⟩
  final := by
    rintro k e s ⟨hk, hr, rfl⟩ hs hc hl
    exact ⟨k, hk.ended_operation hr hs hc hl⟩
  again := by
    rintro k e s ⟨hk, hr, rfl⟩ hs hre hlt
    refine wait_sceneAfter hk.pos ⟨fun hcut => ?_, fun hgo => ?_⟩
    · exact ⟨k, hk.ended_cut ⟨hs, hcut, hlt, e, hr, hre⟩⟩
    · have hc : isCancellation e = false := Retrying.not_isCancellation hre
      exact ⟨hk.next ⟨hs, hgo, e, hr, hc, hre⟩ hlt, sceneWaited_eq hgo hk.pos⟩

/-- A call is retried as its plan has it: it makes the invocations that the failures allow, with one
wait between two of them, and ends as the last one does, unless the caller has asked to stop. -/
theorem execute_course (t : CallPlan ε α) (p : Retrying) (hp : 0 < p.maxAttempts) :
    ∃ k, t.Course p k (t.run p).1 (t.run p).2.log :=
  (invariant (t := t) (p := p)).execute _ ⟨.first hp, rfl⟩

def threeAttempts : Retrying where
  maxAttempts := 3
  backoff := ⟨fun i _ => if i = 1 then .error (.outOfRange "attempt" "too early") else .ok 100, ""⟩
  retriable := [.transient]

/-- The caller asks to stop just when the second wait is over. -/
def tiedPlan : CallPlan TransportError Unit where
  operation _ := { lasts := 10, result := .error ⟨.transient, "down", none⟩ }
  chance _ := .two
  stopAt := some 120

theorem execute_course_tied : 0 < threeAttempts.maxAttempts ∧
    (∃ k, tiedPlan.Course threeAttempts k (tiedPlan.run threeAttempts).1
      (tiedPlan.run threeAttempts).2.log) ∧
    (tiedPlan.run threeAttempts).1 = .error .cancelled ∧
    (tiedPlan.run threeAttempts).2.log = [(0, .happened ()), (10, .paused 0),
      (10, .happened ()), (20, .paused 100)] :=
  ⟨by decide, execute_course tiedPlan threeAttempts (by decide), by decide +kernel,
    by decide +kernel⟩

end CallPlan

end Delivery
