import Delivery.Program
import Delivery.Duration

/-!
# Timelines

A rehearsal runs a main task and background tasks on a clock of its own. Tasks are programs that ask
for the common state, for time to pass, and for one another. One task runs at a time, until it
waits.

Timers have a grain of one millisecond: each has a tick, and it is over once the ticks up to that
one have been processed. Ticks are processed when no task can run; when then still none can run, the
clock goes forward by whole milliseconds to the earliest tick.
-/

namespace Delivery.Rehearsal

/-- What a task can ask for. A job is the description of a further task. -/
inductive Ask (σ job : Type) where
  | look
  | put (s : σ)
  | now
  | turnClock (d : Duration)
  -- A new token, by its number; it is not cancelled.
  | newToken
  | cancel (token : Nat)
  | isCancelled (token : Nat)
  -- Waits until a clock reading, or until a token is cancelled; says whether the token was.
  | rest (deadline : Instant) (token : Option Nat)
  | giveWay
  | together (jobs : List job)
  | within (deadline : Instant) (j : job)
  | spawn (j : job)
  | entrust (j : job)
  | relieve
  | attempt (j : job)
  | isFinished (task : Nat)
  | join (task : Nat)

abbrev Reply {σ job : Type} (value : Type) : Ask σ job → Type
  | .look => σ
  | .put _ | .turnClock _ | .cancel _ | .giveWay | .entrust _ | .relieve => Unit
  | .now => Instant
  | .newToken | .spawn _ => Nat
  | .isCancelled _ | .rest _ _ | .isFinished _ => Bool
  | .together _ => List value
  | .within _ _ | .attempt _ => Option value
  | .join _ => value

/-- How a task ends: with a value, or by going on as another job. -/
inductive Ending (job value : Type) where
  | value (v : value)
  | next (j : job)

abbrev Play (σ job value : Type) := Program (Ask σ job) (Reply value)

def request {σ job value : Type} (q : Ask σ job) : Play σ job value (Reply value q) :=
  Program.perform q

inductive Thread (σ job value : Type) where
  | ready (p : Play σ job value (Ending job value)) (entrusted : List job)
  | resting (tick : Nat) (token : Option Nat)
      (next : Bool → Play σ job value (Ending job value)) (entrusted : List job)
  | givingWay (next : Play σ job value (Ending job value)) (entrusted : List job)
  | joining (task : Nat) (next : value → Play σ job value (Ending job value))
      (entrusted : List job)
  | gathering (children : List (Thread σ job value))
      (next : List value → Play σ job value (Ending job value)) (entrusted : List job)
  | timed (tick : Nat) (child : Thread σ job value)
      (next : Option value → Play σ job value (Ending job value)) (entrusted : List job)
  | ended (v : value)

structure Timeline (σ job value : Type) where
  state : σ
  clock : Instant := 0
  processed : Nat := 0
  tokens : List Bool := []
  tasks : List (Thread σ job value) := []

def tickOf (deadline : Instant) : Nat :=
  (deadline + Duration.millisecond - 1) / Duration.millisecond

namespace Thread

variable {σ job value : Type}

def value? : Thread σ job value → Option value
  | ended v => some v
  | _ => none

mutual

def bequests : Thread σ job value → List job
  | ready _ jobs | resting _ _ _ jobs | givingWay _ jobs | joining _ _ jobs => jobs
  | gathering children _ jobs => allBequests children ++ jobs
  | timed _ child _ jobs => bequests child ++ jobs
  | ended _ => []

def allBequests : List (Thread σ job value) → List job
  | [] => []
  | t :: rest => bequests t ++ allBequests rest

end

mutual

def ticks : Thread σ job value → List Nat
  | resting tick _ _ _ => [tick]
  | gathering children _ _ => allTicks children
  | timed tick child _ _ => tick :: ticks child
  | _ => []

def allTicks : List (Thread σ job value) → List Nat
  | [] => []
  | t :: rest => ticks t ++ allTicks rest

end

end Thread

namespace Timeline

variable {σ job value : Type}

def isCancelled (w : Timeline σ job value) (token : Nat) : Bool := w.tokens.getD token false

def spawn (w : Timeline σ job value) (t : Thread σ job value) : Timeline σ job value :=
  { w with tasks := w.tasks ++ [t] }

def valueOf? (w : Timeline σ job value) (task : Nat) : Option value :=
  (w.tasks[task]?).bind Thread.value?

mutual

def canRun (w : Timeline σ job value) (processed : Nat) : Thread σ job value → Bool
  | .ready _ _ | .givingWay _ _ => true
  | .resting tick token _ _ =>
    tick ≤ processed || (token.map w.isCancelled).getD false
  | .joining task _ _ => (w.valueOf? task).isSome
  | .gathering children _ _ => anyCanRun w processed children
  | .timed tick child _ _ => tick ≤ processed || canRun w processed child
  | .ended _ => false

def anyCanRun (w : Timeline σ job value) (processed : Nat) :
    List (Thread σ job value) → Bool
  | [] => false
  | t :: rest => canRun w processed t || anyCanRun w processed rest

end

end Timeline

end Delivery.Rehearsal
