import Delivery.Message
import Delivery.Failure.CallError
import Delivery.Settings.Breaker

/-!
# Circuits

A circuit is closed, open or half-open. Failures in a row open it; while it is open every call is
refused; once the open period is over it is half-open and lets calls through as probes, which close
it again or open it anew.

There is no timer. Every operation first looks at the clock and turns an open circuit whose period
is over into a half-open one; only then does it do its own work. An operation reports the shifts
from state to state that it made, in order.
-/

namespace Delivery

inductive CircuitState where
  | closed
  | opened
  | halfOpen
  deriving DecidableEq, Repr, Inhabited

namespace CircuitState

def text : CircuitState → String
  | closed => "closed"
  | opened => "open"
  | halfOpen => "half-open"

def name : CircuitState → String
  | closed => "Closed"
  | opened => "Open"
  | halfOpen => "HalfOpen"

def all : List CircuitState := [closed, opened, halfOpen]

end CircuitState

structure Incident where
  kind : Kind
  message : String
  cancellation : Bool := false
  deriving DecidableEq, Repr, Inhabited

def Incident.ofFailure {ε : Type} [Classified ε] [Describable ε] (e : ε) : Incident :=
  ⟨Classified.kind e, (describe e).message, isCancellation e⟩

structure Shift where
  previous : CircuitState
  current : CircuitState
  cause : Option Incident
  deriving DecidableEq, Repr

structure CircuitStats where
  state : CircuitState := .closed
  consecutiveFailures : Nat := 0
  consecutiveSuccesses : Nat := 0
  timesOpened : Nat := 0
  rejected : Nat := 0
  deriving DecidableEq, Repr, Inhabited

structure Circuit where
  state : CircuitState := .closed
  consecutiveFailures : Nat := 0
  consecutiveSuccesses : Nat := 0
  openedAt : Option Instant := none
  timesOpened : Nat := 0
  rejected : Nat := 0
  deriving DecidableEq, Repr, Inhabited

/-- What an operation leaves: an answer, the circuit afterwards and the shifts on the way. -/
structure Circuit.Effect (α : Type) where
  answer : α
  circuit : Circuit
  shifts : List Shift := []

namespace Circuit

/-- Moves to a state. Opening starts a new period and counts it; closing forgets all failures. -/
def shift (c : Circuit) (next : CircuitState) (now : Instant) (cause : Option Incident) :
    Effect Unit where
  answer := ()
  circuit := match next with
    | .opened =>
      { c with
        state := .opened, openedAt := some now, consecutiveSuccesses := 0
        timesOpened := c.timesOpened + 1 }
    | .halfOpen => { c with state := .halfOpen, consecutiveSuccesses := 0 }
    | .closed =>
      { c with
        state := .closed, consecutiveFailures := 0, consecutiveSuccesses := 0, openedAt := none }
  shifts := [⟨c.state, next, cause⟩]

def isDue (c : Circuit) (period : Duration) (now : Instant) : Bool :=
  c.state = .opened && (c.openedAt.map fun start => decide (period ≤ now - start)).getD false

def refresh (c : Circuit) (period : Duration) (now : Instant) : Effect Unit :=
  if c.isDue period now then c.shift .halfOpen now none else ⟨(), c, []⟩

def openRemaining (c : Circuit) (period : Duration) (now : Instant) : Duration :=
  (c.openedAt.map fun start => period.remaining start now).getD 0

def refreshed {α : Type} (c : Circuit) (period : Duration) (now : Instant)
    (next : Circuit → Effect α) : Effect α :=
  let first := c.refresh period now
  let second := next first.circuit
  { second with shifts := first.shifts ++ second.shifts }

def stats (c : Circuit) : CircuitStats :=
  ⟨c.state, c.consecutiveFailures, c.consecutiveSuccesses, c.timesOpened, c.rejected⟩

/-! ### Operations -/

def observe (c : Circuit) (period : Duration) (now : Instant) : Effect CircuitStats :=
  c.refreshed period now fun c => ⟨c.stats, c, []⟩

/-- Asks for admission: an open circuit refuses, with what is left of its period. -/
def acquire (c : Circuit) (period : Duration) (now : Instant) : Effect (Except Duration Unit) :=
  c.refreshed period now fun c =>
    if c.state = .opened then
      ⟨.error (c.openRemaining period now), { c with rejected := c.rejected + 1 }, []⟩
    else ⟨.ok (), c, []⟩

/-- Notes a success. It ends a row of failures, and enough of them close a half-open circuit. -/
def recordSuccess (c : Circuit) (s : BreakerSettings) (now : Instant) : Effect Unit :=
  c.refreshed s.openDuration now fun c =>
    match c.state with
    | .closed | .opened => ⟨(), { c with consecutiveFailures := 0 }, []⟩
    | .halfOpen =>
      let noted := { c with
        consecutiveFailures := 0, consecutiveSuccesses := c.consecutiveSuccesses + 1 }
      if s.successThreshold ≤ noted.consecutiveSuccesses then noted.shift .closed now none
      else ⟨(), noted, []⟩

/-- Notes a failure. Enough of them open a closed circuit, and one opens a half-open one. -/
def recordFailure (c : Circuit) (s : BreakerSettings) (now : Instant) (cause : Option Incident) :
    Effect Unit :=
  c.refreshed s.openDuration now fun c =>
    let noted := { c with consecutiveFailures := addCounts c.consecutiveFailures 1 }
    match c.state with
    | .closed =>
      if s.failureThreshold ≤ noted.consecutiveFailures then noted.shift .opened now cause
      else ⟨(), noted, []⟩
    | .halfOpen => noted.shift .opened now cause
    | .opened => ⟨(), c, []⟩

def reset (c : Circuit) (period : Duration) (now : Instant) : Effect Unit :=
  c.refreshed period now fun c =>
    if c.state = .closed then
      ⟨(), { c with consecutiveFailures := 0, consecutiveSuccesses := 0, openedAt := none }, []⟩
    else c.shift .closed now none

/-- The diagnostic text of what is stored; a clock reading is not shown. -/
def diagnostic (c : Circuit) : String :=
  Text.record "BreakerData"
    [("state", c.state.name), ("consecutive_failures", toString c.consecutiveFailures),
     ("consecutive_successes", toString c.consecutiveSuccesses),
     ("opened_at", Text.optional (c.openedAt.map fun _ => "Instant")),
     ("times_opened", toString c.timesOpened), ("rejected", toString c.rejected)]

end Circuit

end Delivery
