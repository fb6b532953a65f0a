import Delivery.Breaker.Circuit

/-!
# Circuit breakers

A breaker is a named circuit with settings, a test that says which failures count, and listeners
that are told of every shift in the order in which they subscribed. Where circuit breaking is
switched off an always-closed breaker stands in: it lets every call pass, counts nothing and has no
listeners.
-/

namespace Delivery

structure StateChange where
  circuit : String
  shift : Shift
  deriving DecidableEq, Repr

structure Notice (listener : Type) where
  listener : listener
  change : StateChange
  deriving DecidableEq, Repr

structure CircuitBreaker (listener : Type) where
  name : String
  settings : BreakerSettings
  counts : Incident → Bool := fun _ => true
  circuit : Circuit := {}
  listeners : List (Nat × listener) := []
  nextSubscription : Nat := 1

inductive BreakerRequest where
  | observe
  | acquire
  | recordSuccess
  | recordFailure (incident : Option Incident)
  | reset
  deriving DecidableEq, Repr

inductive BreakerAnswer where
  | stats (s : CircuitStats)
  | admitted
  | refused (e : CircuitOpen)
  | noted
  deriving DecidableEq, Repr

/-- What a request leaves: an answer, the breaker afterwards and the notices on their way. -/
structure BreakerEffect (breaker listener : Type) where
  answer : BreakerAnswer
  breaker : breaker
  notices : List (Notice listener) := []

namespace CircuitBreaker

variable {listener : Type}

def create (name : String) (settings : BreakerSettings) (counts : Incident → Bool) :
    Except SettingsError (CircuitBreaker listener) := do
  settings.validate
  return { name, settings, counts }

def notices (b : CircuitBreaker listener) (shifts : List Shift) : List (Notice listener) :=
  shifts.flatMap fun s => b.listeners.map fun l => ⟨l.2, ⟨b.name, s⟩⟩

def settle {α : Type} (b : CircuitBreaker listener) (e : Circuit.Effect α)
    (answer : BreakerAnswer) : BreakerEffect (CircuitBreaker listener) listener where
  answer := answer
  breaker := { b with circuit := e.circuit }
  notices := b.notices e.shifts

def countsFailure (b : CircuitBreaker listener) (incident : Option Incident) : Bool :=
  (incident.map b.counts).getD true

/-- Serves a request at a time. A failure that does not count leaves everything as it is. -/
def serve (b : CircuitBreaker listener) (now : Instant) :
    BreakerRequest → BreakerEffect (CircuitBreaker listener) listener
  | .observe =>
    let e := b.circuit.observe b.settings.openDuration now
    b.settle e (.stats e.answer)
  | .acquire =>
    let e := b.circuit.acquire b.settings.openDuration now
    b.settle e (match e.answer with
      | .ok () => .admitted
      | .error retryAfter => .refused ⟨b.name, retryAfter⟩)
  | .recordSuccess => b.settle (b.circuit.recordSuccess b.settings now) .noted
  | .recordFailure incident =>
    if b.countsFailure incident then
      b.settle (b.circuit.recordFailure b.settings now incident) .noted
    else ⟨.noted, b, []⟩
  | .reset => b.settle (b.circuit.reset b.settings.openDuration now) .noted

/-! ### Listeners -/

def subscribe (b : CircuitBreaker listener) (l : listener) : Nat × CircuitBreaker listener :=
  (b.nextSubscription,
   { b with
     listeners := b.listeners ++ [(b.nextSubscription, l)]
     nextSubscription := b.nextSubscription + 1 })

def unsubscribe (b : CircuitBreaker listener) (id : Nat) : Bool × CircuitBreaker listener :=
  (b.listeners.any (·.1 == id), { b with listeners := b.listeners.filter (·.1 != id) })

def diagnostic (b : CircuitBreaker listener) : String :=
  Text.openRecord "CircuitBreaker"
    [("name", Text.quoted b.name), ("config", b.settings.diagnostic),
     ("data", b.circuit.diagnostic), ("listeners", toString b.listeners.length)]

end CircuitBreaker

inductive Breaker (listener : Type) where
  | circuit (b : CircuitBreaker listener)
  | alwaysClosed (name : String)

namespace Breaker

variable {listener : Type}

def shared : Breaker listener := .alwaysClosed "always-closed"

def name : Breaker listener → String
  | .circuit b => b.name
  | .alwaysClosed name => name

def serve (now : Instant) (request : BreakerRequest) :
    Breaker listener → BreakerEffect (Breaker listener) listener
  | .circuit b =>
    let e := b.serve now request
    ⟨e.answer, .circuit e.breaker, e.notices⟩
  | .alwaysClosed name =>
    ⟨match request with
      | .observe => .stats {}
      | .acquire => .admitted
      | _ => .noted,
     .alwaysClosed name, []⟩

/-- Adds a listener. An always-closed breaker gives every subscription the number nought. -/
def subscribe (l : listener) : Breaker listener → Nat × Breaker listener
  | .circuit b =>
    let (number, b) := b.subscribe l
    (number, .circuit b)
  | .alwaysClosed name => (0, .alwaysClosed name)

def unsubscribe (number : Nat) : Breaker listener → Bool × Breaker listener
  | .circuit b =>
    let (found, b) := b.unsubscribe number
    (found, .circuit b)
  | .alwaysClosed name => (false, .alwaysClosed name)

def diagnostic : Breaker listener → String
  | .circuit b => b.diagnostic
  | .alwaysClosed name => Text.record "AlwaysClosedBreaker" [("name", Text.quoted name)]

end Breaker

end Delivery
