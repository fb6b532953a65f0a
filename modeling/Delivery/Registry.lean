import Delivery.Breaker.Basic
import Delivery.Settings.Registry

/-!
# The breaker registry

Every transport has a breaker of its own, found by its name. The first call for a name creates its
breaker; a breaker that is taken out of the registry goes on working for those who hold it, and the
next call for its name creates a new one. A listener of the registry hears the shifts of every
breaker that the registry has created or will create.

A breaker is held by its number in the order of creation. The names are kept in ascending order.
-/

namespace Delivery

/-- Who listens to a breaker of a registry: all listeners of the registry, or a single one. -/
inductive Audience (listener : Type) where
  | registry
  | only (l : listener)
  deriving DecidableEq, Repr

structure Registry (listener : Type) where
  settings : RegistrySettings := {}
  breakers : List (Breaker (Audience listener)) := []
  registered : List (String × Nat) := []
  listeners : List (Nat × listener) := []
  nextSubscription : Nat := 1

structure RegistryEffect (listener : Type) where
  answer : BreakerAnswer
  registry : Registry listener
  notices : List (Notice listener) := []

namespace Registry

variable {listener : Type}

def create (settings : RegistrySettings) : Except RegistryError (Registry listener) := do
  return { settings := ← settings.normalise }

def expand (r : Registry listener) (n : Notice (Audience listener)) : List (Notice listener) :=
  match n.listener with
  | .registry => r.listeners.map fun l => ⟨l.2, n.change⟩
  | .only l => [⟨l, n.change⟩]

/-- A new breaker. One whose settings switch circuit breaking off is always closed, and its other
settings are not looked at. The registry is the first subscriber of every other one. -/
def build (name : String) (s : BreakerSettings) :
    Except SettingsError (Breaker (Audience listener)) := do
  if !s.enabled then return .alwaysClosed name
  let b ← CircuitBreaker.create name s fun _ => true
  return .circuit (b.subscribe .registry).2

/-- Registers a breaker under a name that is not taken, keeping the names ascending. -/
def insertKey (key : String) (number : Nat) : List (String × Nat) → List (String × Nat)
  | [] => [(key, number)]
  | (k, n) :: rest =>
    if key < k then (key, number) :: (k, n) :: rest else (k, n) :: insertKey key number rest

/-- The number of the breaker of a name: the registered one, or a new one made from the given
settings or else from those of the registry. -/
def getOrCreate (r : Registry listener) (name : String) (explicit : Option BreakerSettings) :
    Except RegistryError (Nat × Registry listener) := do
  let key ← normaliseName name
  match r.registered.lookup key with
  | some number => return (number, r)
  | none =>
    let b ← (build (trimName name) (explicit.getD (r.settings.resolve key))).mapError .settings
    let number := r.breakers.length
    return (number,
      { r with
        breakers := r.breakers ++ [b]
        registered := insertKey key number r.registered })

def get? (r : Registry listener) (name : String) : Option Nat :=
  match normaliseName name with
  | .ok key => r.registered.lookup key
  | .error _ => none

/-- Takes the breaker of a name out of the registry, and says whether there was one. -/
def remove (r : Registry listener) (name : String) : Bool × Registry listener :=
  match normaliseName name with
  | .ok key =>
    (r.registered.any (·.1 == key),
     { r with registered := r.registered.filter (·.1 != key) })
  | .error _ => (false, r)

def names (r : Registry listener) : List String := r.registered.map (·.1)

def size (r : Registry listener) : Nat := r.registered.length

/-! ### Single breakers -/

def setBreaker (r : Registry listener) (number : Nat) (b : Breaker (Audience listener)) :
    Registry listener :=
  { r with breakers := r.breakers.set number b }

def serve (r : Registry listener) (number : Nat) (now : Instant) (request : BreakerRequest) :
    RegistryEffect listener :=
  match r.breakers[number]? with
  | some b =>
    let e := b.serve now request
    ⟨e.answer, r.setBreaker number e.breaker, e.notices.flatMap r.expand⟩
  | none => ⟨.noted, r, []⟩

def subscribe (r : Registry listener) (number : Nat) (l : listener) : Nat × Registry listener :=
  match r.breakers[number]? with
  | some b =>
    let (id, b) := b.subscribe (.only l)
    (id, r.setBreaker number b)
  | none => (0, r)

def unsubscribe (r : Registry listener) (number id : Nat) : Bool × Registry listener :=
  match r.breakers[number]? with
  | some b =>
    let (found, b) := b.unsubscribe id
    (found, r.setBreaker number b)
  | none => (false, r)

/-! ### All breakers -/

def serveAll (now : Instant) (request : BreakerRequest) :
    List (String × Nat) → Registry listener →
      List (String × BreakerAnswer) × Registry listener × List (Notice listener)
  | [], r => ([], r, [])
  | (key, number) :: rest, r =>
    let e := r.serve number now request
    let (answers, last, notices) := serveAll now request rest e.registry
    ((key, e.answer) :: answers, last, e.notices ++ notices)

def resetAll (r : Registry listener) (now : Instant) :
    Registry listener × List (Notice listener) :=
  (serveAll now .reset r.registered r).2

def states (r : Registry listener) (now : Instant) :
    List (String × CircuitState) × Registry listener × List (Notice listener) :=
  let (answers, last, notices) := serveAll now .observe r.registered r
  (answers.map fun a => (a.1, match a.2 with
    | .stats s => s.state
    | _ => .closed), last, notices)

def subscribeAll (r : Registry listener) (l : listener) : Nat × Registry listener :=
  (r.nextSubscription,
   { r with
     listeners := r.listeners ++ [(r.nextSubscription, l)]
     nextSubscription := r.nextSubscription + 1 })

def unsubscribeAll (r : Registry listener) (id : Nat) : Bool × Registry listener :=
  (r.listeners.any (·.1 == id), { r with listeners := r.listeners.filter (·.1 != id) })

def diagnostic (r : Registry listener) : String :=
  Text.openRecord "TransportCircuitBreakerRegistry"
    [("config", r.settings.diagnostic), ("breakers", toString r.size),
     ("listeners", toString r.listeners.length)]

end Registry

/-- Where breakers come from: a registry, or nowhere, so that every breaker is always closed. -/
inductive BreakerSource (listener : Type) where
  | registry (r : Registry listener)
  | alwaysClosed

def alwaysClosedBreaker {listener : Type} (name : String) :
    Except RegistryError (Breaker listener) := do
  discard (normaliseName name)
  return .alwaysClosed (trimName name)

end Delivery
