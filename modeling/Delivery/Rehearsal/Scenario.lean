import Delivery.Opening
import Delivery.Rehearsal.Performance

/-!
# Scenarios

A scenario names the components of a rehearsal and its steps. The components are built in a fixed
order, and the first that cannot be built ends the rehearsal before its first step.
-/

namespace Delivery.Rehearsal

inductive BreakerSpec where
  -- A circuit breaker; where kinds are listed, those do not count, or only those count.
  | circuit (name : String) (settings : BreakerSettings) (ignored counted : Option (List Kind))
  | alwaysClosed (name : Option String)
  deriving DecidableEq, Repr

namespace BreakerSpec

def counts (ignored counted : Option (List Kind)) (i : Incident) : Bool :=
  match ignored, counted with
  | some kinds, _ => !kinds.contains i.kind
  | none, some kinds => kinds.contains i.kind
  | none, none => true

def build {listener : Type} : BreakerSpec → Except SettingsError (Breaker listener)
  | circuit name settings ignored counted => do
    return .circuit (← CircuitBreaker.create name settings (counts ignored counted))
  | alwaysClosed (some name) => return .alwaysClosed name
  | alwaysClosed none => return .shared

end BreakerSpec

inductive RegistrySpec where
  | settings (s : RegistrySettings)
  -- None: every breaker is always closed.
  | alwaysClosed
  deriving DecidableEq, Repr

structure Scenario (ν : Type) where
  registry : RegistrySpec := .settings {}
  breakers : List BreakerSpec := []
  lease : Duration := StoreRequest.defaultLease
  faults : List Fault := []
  handler : Option (List (CallOutcome ν)) := none
  plan : Option RetentionPlan := none
  retry : Option RetrySettings := none
  settings : Option CourierSettings := none
  steps : List (Step ν) := []

inductive BuildError where
  | registry (e : RegistryError)
  | settings (e : SettingsError)
  | delivery (e : DeliveryError)
  deriving DecidableEq, Repr

/-- What is seen of a step: its result, unless it never ends, and what happened, in order. -/
structure StepReport (ν : Type) where
  result : Option (Result ν)
  events : List (Event ν)

namespace Scenario

variable {ν : Type}

def limit : Nat := 10000000

def buildSource (c : Scenario ν) : Except BuildError (BreakerSource String) :=
  match c.registry with
  | .settings s => do return .registry (← (Registry.create s).mapError .registry)
  | .alwaysClosed => return .alwaysClosed

def withSettings (stage : Stage ν) (s : CourierSettings) : Except BuildError (Stage ν) := do
  let memory := DeadLetterQueue.inMemory Stage.wallBase
  let parts ← ((s.openParts .closed memory).run {}).1.mapError .delivery
  return { stage with
    retry := parts.retry, source := .registry parts.breakers, plan := parts.deadLetters.plan
    handler := none, faults := [], store := {} }

def build (c : Scenario ν) : Except BuildError (Stage ν) := do
  let source ← c.buildSource
  let alone ← c.breakers.mapM fun b => b.build.mapError .settings
  let stage : Stage ν :=
    { alone, source, handles := (List.range alone.length).map .alone
      store := { lease := c.lease }, faults := c.faults, handler := c.handler, plan := c.plan }
  match c.settings with
  | some s => withSettings stage s
  | none =>
    let retry ← (RetryPolicy.ofSettings (c.retry.getD {})).mapError .settings
    return { stage with retry }

def runSteps (w : Timeline (Stage ν) (Job ν) (Result ν)) :
    List (Step ν) → List (StepReport ν) × Stage ν
  | [] => ([], w.state)
  | s :: rest =>
    let (w, result) := script.run limit limit w (script.thread (.step s))
    let report := ⟨result, w.state.events.reverse⟩
    let (reports, stage) := runSteps { w with state := { w.state with events := [] } } rest
    (report :: reports, stage)

def run (c : Scenario ν) : Except BuildError (List (StepReport ν) × Stage ν) := do
  return runSteps { state := ← c.build } c.steps

end Scenario

end Delivery.Rehearsal
