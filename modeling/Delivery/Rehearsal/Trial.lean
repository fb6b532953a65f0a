import Delivery.Rehearsal.Calls
import Delivery.Rehearsal.Scenario

/-!
# Trials of retry policies

A trial makes one call under a policy, perhaps through a breaker, on a timeline of its own. The
attempts go as they are scripted, and all further ones like the last.
-/

namespace Delivery.Rehearsal

inductive TrialPolicy where
  | once
  | chosen (s : RetrySettings)
  | retrying (s : RetrySettings)
  | custom (maxAttempts : Nat) (backoff : Except BackoffError Backoff)
      (retriable nonRetriable : List Kind)

structure NamedPolicy where
  policy : RetryPolicy
  diagnostic : String

namespace TrialPolicy

def named (p : Retrying) : NamedPolicy := ⟨.retrying p, p.diagnostic⟩

/-- Builds the policy. A backoff that cannot be built fails first. -/
def build : TrialPolicy → Except SettingsError NamedPolicy
  | once => return ⟨.once, "NoRetryPolicy"⟩
  | chosen s => do
    let p ← RetryPolicy.ofSettings s
    return ⟨p, p.diagnostic⟩
  | retrying s => named <$> Retrying.ofSettings s
  | custom maxAttempts backoff retriable nonRetriable => do
    let p ← Retrying.create maxAttempts (← backoff.mapError .backoff)
    return named { p with retriable, nonRetriable }

end TrialPolicy

structure Trial (ν : Type) where
  policy : TrialPolicy
  script : List (CallOutcome ν) := []
  last : CallOutcome ν
  cancelled : Bool := false
  cancelAt : Option Instant := none
  probes : List ScriptedFailure := []
  breaker : Option BreakerSpec := none

structure TrialState (ν : Type) where
  script : List (CallOutcome ν)
  breaker : Option (Breaker Empty)
  calls : List Instant := []
  pauses : Nat := 0

inductive TrialJob where
  | attempts
  | cancel (token : Nat) (deadline : Instant)

structure TrialReport (ν : Type) where
  maxAttempts : Nat
  retriable : List Bool
  calls : List Instant
  elapsed : Instant
  breaker : Option CircuitStats
  result : Option (Except (CallError ScriptedFailure) ν)
  diagnostic : String
  delays : List (Nat × Option Duration)

abbrev TrialResult (ν : Type) := Except (CallError ScriptedFailure) ν

abbrev TrialAct (ν : Type) := Play (TrialState ν) TrialJob (Option (TrialResult ν))

namespace Trial

variable {ν : Type}

def change {α : Type} (f : TrialState ν → α × TrialState ν) : TrialAct ν α := do
  let (a, s) := f (← request .look)
  request (.put s)
  return a

def call (t : Trial ν) (token : Nat) : TrialAct ν (Except ScriptedFailure ν) := do
  let now ← request .now
  let o ← change fun s =>
    (s.script.headD t.last, { s with script := s.script.drop 1, calls := now :: s.calls })
  o.finish (some token)

def counting (token : Nat) : Caller (TrialAct ν) :=
  { callerOf token with
    pause := fun d => do
      change fun s => ((), { s with pauses := s.pauses + 1 })
      pause d (some token) }

def serve (r : BreakerRequest) : TrialAct ν BreakerAnswer := do
  let now ← request .now
  change fun s => match s.breaker with
    | some b =>
      let e := b.serve now r
      (e.answer, { s with breaker := some e.breaker })
    | none => (.noted, s)

def attempts (t : Trial ν) (policy : RetryPolicy) : TrialAct ν (TrialResult ν) := do
  let token ← makeToken t.cancelled
  if let some deadline := t.cancelAt then discard (request (.spawn (.cancel token deadline)))
  if t.breaker.isSome then
    let guarded := (Gate.ofServe serve).guard (counting token) (t.call token)
    return (← policy.execute (counting token) guarded).mapError CallError.flatten
  else
    policy.execute (counting token) (t.call token)

def tasks (t : Trial ν) (policy : RetryPolicy) :
    Script (TrialState ν) TrialJob (Option (TrialResult ν))
  | .attempts => do return .value (some (← t.attempts policy))
  | .cancel token deadline => do
    Rehearsal.cancelAt token deadline
    return .value none

def statsAt (now : Instant) (b : Breaker Empty) : Option CircuitStats :=
  match (b.serve now .observe).answer with
  | .stats s => some s
  | _ => none

def delaysOf (policy : RetryPolicy) (count : Nat) : List (Nat × Option Duration) :=
  match policy with
  | .once => []
  | .retrying p => (List.range count).map fun i =>
    (i + 1, (p.backoff.delay (i + 1) .half).toOption)

def run (t : Trial ν) : Except SettingsError (TrialReport ν) := do
  let named ← t.policy.build
  let breaker ← t.breaker.mapM BreakerSpec.build
  let tasks := t.tasks named.policy
  let (w, result) := tasks.run Scenario.limit Scenario.limit
    { state := ⟨t.script, breaker, [], 0⟩ } (tasks.thread .attempts)
  return {
    maxAttempts := named.policy.maxAttempts
    retriable := t.probes.map named.policy.isRetriable
    calls := w.state.calls.reverse
    elapsed := w.clock
    breaker := w.state.breaker.bind (statsAt w.clock)
    result := result.bind id
    diagnostic := named.diagnostic
    delays := delaysOf named.policy w.state.pauses }

end Trial

end Delivery.Rehearsal
