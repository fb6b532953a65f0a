import Delivery.Caller
import Delivery.Rehearsal.Schedule
import Delivery.Rehearsal.Step

/-!
# Calls on a timeline

How a scripted call spends its time, and what a call on a timeline may ask of its caller. Jitter
falls in the middle of its window.
-/

namespace Delivery.Rehearsal

variable {σ job value : Type}

/-- Waits for some time, or until a token is cancelled; says whether it was. -/
def pause (d : Duration) (token : Option Nat) : Play σ job value Bool := do
  let start ← request .now
  request (.rest (start + d) token)

def callerOf (token : Nat) : Caller (Play σ job value) where
  cancelled := request (.isCancelled token)
  pause d := pause d (some token)
  sample := return .half

def cancelToken (token : Nat) : Play σ job value Unit := request (.cancel token)

def makeToken (cancelled : Bool) : Play σ job value Nat := do
  let token ← request .newToken
  if cancelled then cancelToken token
  return token

/-- Spends the time of a call and ends it. A call that observes its token stops with a cancellation
once the token is cancelled. -/
def Outcome.finish {step ν : Type} (o : Outcome step ν) (token : Option Nat) :
    Play σ job value (Except ScriptedFailure ν) := do
  let cut ← match o.sleep with
    | some d => pause d (if o.observe then token else none)
    | none => pure false
  if cut then return .error { error := .cancelled }
  if o.cancel then
    if let some t := token then cancelToken t
  return o.result

def cancelAt (token : Nat) (deadline : Instant) : Play σ job value Unit := do
  discard (request (.rest deadline none))
  cancelToken token

end Delivery.Rehearsal
