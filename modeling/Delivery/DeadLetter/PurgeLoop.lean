import Delivery.DeadLetter.Queue

/-!
# The scheduled purge

A queue with a retention plan is purged at regular ticks, the first one interval after the start,
until somebody ends the loop. A purge that fails changes nothing about the later ones. A queue
without a plan is never purged: its loop only waits for the end.
-/

namespace Delivery

structure PurgeTimer (m : Type → Type) where
  -- Waits until a clock reading, or for ever, or until the loop is ended; says whether it was.
  wait : Option Instant → m Bool

inductive PurgeRound where
  | next (round : Nat)
  | ended
  deriving DecidableEq, Repr

namespace DeadLetterQueue

variable {m : Type → Type} [Monad m]

def purgeTick (plan : RetentionPlan) (start : Instant) (round : Nat) : Instant :=
  start + round * plan.interval

/-- Whether the loop can run: its ticks must be apart. -/
def canPurge (q : DeadLetterQueue m) : Bool :=
  (q.plan.map fun plan => decide (0 < plan.interval)).getD true

/-- One round of the loop: waits for its tick and purges, unless the loop is ended before. -/
def purgeRound (q : DeadLetterQueue m) (timer : PurgeTimer m) (start : Instant) (round : Nat) :
    m PurgeRound := do
  if ← timer.wait (q.plan.map fun plan => purgeTick plan start round) then return .ended
  match ← q.purgeExpired.run with
  | .ok _ | .error _ => return .next (round + 1)

end DeadLetterQueue

end Delivery
