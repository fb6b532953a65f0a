import Delivery.Proofs.Calls.Runner

/-!
# Scenes

A scene is where a call is made: a clock, the reading from which on the caller asks to stop, and a
record of what has happened. It has a state of its own besides. A wait ends when its time is over or
when the caller asks to stop, and a stop at the very end of the wait still cuts it.
-/

namespace Delivery

def earlierStop : Option Instant → Option Instant → Option Instant
  | some a, some b => some (min a b)
  | some a, none => some a
  | none, b => b

/-- Whether a stop has come by a clock reading. -/
def hasCome (stop : Option Instant) (now : Instant) : Bool :=
  (stop.map fun t => decide (t ≤ now)).getD false

instance decidableEqExcept {ε α : Type} [DecidableEq ε] [DecidableEq α] :
    DecidableEq (Except ε α)
  | .ok a, .ok b => decidable_of_iff (a = b) ⟨congrArg _, fun h => by cases h; rfl⟩
  | .error a, .error b => decidable_of_iff (a = b) ⟨congrArg _, fun h => by cases h; rfl⟩
  | .ok _, .error _ => isFalse fun h => by cases h
  | .error _, .ok _ => isFalse fun h => by cases h

/-- What is recorded of a call: its waits, and what else happens in it. -/
inductive CallEvent (τ : Type) where
  | paused (delay : Duration)
  | happened (x : τ)
  deriving DecidableEq

structure Scene (τ σ : Type) where
  clock : Instant := 0
  -- From this reading on the caller asks to stop.
  stopAt : Option Instant := none
  -- How many numbers have been left to chance.
  draws : Nat := 0
  -- What has happened, oldest first, with the reading at which it began.
  log : List (Instant × CallEvent τ) := []
  rest : σ

namespace Scene

variable {τ σ : Type}

def isStopped (s : Scene τ σ) : Bool := hasCome s.stopAt s.clock

/-- Goes on for some time, in which the caller may be made to ask to stop. -/
def pass (s : Scene τ σ) (d : Duration) (stop : Option Duration) : Scene τ σ :=
  { s with clock := s.clock + d, stopAt := earlierStop s.stopAt (stop.map (s.clock + ·)) }

def record (s : Scene τ σ) (e : CallEvent τ) : Scene τ σ :=
  { s with log := s.log ++ [(s.clock, e)] }

def waitEnd (s : Scene τ σ) (d : Duration) : Instant :=
  match s.stopAt with
  | some t => if t ≤ s.clock + d then max s.clock t else s.clock + d
  | none => s.clock + d

/-- A caller in a scene, who has numbers ready for what is left to chance. -/
def caller (chance : Nat → Double) : Caller (StateM (Scene τ σ)) where
  cancelled s := (s.isStopped, s)
  pause d s := (hasCome s.stopAt (s.clock + d), { s.record (.paused d) with clock := s.waitEnd d })
  sample s := (chance (s.draws + 1), { s with draws := s.draws + 1 })

theorem waitEnd_of_not_hasCome {s : Scene τ σ} {d : Duration}
    (h : hasCome s.stopAt (s.clock + d) = false) : s.waitEnd d = s.clock + d := by
  unfold waitEnd
  cases hs : s.stopAt with
  | none => rfl
  | some t =>
    simp only [hs, hasCome, Option.map_some, Option.getD_some, decide_eq_false_iff_not] at h
    exact if_neg h

end Scene

end Delivery
