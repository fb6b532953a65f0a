import Delivery.Breaker.Basic

/-!
# Runs of a breaker

A run is a list of requests, each with the clock reading at which it is made. A breaker answers them
one after the other, each in the state that the ones before it have left.
-/

namespace Delivery

abbrev TimedRequest := Instant × BreakerRequest

/-- The clock does not go back in a run. -/
def InOrder (run : List TimedRequest) : Prop := run.Pairwise fun a b => a.1 ≤ b.1

namespace CircuitBreaker

variable {listener : Type}

def answers (b : CircuitBreaker listener) : List TimedRequest → List BreakerAnswer
  | [] => []
  | q :: rest => (b.serve q.1 q.2).answer :: answers (b.serve q.1 q.2).breaker rest

theorem create_eq {name : String} {s : BreakerSettings} {counts : Incident → Bool}
    {b : CircuitBreaker listener} (h : create name s counts = .ok b) :
    s.validate = .ok () ∧ b = { name, settings := s, counts } := by
  simp only [create] at h
  cases hv : s.validate with
  | error e => rw [hv] at h; cases h
  | ok u =>
    rw [hv] at h
    exact ⟨rfl, (Except.ok.inj h).symm⟩

end CircuitBreaker

end Delivery
