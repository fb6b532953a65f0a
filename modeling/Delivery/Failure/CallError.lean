import Delivery.Duration
import Delivery.Failure.Kind
import Delivery.Failure.Description

/-!
# How a guarded call fails

A call made through a breaker or a retry policy ends in one of three ways when it does not succeed:
it was cancelled, an open circuit refused it, or the operation itself failed.
-/

namespace Delivery

structure CircuitOpen where
  circuit : String
  retryAfter : Duration
  deriving DecidableEq, Repr, Inhabited

instance : Classified CircuitOpen where
  kind _ := .circuitOpen
  isCancellation _ := false

instance : Describable CircuitOpen where
  describe e :=
    { message := "Circuit '" ++ e.circuit ++ "' is open, retry after " ++ e.retryAfter.text
      diagnostic := Text.record "CircuitOpenError"
        [("circuit", Text.quoted e.circuit), ("retry_after", e.retryAfter.text)] }

inductive CallError (ε : Type) where
  | cancelled
  | circuitOpen (refusal : CircuitOpen)
  | operation (failure : ε)
  deriving DecidableEq, Repr, Inhabited

namespace CallError

variable {ε : Type}

def operation? : CallError ε → Option ε
  | .operation e => some e
  | _ => none

def flatten : CallError (CallError ε) → CallError ε
  | .cancelled => .cancelled
  | .circuitOpen e => .circuitOpen e
  | .operation e => e

instance [Classified ε] : Classified (CallError ε) where
  kind
    | .cancelled => .cancelled
    | .circuitOpen e => Classified.kind e
    | .operation e => Classified.kind e
  isCancellation
    | .cancelled => true
    | .circuitOpen e => Classified.isCancellation e
    | .operation e => Classified.isCancellation e

instance [Describable ε] : Describable (CallError ε) where
  describe
    | .cancelled => { message := "Operation cancelled", diagnostic := "Cancelled" }
    | .circuitOpen e =>
      let d := describe e
      { d with diagnostic := Text.variant "CircuitOpen" d.diagnostic }
    | .operation e =>
      let d := describe e
      { d with diagnostic := Text.variant "Operation" d.diagnostic }

@[simp] theorem flatten_operation (e : CallError ε) : flatten (.operation e) = e := rfl

end CallError

end Delivery
