/-!
# Kinds of failure

Every decision about a failure looks at its kind, a tag compared letter by letter. Twelve kinds are
known by name; a settings file or a transport may use others.
-/

namespace Delivery

structure Kind where
  tag : String
  deriving DecidableEq, Repr, Inhabited

namespace Kind

def transient : Kind := ⟨"transient"⟩
def timeout : Kind := ⟨"timeout"⟩
def connection : Kind := ⟨"connection"⟩
def validation : Kind := ⟨"validation"⟩
def deserialization : Kind := ⟨"deserialization"⟩
def authorization : Kind := ⟨"authorization"⟩
def handlerNotFound : Kind := ⟨"handler_not_found"⟩
def expired : Kind := ⟨"expired"⟩
def poison : Kind := ⟨"poison"⟩
def circuitOpen : Kind := ⟨"circuit_open"⟩
def cancelled : Kind := ⟨"cancelled"⟩
def unknown : Kind := ⟨"unknown"⟩

def wellKnown : List Kind :=
  [transient, timeout, connection, validation, deserialization, authorization, handlerNotFound,
   expired, poison, circuitOpen, cancelled, unknown]

end Kind

/-- A failure whose kind is known. A cancellation is never retried and never held against a
circuit. -/
class Classified (ε : Type) where
  kind : ε → Kind
  isCancellation : ε → Bool := fun e => kind e == Kind.cancelled

export Classified (kind isCancellation)

end Delivery
