import Delivery.Failure.SystemError

/-!
# Failures of a transport

What a transport reports when it could not publish: a kind, a message, and perhaps the failure that
led to it.
-/

namespace Delivery

structure TransportError where
  kind : Kind
  message : String
  source : Option Description := none
  deriving DecidableEq, Repr, Inhabited

namespace TransportError

def ofSystem (e : SystemError) : TransportError :=
  ⟨Classified.kind e, e.message, some (describe e)⟩

def cancelled : TransportError := ⟨.cancelled, "Publish cancelled", none⟩

instance : Classified TransportError where
  kind e := e.kind

instance : Describable TransportError where
  describe e :=
    { message := e.message
      diagnostic := Text.record "TransportError"
        [("kind", Text.variant "ErrorKind" (Text.quoted e.kind.tag)),
         ("message", Text.quoted e.message),
         ("source", Text.optional (e.source.map (·.diagnostic)))]
      causes := (e.source.map Description.asCauses).getD [] }

end TransportError

end Delivery
