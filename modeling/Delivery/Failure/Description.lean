import Delivery.Text.Record

/-!
# Describing a failure

A failure has a message for people, a diagnostic text that shows its structure, and the messages of
its causes, outermost first. The trace joins the last two.
-/

namespace Delivery

structure Description where
  message : String
  diagnostic : String
  causes : List String := []
  deriving DecidableEq, Repr, Inhabited

namespace Description

def ofMessages (message : String) (causes : List String) : Description :=
  ⟨message, Text.quoted message, causes⟩

def trace (d : Description) : String :=
  d.causes.foldl (fun text cause => text ++ "\ncaused by: " ++ cause) d.diagnostic

def asCauses (d : Description) : List String := d.message :: d.causes

end Description

class Describable (ε : Type) where
  describe : ε → Description

export Describable (describe)

end Delivery
