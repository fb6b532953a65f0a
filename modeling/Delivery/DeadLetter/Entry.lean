import Delivery.Message
import Delivery.Timestamp.Basic
import Delivery.Failure.Description
import Delivery.DeadLetter.EntryId
import Delivery.DeadLetter.Reason

/-!
# Dead letters

A dead letter keeps a message that could not be delivered, why, and whether it has been replayed.
Once stored it does not change, except that the replay flag and time are set together, once.
-/

namespace Delivery

structure FailureDetail where
  message : String
  trace : Option String := none
  deriving DecidableEq, Repr, Inhabited

def FailureDetail.capture {ε : Type} [Describable ε] (e : ε) : FailureDetail :=
  ⟨(describe e).message, some (describe e).trace⟩

/-- Named texts kept with a dead letter, each name once, in ascending order of the names. -/
abbrev Metadata := List (String × String)

namespace Metadata

def insert (m : Metadata) (name value : String) : Metadata :=
  match m with
  | [] => [(name, value)]
  | (n, v) :: rest =>
    if name = n then (name, value) :: rest
    else if name < n then (name, value) :: (n, v) :: rest
    else (n, v) :: insert rest name value

/-- Collects named texts; of two for one name the later counts. -/
def ofList (pairs : List (String × String)) : Metadata :=
  pairs.foldl (fun m p => insert m p.1 p.2) []

end Metadata

structure Entry where
  id : EntryId
  messageType : String
  payload : List UInt8
  reason : Reason
  failure : Option FailureDetail
  enqueuedAt : Timestamp
  attempts : Nat
  metadata : Metadata
  correlationId : Option String
  causationId : Option String
  sourceQueue : Option String
  replayed : Bool
  replayedAt : Option Timestamp
  deriving DecidableEq, Repr

namespace Entry

def ofMessage (id : EntryId) (m : Message) (reason : Reason) (failure : Option FailureDetail)
    (metadata : Metadata) (now : Timestamp) : Entry where
  id := id
  messageType := m.messageType
  payload := m.payload
  reason := reason
  failure := failure
  enqueuedAt := now
  attempts := m.attempts
  metadata := metadata
  correlationId := m.correlationId
  causationId := m.causationId
  sourceQueue := m.sourceQueue
  replayed := false
  replayedAt := none

def toMessage (e : Entry) : Message where
  messageType := e.messageType
  payload := e.payload
  correlationId := e.correlationId
  causationId := e.causationId
  sourceQueue := e.sourceQueue
  attempts := e.attempts

def errorMessage (e : Entry) : Option String := e.failure.map (·.message)

def markReplayed (e : Entry) (now : Timestamp) : Entry :=
  { e with replayed := true, replayedAt := some now }

@[simp] theorem toMessage_ofMessage (id : EntryId) (m : Message) (reason : Reason)
    (failure : Option FailureDetail) (metadata : Metadata) (now : Timestamp) :
    (ofMessage id m reason failure metadata now).toMessage = m := rfl

@[simp] theorem id_markReplayed (e : Entry) (now : Timestamp) :
    (e.markReplayed now).id = e.id := rfl

@[simp] theorem toMessage_markReplayed (e : Entry) (now : Timestamp) :
    (e.markReplayed now).toMessage = e.toMessage := rfl

end Entry

end Delivery
