import Delivery.DeadLetter.Error
import Delivery.DeadLetter.Filter

/-!
# Stores of dead letters

A store answers eight requests. Replay is arranged through claims: whoever wins `tryClaim` on a dead
letter may hand it out, and then marks it as replayed or releases it. A claim that is older than the
lease counts as given up.
-/

namespace Delivery

inductive StoreRequest where
  | insert (entry : Entry)
  | get (id : EntryId)
  -- The dead letters that a filter selects, in the order of their ids, cut to its window.
  | query (filter : Filter)
  | count (filter : Filter)
  | tryClaim (id : EntryId)
  | markReplayed (id : EntryId) (time : Timestamp)
  | release (id : EntryId)
  | purge (cutoff : Timestamp) (replayedOnly : Bool)
  deriving DecidableEq, Repr

namespace StoreRequest

abbrev Reply : StoreRequest → Type
  | insert _ => Unit
  | get _ => Option Entry
  | query _ => List Entry
  | count _ => Nat
  | tryClaim _ => Bool
  | markReplayed _ _ => Bool
  | release _ => Unit
  | purge _ _ => Nat

def name : StoreRequest → String
  | insert _ => "insert"
  | get _ => "get"
  | query _ => "query"
  | count _ => "count"
  | tryClaim _ => "try_claim"
  | markReplayed _ _ => "mark_replayed"
  | release _ => "release_claim"
  | purge _ _ => "purge"

def defaultLease : Duration := Duration.ofMinutes 5

end StoreRequest

structure Store (m : Type → Type) where
  serve : (request : StoreRequest) → m (Except DeadLetterError request.Reply)

namespace Store

variable {m : Type → Type}

def ask (s : Store m) (request : StoreRequest) : ExceptT DeadLetterError m request.Reply :=
  s.serve request

end Store

end Delivery
