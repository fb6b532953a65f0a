import Delivery.DeadLetter.Store

/-!
# The dead-letter queue

Messages that could not be delivered are enqueued in a store, and handed out again by a replay. A
replay claims a dead letter before it hands it out, and afterwards either marks it or gives the
claim back; so of several replays at a time only one hands it out while the lease lasts. A batch is
not one step: what was replayed before a failure of the store stays replayed.

Between claiming and marking, a replay holds the claim: should the replay be broken off there, its
surroundings release the claim for it.
-/

namespace Delivery

structure ClaimKeeper (m : Type → Type) where
  hold : EntryId → m Unit
  settle : EntryId → m Unit
  abandon : EntryId → m Unit

structure RetentionPlan where
  retention : Duration
  interval : Duration
  deriving DecidableEq, Repr

structure DeadLetterQueue (m : Type → Type) where
  store : Store m
  -- Delivers a message again and says whether it went well; without it nothing is replayed.
  handler : Option (Message → m Bool)
  plan : Option RetentionPlan
  newId : m EntryId
  wallClock : m Timestamp
  claims : ClaimKeeper m

namespace DeadLetterQueue

variable {m : Type → Type} [Monad m]

/-- Stores a message with the reason and the failure, and returns the id of the dead letter. -/
def enqueue (q : DeadLetterQueue m) (message : Message) (reason : Reason)
    (failure : Option FailureDetail) (metadata : Metadata) : ExceptT DeadLetterError m EntryId := do
  let id ← q.newId
  let entry := Entry.ofMessage id message reason failure metadata (← q.wallClock)
  q.store.ask (.insert entry)
  return id

def countByReason (q : DeadLetterQueue m) : ExceptT DeadLetterError m (List (Reason × Nat)) :=
  Reason.all.mapM fun r => do return (r, ← q.store.ask (.count { reason := some r }))

/-! ### Replay -/

def getHandler (q : DeadLetterQueue m) : ExceptT DeadLetterError m (Message → m Bool) :=
  match q.handler with
  | some handler => return handler
  | none => throw .noReplayHandler

/-- Marks a dead letter that was delivered again. When the store fails the claim is given up. -/
def mark (q : DeadLetterQueue m) (id : EntryId) : ExceptT DeadLetterError m Bool := do
  let time ← q.wallClock
  match ← ExceptT.lift (q.store.serve (.markReplayed id time)) with
  | .ok marked =>
    q.claims.settle id
    return marked
  | .error e =>
    q.claims.abandon id
    throw e

/-- Claims a dead letter, hands it out, and marks it or gives the claim back. Says whether this
replay marked it. -/
def replayEntry (q : DeadLetterQueue m) (handler : Message → m Bool) (e : Entry) :
    ExceptT DeadLetterError m Bool := do
  if ← q.store.ask (.tryClaim e.id) then
    q.claims.hold e.id
    if ← handler e.toMessage then
      q.mark e.id
    else
      q.claims.settle e.id
      q.store.ask (.release e.id)
      return false
  else
    return false

/-- Replays one dead letter. One that is not there or already replayed is left alone. -/
def replay (q : DeadLetterQueue m) (id : EntryId) : ExceptT DeadLetterError m Bool := do
  let handler ← q.getHandler
  match ← q.store.ask (.get id) with
  | some e => if e.replayed then return false else q.replayEntry handler e
  | none => return false

def replayAll (q : DeadLetterQueue m) (handler : Message → m Bool) :
    List Entry → ExceptT DeadLetterError m Nat
  | [] => return 0
  | e :: rest => do
    let marked ← q.replayEntry handler e
    let later ← q.replayAll handler rest
    return (if marked then later + 1 else later)

def replayBatch (q : DeadLetterQueue m) (f : Filter) : ExceptT DeadLetterError m Nat := do
  let handler ← q.getHandler
  if f.replayed = some true then return 0
  q.replayAll handler (← q.store.ask (.query { f with replayed := some false }))

/-! ### Purge -/

def purge (q : DeadLetterQueue m) (cutoff : Timestamp) (replayedOnly : Bool) :
    ExceptT DeadLetterError m Nat :=
  q.store.ask (.purge cutoff replayedOnly)

def purgeExpired (q : DeadLetterQueue m) : ExceptT DeadLetterError m Nat := do
  match q.plan with
  | some plan => q.purge ((← q.wallClock).backFrom plan.retention) false
  | none => return 0

end DeadLetterQueue

end Delivery
