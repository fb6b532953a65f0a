import Delivery.DeadLetter.Store

/-!
# Dead letters in memory

Dead letters are kept in no particular order, each id once, with the time at which the claim was
taken. A query puts what it selects in the order of the ids, so no answer depends on the order in
which dead letters are kept. Every request is answered at once and none fails.
-/

namespace Delivery

structure Slot where
  entry : Entry
  claimedAt : Option Instant := none
  deriving DecidableEq, Repr

namespace Slot

def isClaimed (s : Slot) (lease : Duration) (now : Instant) : Bool :=
  (s.claimedAt.map fun start => decide (now - start < lease)).getD false

def isFree (s : Slot) (lease : Duration) (now : Instant) : Bool :=
  !s.entry.replayed && !s.isClaimed lease now

def isDue (s : Slot) (cutoff : Timestamp) (replayedOnly : Bool) : Bool :=
  s.entry.enqueuedAt < cutoff && (s.entry.replayed || !replayedOnly)

def markReplayed (s : Slot) (time : Timestamp) : Slot where
  entry := if s.entry.replayed then s.entry else s.entry.markReplayed time

end Slot

structure MemoryStore where
  slots : List Slot := []
  lease : Duration := StoreRequest.defaultLease
  deriving DecidableEq, Repr

namespace MemoryStore

/-- Puts a dead letter in the place of the one with the same id, or else behind all others. -/
def insertSlot (new : Slot) : List Slot → List Slot
  | [] => [new]
  | s :: rest =>
    if s.entry.id = new.entry.id then new :: rest else s :: insertSlot new rest

def find? (s : MemoryStore) (id : EntryId) : Option Slot :=
  s.slots.find? (·.entry.id == id)

def update (s : MemoryStore) (id : EntryId) (change : Slot → Slot) : MemoryStore :=
  { s with slots := s.slots.map fun slot => if slot.entry.id = id then change slot else slot }

def selected (s : MemoryStore) (f : Filter) : List Entry :=
  (s.slots.map (·.entry)).filter f.accepts

def inOrder (entries : List Entry) : List Entry :=
  entries.mergeSort fun a b => decide (a.id.value ≤ b.id.value)

def serve (now : Instant) : (request : StoreRequest) → MemoryStore → request.Reply × MemoryStore
  | .insert e, s => ((), { s with slots := insertSlot ⟨e, none⟩ s.slots })
  | .get id, s => ((s.find? id).map (·.entry), s)
  | .query f, s => (f.window (inOrder (s.selected f)), s)
  | .count f, s => ((s.selected f).length, s)
  | .tryClaim id, s =>
    if ((s.find? id).map (·.isFree s.lease now)).getD false then
      (true, s.update id fun slot => { slot with claimedAt := some now })
    else (false, s)
  | .markReplayed id time, s =>
    (((s.find? id).map (!·.entry.replayed)).getD false, s.update id (·.markReplayed time))
  | .release id, s => ((), s.update id fun slot => { slot with claimedAt := none })
  | .purge cutoff replayedOnly, s =>
    ((s.slots.filter (·.isDue cutoff replayedOnly)).length,
     { s with slots := s.slots.filter (!·.isDue cutoff replayedOnly) })

def size (s : MemoryStore) : Nat := s.slots.length

end MemoryStore

end Delivery
