import Delivery.Proofs.Replay.Course
import Delivery.Proofs.Replay.System

/-!
# Calls over a store that may fail

Any number of calls to queues over one store are under way, and anything can happen next: time
passes, a call begins, or one call goes one question further. A request to the store may be
answered, or it is reported as failed. One that was not answered is stray from then on: it may
still be carried out, once and at any later time. A call may be dropped while it waits for the
store or for its handler, and the release of a claim it leaves behind may fail as well. No claim
has to be young.

A turn of events has a deed when a call does something that others may care about: it wins or
releases a claim, begins or ends a handler, marks a dead letter or fails to, or is dropped.
-/

namespace Delivery

inductive Deed where
  | won (id : EntryId)
  | began (id : EntryId)
  | ended (id : EntryId) (well : Bool)
  | marked (id : EntryId)
  -- The store reported that it failed to mark the dead letter.
  | unmarked (id : EntryId)
  | released (id : EntryId)
  | dropped
  deriving DecidableEq, Repr

/-- What is done by a request that was carried out. -/
def StoreRequest.deed : (r : StoreRequest) → r.Reply → Option Deed
  | .tryClaim id, won => if won then some (.won id) else none
  | .markReplayed id _, marked => if marked then some (.marked id) else none
  | .release id, _ => some (.released id)
  | _, _ => none

def StoreRequest.failure : StoreRequest → Option Deed
  | .markReplayed id _ => some (.unmarked id)
  | _ => none

inductive Act where
  -- The store answers the request of the call, or reports that it failed.
  | answer
  | fail (e : DeadLetterError)
  -- The handler begins, or ends, well or not.
  | begin
  | finish (well : Bool)
  -- The call goes on by itself, with this time and id should it need them.
  | goOn (time : Timestamp) (id : EntryId)
  | drop
  -- The claim that the call has left behind is released, or that fails.
  | release
  | failRelease

structure Outcome where
  store : MemoryStore
  call : QueueCall
  stray : List StoreRequest := []
  deed : Option Deed := none

namespace QueueCall

def answer (now : Instant) (store : MemoryStore) (c : QueueCall) : Option Outcome :=
  match c.dropped, c.program with
  | false, .ask (.store r) next =>
    if isNewFor store r then
      let e := MemoryStore.serve now r store
      some { store := e.2, call := c.replied now (next (.ok e.1)) r e.1, deed := r.deed e.1 }
    else none
  | _, _ => none

def fail (store : MemoryStore) (c : QueueCall) (e : DeadLetterError) : Option Outcome :=
  match c.dropped, c.program with
  | false, .ask (.store r) next =>
    some { store, call := { c with program := next (.error e) }, stray := [r], deed := r.failure }
  | _, _ => none

def begin (store : MemoryStore) (c : QueueCall) : Option Outcome :=
  match c.dropped, c.running, c.program with
  | false, false, .ask (.handle _) _ =>
    some { store, call := { c with running := true }, deed := c.held.map .began }
  | _, _, _ => none

def finish (store : MemoryStore) (c : QueueCall) (well : Bool) : Option Outcome :=
  match c.dropped, c.running, c.program with
  | false, true, .ask (.handle _) next =>
    some { store, call := { c with program := next well, running := false }
           deed := c.held.map (.ended · well) }
  | _, _, _ => none

def goOn (store : MemoryStore) (c : QueueCall) (time : Timestamp) (id : EntryId) :
    Option Outcome :=
  match c.dropped, c.program with
  | false, .ask (.hold held) next =>
    some { store, call := { c with program := next (), held := some held } }
  | false, .ask (.settle _) next =>
    some { store, call := { c with program := next (), held := none } }
  | false, .ask (.abandon left) next =>
    some { store, call := { c with program := next (), held := none, releasing := some left } }
  | false, .ask .wallClock next => some { store, call := { c with program := next time } }
  | false, .ask .newId next => some { store, call := { c with program := next id } }
  | _, _ => none

/-- The call after it is dropped. The claim that it holds is left to be released. -/
def leave (c : QueueCall) : QueueCall :=
  { c with running := false, dropped := true, releasing := c.held }

def drop (store : MemoryStore) (c : QueueCall) : Option Outcome :=
  match c.dropped, c.program with
  | false, .ask (.store r) _ => some { store, call := c.leave, stray := [r], deed := some .dropped }
  | false, .ask (.handle _) _ => some { store, call := c.leave, deed := some .dropped }
  | _, _ => none

def act (now : Instant) (store : MemoryStore) (c : QueueCall) : Act → Option Outcome
  | .answer => c.answer now store
  | .fail e => c.fail store e
  | .begin => c.begin store
  | .finish well => c.finish store well
  | .goOn time id => c.goOn store time id
  | .drop => c.drop store
  | .release => c.releasing.map fun id =>
    { store := (MemoryStore.serve now (.release id) store).2
      call := { c with releasing := none, claim := c.endClaim id }, deed := some (.released id) }
  | .failRelease => c.releasing.map fun id =>
    { store, call := { c with releasing := none }, stray := [.release id] }

inductive Acts (now : Instant) (store : MemoryStore) (c : QueueCall) : Outcome → Prop where
  | answered {r : StoreRequest}
      {next : Except DeadLetterError r.Reply → ReplayProgram (Except DeadLetterError Nat)}
      (hd : c.dropped = false) (hp : c.program = .ask (.store r) next)
      (hnew : isNewFor store r = true) :
      Acts now store c ⟨(MemoryStore.serve now r store).2,
        c.replied now (next (.ok (MemoryStore.serve now r store).1)) r
          (MemoryStore.serve now r store).1, [], r.deed (MemoryStore.serve now r store).1⟩
  | failed {r : StoreRequest}
      {next : Except DeadLetterError r.Reply → ReplayProgram (Except DeadLetterError Nat)}
      (e : DeadLetterError) (hd : c.dropped = false) (hp : c.program = .ask (.store r) next) :
      Acts now store c ⟨store, { c with program := next (.error e) }, [r], r.failure⟩
  | began {message : Message} {next : Bool → ReplayProgram (Except DeadLetterError Nat)}
      (hd : c.dropped = false) (hp : c.program = .ask (.handle message) next) :
      Acts now store c ⟨store, { c with running := true }, [], c.held.map .began⟩
  | ended {message : Message} {next : Bool → ReplayProgram (Except DeadLetterError Nat)}
      (well : Bool) (hd : c.dropped = false) (hr : c.running = true)
      (hp : c.program = .ask (.handle message) next) :
      Acts now store c ⟨store, { c with program := next well, running := false }, [],
        c.held.map (.ended · well)⟩
  | hold {id : EntryId} {next : Unit → ReplayProgram (Except DeadLetterError Nat)}
      (hd : c.dropped = false) (hp : c.program = .ask (.hold id) next) :
      Acts now store c ⟨store, { c with program := next (), held := some id }, [], none⟩
  | settle {id : EntryId} {next : Unit → ReplayProgram (Except DeadLetterError Nat)}
      (hd : c.dropped = false) (hp : c.program = .ask (.settle id) next) :
      Acts now store c ⟨store, { c with program := next (), held := none }, [], none⟩
  | abandon {id : EntryId} {next : Unit → ReplayProgram (Except DeadLetterError Nat)}
      (hd : c.dropped = false) (hp : c.program = .ask (.abandon id) next) :
      Acts now store c
        ⟨store, { c with program := next (), held := none, releasing := some id }, [], none⟩
  | wallClock {next : Timestamp → ReplayProgram (Except DeadLetterError Nat)} (time : Timestamp)
      (hd : c.dropped = false) (hp : c.program = .ask .wallClock next) :
      Acts now store c ⟨store, { c with program := next time }, [], none⟩
  | newId {next : EntryId → ReplayProgram (Except DeadLetterError Nat)} (id : EntryId)
      (hd : c.dropped = false) (hp : c.program = .ask .newId next) :
      Acts now store c ⟨store, { c with program := next id }, [], none⟩
  | droppedAsking {r : StoreRequest}
      {next : Except DeadLetterError r.Reply → ReplayProgram (Except DeadLetterError Nat)}
      (hd : c.dropped = false) (hp : c.program = .ask (.store r) next) :
      Acts now store c ⟨store, c.leave, [r], some .dropped⟩
  | droppedHandling {message : Message}
      {next : Bool → ReplayProgram (Except DeadLetterError Nat)}
      (hd : c.dropped = false) (hp : c.program = .ask (.handle message) next) :
      Acts now store c ⟨store, c.leave, [], some .dropped⟩
  | released {id : EntryId} (h : c.releasing = some id) :
      Acts now store c ⟨(MemoryStore.serve now (.release id) store).2,
        { c with releasing := none, claim := c.endClaim id }, [], some (.released id)⟩
  | releaseFailed {id : EntryId} (h : c.releasing = some id) :
      Acts now store c ⟨store, { c with releasing := none }, [.release id], none⟩

theorem acts_of_act {now : Instant} {store : MemoryStore} {c : QueueCall} {a : Act} {o : Outcome}
    (h : c.act now store a = some o) : Acts now store c o := by
  cases a with
  | answer =>
    replace h : c.answer now store = some o := h
    unfold answer at h
    split at h
    · split at h
      · cases h
        exact .answered ‹_› ‹_› ‹_›
      · cases h
    · cases h
  | fail e =>
    replace h : c.fail store e = some o := h
    unfold fail at h
    split at h
    · cases h
      exact .failed e ‹_› ‹_›
    · cases h
  | begin =>
    replace h : c.begin store = some o := h
    unfold QueueCall.begin at h
    split at h
    · cases h
      exact .began ‹_› ‹_›
    · cases h
  | finish well =>
    replace h : c.finish store well = some o := h
    unfold finish at h
    split at h
    · cases h
      exact .ended well ‹_› ‹_› ‹_›
    · cases h
  | goOn time id =>
    replace h : c.goOn store time id = some o := h
    unfold goOn at h
    split at h
    · cases h
      exact .hold ‹_› ‹_›
    · cases h
      exact .settle ‹_› ‹_›
    · cases h
      exact .abandon ‹_› ‹_›
    · cases h
      exact .wallClock time ‹_› ‹_›
    · cases h
      exact .newId id ‹_› ‹_›
    · cases h
  | drop =>
    replace h : c.drop store = some o := h
    unfold drop at h
    split at h
    · cases h
      exact .droppedAsking ‹_› ‹_›
    · cases h
      exact .droppedHandling ‹_› ‹_›
    · cases h
  | release =>
    obtain ⟨id, hid, rfl⟩ := Option.map_eq_some_iff.mp h
    exact .released hid
  | failRelease =>
    obtain ⟨id, hid, rfl⟩ := Option.map_eq_some_iff.mp h
    exact .releaseFailed hid

end QueueCall

/-! ### Systems -/

structure ReplaySystem where
  now : Instant := 0
  store : MemoryStore
  calls : List QueueCall := []
  -- Requests that were not answered and have not been carried out, each with its call.
  stray : List (Nat × StoreRequest) := []

inductive Turn where
  | tick (d : Duration)
  | call (request : QueueRequest) (handled : Bool)
  -- A call is meant by its number.
  | act (number : Nat) (a : Act)
  -- A stray request is carried out.
  | arrive (index : Nat)

namespace ReplaySystem

/-- What is done by a stray request. Nobody is told that it has won a claim. -/
def strayDeed : StoreRequest → Option Deed
  | .release id => some (.released id)
  | _ => none

/-- The system after a turn, and what was done in it by which call, if the turn is possible. -/
def turn? (s : ReplaySystem) : Turn → Option (ReplaySystem × Option (Nat × Deed))
  | .tick d => some ({ s with now := s.now + d }, none)
  | .call request handled =>
    some ({ s with calls := s.calls ++ [{ program := request.program handled }] }, none)
  | .act number a => do
    let c ← s.calls[number]?
    let o ← c.act s.now s.store a
    return ({ s with
      store := o.store, calls := s.calls.set number o.call
      stray := s.stray ++ o.stray.map (number, ·) }, o.deed.map (number, ·))
  | .arrive index => do
    let (number, r) ← s.stray[index]?
    if QueueCall.isNewFor s.store r then
      return ({ s with
        store := (MemoryStore.serve s.now r s.store).2, stray := s.stray.eraseIdx index },
        (strayDeed r).map (number, ·))
    else none

/-- The system after a turn. One that is not possible changes nothing. -/
def turn (s : ReplaySystem) (t : Turn) : ReplaySystem := ((s.turn? t).map (·.1)).getD s

def deed (s : ReplaySystem) (t : Turn) : Option (Nat × Deed) := (s.turn? t).bind (·.2)

def after (s : ReplaySystem) (ts : List Turn) : ReplaySystem := ts.foldl turn s

def log (s : ReplaySystem) : List Turn → List (Nat × Deed)
  | [] => []
  | t :: rest => (s.deed t).toList ++ (s.turn t).log rest

/-- The call has won a claim on the dead letter and was not told since that it has ended. -/
def claims (s : ReplaySystem) (number : Nat) (id : EntryId) : Bool :=
  (s.calls[number]?).any (·.claims id)

end ReplaySystem

end Delivery
