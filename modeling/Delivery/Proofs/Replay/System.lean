import Delivery.DeadLetter.Memory
import Delivery.Proofs.Replay.Session

/-!
# Calls that share a store

Any number of calls to queues over one store in memory are under way. At each step time passes, a
call begins, or one call goes one question further: the store answers it, its handler begins or
ends, it is dropped while its handler runs, or the claim it left behind is released.

Beside what is stored, every call keeps an account of its dealings with the store: what it has read,
the claim it has taken and not given back, the dead letters it has marked, and those that its
handler received.
-/

namespace Delivery

/-- A call to a queue under way, dropped or ended. -/
structure QueueCall where
  program : ReplayProgram (Except DeadLetterError Nat)
  -- Whether its handler is running.
  running : Bool := false
  dropped : Bool := false
  -- The claim that is to be released when the call is dropped.
  held : Option EntryId := none
  -- The claim that is being released in the background.
  releasing : Option EntryId := none
  -- The claim it has taken and neither marked nor released since, and when it was taken.
  claim : Option (EntryId × Instant) := none
  -- The dead letters it has read, as they were then.
  read : List Entry := []
  marked : List EntryId := []
  -- The dead letters that were handed out to its handler and went well.
  delivered : List EntryId := []

namespace QueueCall

/-- The account of a claim that ends, if it is for this dead letter. -/
def endClaim (c : QueueCall) (id : EntryId) : Option (EntryId × Instant) :=
  c.claim.filter fun p => p.1 ≠ id

def replied (c : QueueCall) (now : Instant) (program : ReplayProgram (Except DeadLetterError Nat)) :
    (r : StoreRequest) → r.Reply → QueueCall
  | .get _, found => { c with program, read := c.read ++ found.toList }
  | .query _, found => { c with program, read := c.read ++ found }
  | .tryClaim id, won => { c with program, claim := if won then some (id, now) else c.claim }
  | .markReplayed id _, won =>
    { c with
      program, claim := c.endClaim id, marked := if won then c.marked ++ [id] else c.marked }
  | .release id, _ => { c with program, claim := c.endClaim id }
  | _, _ => { c with program }

inductive Step (now : Instant) : MemoryStore → QueueCall → MemoryStore → QueueCall → Prop where
  -- The store answers. Ids that are made for new dead letters are not in use.
  | asked {store : MemoryStore} {c : QueueCall} {r : StoreRequest}
      {next : Except DeadLetterError r.Reply → ReplayProgram (Except DeadLetterError Nat)}
      (hp : c.program = .ask (.store r) next) (hd : c.dropped = false)
      (hfresh : ∀ e, r = .insert e → store.find? e.id = none) :
      Step now store c (MemoryStore.serve now r store).2
        (c.replied now (next (.ok (MemoryStore.serve now r store).1)) r
          (MemoryStore.serve now r store).1)
  | began {store : MemoryStore} {c : QueueCall} {message : Message}
      {next : Bool → ReplayProgram (Except DeadLetterError Nat)}
      (hp : c.program = .ask (.handle message) next) (hd : c.dropped = false)
      (hr : c.running = false) : Step now store c store { c with running := true }
  | ended {store : MemoryStore} {c : QueueCall} {message : Message}
      {next : Bool → ReplayProgram (Except DeadLetterError Nat)} (well : Bool)
      (hp : c.program = .ask (.handle message) next) (hr : c.running = true) :
      Step now store c store { c with
        program := next well
        running := false
        delivered := c.delivered ++ if well then (c.claim.map (·.1)).toList else [] }
  | droppedOut {store : MemoryStore} {c : QueueCall} (hr : c.running = true) :
      Step now store c store { c with running := false, dropped := true, releasing := c.held }
  | released {store : MemoryStore} {c : QueueCall} {id : EntryId} (h : c.releasing = some id) :
      Step now store c (MemoryStore.serve now (.release id) store).2
        { c with releasing := none, claim := c.endClaim id }
  | hold {store : MemoryStore} {c : QueueCall} {id : EntryId}
      {next : Unit → ReplayProgram (Except DeadLetterError Nat)}
      (hp : c.program = .ask (.hold id) next) (hd : c.dropped = false) :
      Step now store c store { c with program := next (), held := some id }
  | settle {store : MemoryStore} {c : QueueCall} {id : EntryId}
      {next : Unit → ReplayProgram (Except DeadLetterError Nat)}
      (hp : c.program = .ask (.settle id) next) (hd : c.dropped = false) :
      Step now store c store { c with program := next (), held := none }
  | abandon {store : MemoryStore} {c : QueueCall} {id : EntryId}
      {next : Unit → ReplayProgram (Except DeadLetterError Nat)}
      (hp : c.program = .ask (.abandon id) next) (hd : c.dropped = false) :
      Step now store c store { c with program := next (), held := none, releasing := some id }
  | wallClock {store : MemoryStore} {c : QueueCall}
      {next : Timestamp → ReplayProgram (Except DeadLetterError Nat)} (time : Timestamp)
      (hp : c.program = .ask .wallClock next) (hd : c.dropped = false) :
      Step now store c store { c with program := next time }
  | newId {store : MemoryStore} {c : QueueCall}
      {next : EntryId → ReplayProgram (Except DeadLetterError Nat)} (id : EntryId)
      (hp : c.program = .ask .newId next) (hd : c.dropped = false) :
      Step now store c store { c with program := next id }

def isNewFor (store : MemoryStore) : StoreRequest → Bool
  | .insert e => (store.find? e.id).isNone
  | _ => true

/-- The next step of a call that was not dropped, if there is one. A handler begins with one step
and ends with the next one, well or not. -/
def advance (now : Instant) (store : MemoryStore) (c : QueueCall) (well : Bool) :
    Option (MemoryStore × QueueCall) :=
  if c.dropped then none
  else match c.program with
    | .done _ => none
    | .ask (.store r) next =>
      let e := MemoryStore.serve now r store
      if isNewFor store r then some (e.2, c.replied now (next (.ok e.1)) r e.1) else none
    | .ask (.handle _) next =>
      if c.running then
        some (store, { c with
          program := next well
          running := false
          delivered := c.delivered ++ if well then (c.claim.map (·.1)).toList else [] })
      else some (store, { c with running := true })
    | .ask (.hold id) next => some (store, { c with program := next (), held := some id })
    | .ask (.settle _) next => some (store, { c with program := next (), held := none })
    | .ask (.abandon id) next =>
      some (store, { c with program := next (), held := none, releasing := some id })
    | .ask .wallClock next => some (store, { c with program := next { nanos := 0 } })
    | .ask .newId next => some (store, { c with program := next ⟨store.slots.length⟩ })

theorem step_of_advance {now : Instant} {store store' : MemoryStore} {c c' : QueueCall}
    {well : Bool} (h : c.advance now store well = some (store', c')) :
    Step now store c store' c' := by
  unfold advance at h
  split at h
  · cases h
  · rename_i hd
    have hd : c.dropped = false := by simpa using hd
    split at h
    · cases h
    · rename_i r next hp
      split at h
      · rename_i hnew
        cases h
        refine .asked hp hd ?_
        rintro e rfl
        simpa [isNewFor] using hnew
      · cases h
    · rename_i m next hp
      split at h
      · rename_i hr
        cases h
        exact .ended well hp hr
      · rename_i hr
        cases h
        exact .began hp hd (by simpa using hr)
    · rename_i hp
      cases h
      exact .hold hp hd
    · rename_i hp
      cases h
      exact .settle hp hd
    · rename_i hp
      cases h
      exact .abandon hp hd
    · rename_i hp
      cases h
      exact .wallClock _ hp hd
    · rename_i hp
      cases h
      exact .newId _ hp hd

def claims (c : QueueCall) (id : EntryId) : Bool := c.claim.any fun p => p.1 = id

def runs (c : QueueCall) (id : EntryId) : Bool := c.running && c.claims id

def result? (c : QueueCall) : Option (Except DeadLetterError Nat) :=
  match c.program with
  | .done r => some r
  | .ask .. => none

end QueueCall

structure QueueSystem where
  now : Instant := 0
  store : MemoryStore
  calls : List QueueCall := []

namespace QueueSystem

inductive Step : QueueSystem → QueueSystem → Prop where
  | tick (s : QueueSystem) (d : Duration) : Step s { s with now := s.now + d }
  | call (s : QueueSystem) (request : QueueRequest) (handled : Bool) :
      Step s { s with calls := s.calls ++ [{ program := request.program handled }] }
  | goOn {now : Instant} {store store' : MemoryStore} {c c' : QueueCall}
      (before after : List QueueCall) (h : QueueCall.Step now store c store' c') :
      Step ⟨now, store, before ++ c :: after⟩ ⟨now, store', before ++ c' :: after⟩

/-- Every claim that was taken and neither marked nor released since is younger than the lease. -/
def Timely (s : QueueSystem) : Prop :=
  ∀ c ∈ s.calls, ∀ id t, c.claim = some (id, t) → s.now - t < s.store.lease

/-- The states that calls come to from new dead letters, as long as no claim outlives the lease. -/
inductive Reachable : QueueSystem → Prop where
  | start {now : Instant} {store : MemoryStore}
      (h : ∀ slot ∈ store.slots, slot.entry.replayed = false ∧ slot.claimedAt = none) :
      Reachable { now, store }
  | step {s s' : QueueSystem} (hr : Reachable s) (ht : s.Timely) (hs : Step s s') : Reachable s'

/-! ### Carrying a schedule out -/

/-- What a schedule can have happen. A call is meant by its number. -/
inductive Move where
  | tick (d : Duration)
  | call (request : QueueRequest)
  | goOn (number : Nat) (well : Bool)
  | drop (number : Nat)
  | release (number : Nat)

def setCall (s : QueueSystem) (number : Nat) (store : MemoryStore) (c : QueueCall) : QueueSystem :=
  { s with store, calls := s.calls.set number c }

def move (s : QueueSystem) : Move → Option QueueSystem
  | .tick d => some { s with now := s.now + d }
  | .call request => some { s with calls := s.calls ++ [{ program := request.program true }] }
  | .goOn number well => do
    let c ← s.calls[number]?
    let (store, c') ← c.advance s.now s.store well
    return s.setCall number store c'
  | .drop number => do
    let c ← s.calls[number]?
    if c.running then
      some (s.setCall number s.store { c with
        running := false, dropped := true, releasing := c.held })
    else none
  | .release number => do
    let c ← s.calls[number]?
    let id ← c.releasing
    return s.setCall number (MemoryStore.serve s.now (.release id) s.store).2
      { c with releasing := none, claim := c.endClaim id }

def isTimely (s : QueueSystem) : Bool :=
  s.calls.all fun c => c.claim.all fun p => decide (s.now - p.2 < s.store.lease)

def carryOut : List Move → QueueSystem → Option QueueSystem
  | [], s => some s
  | m :: rest, s => if s.isTimely then (s.move m).bind (carryOut rest) else none

variable {s s' : QueueSystem}

theorem step_setCall {number : Nat} {c c' : QueueCall} {store : MemoryStore}
    (hc : s.calls[number]? = some c) (h : QueueCall.Step s.now s.store c store c') :
    Step s (s.setCall number store c') := by
  obtain ⟨hlt, hget⟩ := List.getElem?_eq_some_iff.mp hc
  have hold : s.calls = s.calls.take number ++ c :: s.calls.drop (number + 1) := by
    rw [← hget, ← List.drop_eq_getElem_cons hlt, List.take_append_drop]
  have hnew : s.calls.set number c' = s.calls.take number ++ c' :: s.calls.drop (number + 1) := by
    rw [List.set_eq_take_append_cons_drop, if_pos hlt]
  have hstep := Step.goOn (s.calls.take number) (s.calls.drop (number + 1)) h
  rw [← hold, ← hnew] at hstep
  exact hstep

theorem step_of_move {m : Move} (h : s.move m = some s') : Step s s' := by
  cases m with
  | tick d =>
    cases h
    exact .tick s d
  | call request =>
    cases h
    exact .call s request true
  | goOn number well =>
    simp only [move, Option.bind_eq_bind, Option.bind_eq_some_iff] at h
    obtain ⟨c, hc, ⟨store, c'⟩, hadv, h⟩ := h
    cases h
    exact step_setCall hc (QueueCall.step_of_advance hadv)
  | drop number =>
    simp only [move, Option.bind_eq_bind, Option.bind_eq_some_iff] at h
    obtain ⟨c, hc, h⟩ := h
    split at h
    · rename_i hr
      cases h
      exact step_setCall hc (.droppedOut hr)
    · cases h
  | release number =>
    simp only [move, Option.bind_eq_bind, Option.bind_eq_some_iff] at h
    obtain ⟨c, hc, id, hid, h⟩ := h
    cases h
    exact step_setCall hc (.released hid)

theorem timely_of_isTimely (h : s.isTimely = true) : s.Timely := by
  intro c hc id t ht
  have := List.all_eq_true.mp h c hc
  rw [ht] at this
  simpa using this

theorem Reachable.carryOut {moves : List Move} (h : Reachable s)
    (hc : carryOut moves s = some s') : Reachable s' := by
  -- on the schedule; every move is a step
  induction moves generalizing s with
  | nil =>
    cases hc
    exact h
  | cons m rest ih =>
    rw [QueueSystem.carryOut] at hc
    split at hc
    · rename_i ht
      obtain ⟨s₁, hm, hc⟩ := Option.bind_eq_some_iff.mp hc
      exact ih (h.step (timely_of_isTimely ht) (step_of_move hm)) hc
    · cases hc

end QueueSystem

end Delivery
