import Delivery.Proofs.Delivering.Attempts

/-!
# A desk

A desk delivers messages, replays dead letters and answers queries, one after the other, with one
retry policy, one registry and one queue in memory. Its books record every delivery, every message
that was handed to the replay handler, and what the replays came to. A dead letter is handed out
under the claim that is held at the time.
-/

namespace Delivery

variable {listener : Type}

structure Dispatch where
  message : Message
  outcome : Except DeliveryError DeliveryOutcome
  publications : Nat

/-- A message in the hands of the replay handler, and the claim it is handed out under. -/
structure Handover where
  claim : Option EntryId
  message : Message
  wentWell : Bool
  deriving DecidableEq, Repr

/-- What a desk has and what it has recorded, oldest first. -/
structure Books (listener : Type) where
  clock : Instant := 0
  registry : Registry listener := {}
  store : MemoryStore := {}
  -- How many ids have been made.
  ids : Nat := 0
  held : Option EntryId := none
  dispatches : List Dispatch := []
  handovers : List Handover := []
  -- How many dead letters each replay says it has marked.
  replies : List (Except DeadLetterError Nat) := []

/-- How a desk goes on. Ids and handovers count from nought. -/
structure Desk where
  retry : RetryPolicy
  ids : Nat → EntryId
  wallClock : Instant → Timestamp
  -- How long the handler has a message, and whether all goes well.
  handling : Nat → Duration × Bool

inductive DeskAct (listener : Type) where
  -- The retry policy, the ids and the clocks of the plan are those of the desk.
  | deliver (plan : DeliveryPlan listener)
  | replay (id : EntryId)
  | replayBatch (f : Filter)
  | get (id : EntryId)
  | list (f : Filter)
  | count (f : Filter)
  | countByReason
  | wait (d : Duration)

namespace Desk

variable (d : Desk)

def store : Store (StateM (Books listener)) where
  serve request s :=
    let (reply, store) := MemoryStore.serve s.clock request s.store
    (.ok reply, { s with store })

def handle (message : Message) : StateM (Books listener) Bool := fun s =>
  let (lasts, wentWell) := d.handling s.handovers.length
  (wentWell, { s with
    clock := s.clock + lasts
    handovers := s.handovers ++ [⟨s.held, message, wentWell⟩] })

def queue : DeadLetterQueue (StateM (Books listener)) where
  store := store
  handler := some d.handle
  plan := none
  newId s := (d.ids s.ids, { s with ids := s.ids + 1 })
  wallClock s := (d.wallClock s.clock, s)
  claims :=
    { hold := fun id s => ((), { s with held := some id })
      settle := fun _ s => ((), { s with held := none })
      abandon := fun _ s => ((), { s with held := none }) }

/-- A plan as it is carried out at the desk. -/
def planned (s : Books listener) (plan : DeliveryPlan listener) : DeliveryPlan listener :=
  { plan with
    retry := d.retry
    ids := fun i => d.ids (s.ids + i)
    wallClock := d.wallClock
    start := s.clock }

def deliver (plan : DeliveryPlan listener) (s : Books listener) : Books listener :=
  let (outcome, last) := (d.planned s plan).run s.registry s.store
  { s with
    clock := last.clock
    registry := last.rest.registry
    store := last.rest.store
    ids := s.ids + last.rest.ids
    dispatches := s.dispatches ++ [⟨plan.message, outcome, last.rest.publications⟩] }

def perform (s : Books listener) : DeskAct listener → Books listener
  | .deliver plan => d.deliver plan s
  | .replay id =>
    let (reply, s) := (d.queue.replay id).run s
    { s with replies := s.replies ++ [reply.map Bool.toNat] }
  | .replayBatch f =>
    let (reply, s) := (d.queue.replayBatch f).run s
    { s with replies := s.replies ++ [reply] }
  | .get id => ((d.queue.store.ask (.get id)).run s).2
  | .list f => ((d.queue.store.ask (.query f)).run s).2
  | .count f => ((d.queue.store.ask (.count f)).run s).2
  | .countByReason => (d.queue.countByReason.run s).2
  | .wait d => { s with clock := s.clock + d }

def run (acts : List (DeskAct listener)) (s : Books listener) : Books listener :=
  acts.foldl d.perform s

/-- A courier whose queue has a replay handler delivers all the same: it hands nothing out. -/
theorem deliver_handler (t : DeliveryPlan listener)
    (handler : Option (Message → StateM (Scene Happening (Office listener)) Bool)) :
    { t.courier with deadLetters := { t.queue with handler } }.deliver (Scene.caller t.chance)
      ⟨t.transport, t.publish⟩ t.message =
    t.courier.deliver (Scene.caller t.chance) ⟨t.transport, t.publish⟩ t.message := rfl

end Desk

/-! ### Stubs -/

/-- What a dead letter is known by: all that bears on replaying it. -/
structure Stub where
  id : EntryId
  reason : Reason
  message : Message
  replayed : Bool
  deriving DecidableEq, Repr

def Slot.stub (s : Slot) : Stub := ⟨s.entry.id, s.entry.reason, s.entry.toMessage, s.entry.replayed⟩

/-- What a replay of an id makes of a dead letter. -/
def Stub.turn (b : Stub) (id : EntryId) (wentWell : Bool) : Stub :=
  if b.id = id ∧ wentWell then { b with replayed := true } else b

namespace MemoryStore

variable {s : MemoryStore} {id : EntryId} (now : Instant)

def stubs (s : MemoryStore) : List Stub := s.slots.map Slot.stub

theorem stubs_update {change : Slot → Slot} (h : ∀ slot, (change slot).stub = slot.stub) :
    (s.update id change).stubs = s.stubs := by
  unfold stubs update
  rw [List.map_map]
  refine List.map_congr_left fun slot _ => ?_
  show (if slot.entry.id = id then change slot else slot).stub = slot.stub
  split
  · exact h slot
  · rfl

theorem stubs_tryClaim : (serve now (.tryClaim id) s).2.stubs = s.stubs := by
  rw [serve_tryClaim]
  split
  · exact stubs_update fun _ => rfl
  · rfl

theorem stubs_release : (serve now (.release id) s).2.stubs = s.stubs :=
  stubs_update fun _ => rfl

theorem stubs_markReplayed (time : Timestamp) :
    (serve now (.markReplayed id time) s).2.stubs = s.stubs.map (·.turn id true) := by
  show (s.update id (·.markReplayed time)).stubs = _
  unfold stubs update
  rw [List.map_map, List.map_map]
  refine List.map_congr_left fun slot _ => ?_
  show (if slot.entry.id = id then slot.markReplayed time else slot).stub =
    if slot.entry.id = id ∧ true = true then { slot.stub with replayed := true } else slot.stub
  by_cases hid : slot.entry.id = id
  · rw [if_pos hid, if_pos ⟨hid, rfl⟩]
    unfold Slot.markReplayed
    split
    · rename_i hyes
      simp [Slot.stub, hyes]
    · rfl
  · rw [if_neg hid, if_neg fun h => hid h.1]

theorem keeps_iff {e : Entry} :
    s.Keeps e ↔ ∃ b ∈ s.stubs, b.id = e.id ∧ b.message = e.toMessage := by
  constructor
  · rintro ⟨slot, hslot, hid, hmessage⟩
    exact ⟨slot.stub, List.mem_map_of_mem hslot, hid, hmessage⟩
  · rintro ⟨b, hb, hid, hmessage⟩
    obtain ⟨slot, hslot, rfl⟩ := List.mem_map.mp hb
    exact ⟨slot, hslot, hid, hmessage⟩

end MemoryStore

def Stub.letter (b : Stub) : EntryId × Reason × Message := (b.id, b.reason, b.message)

namespace Stub

variable {b : Stub} {stubs : List Stub} {id : EntryId} {w : Bool}

@[simp] theorem id_turn : (b.turn id w).id = b.id := by
  unfold turn
  split <;> rfl

@[simp] theorem message_turn : (b.turn id w).message = b.message := by
  unfold turn
  split <;> rfl

@[simp] theorem letter_turn : (b.turn id w).letter = b.letter := by
  unfold turn
  split <;> rfl

theorem turn_of_ne (h : b.id ≠ id) : b.turn id w = b := if_neg fun hid => h hid.1

@[simp] theorem turn_false : b.turn id false = b := if_neg fun h => by cases h.2

theorem replayed_turn (h : b.id = id) : (b.turn id true).replayed = true := by
  unfold turn
  rw [if_pos ⟨h, rfl⟩]

theorem countP_turn (hnodup : (stubs.map (·.id)).Nodup) (hb : b ∈ stubs) (hid : b.id = id)
    (hno : b.replayed = false) :
    (stubs.map (·.turn id w)).countP (·.replayed) = stubs.countP (·.replayed) + w.toNat := by
  cases w with
  | false => simp
  | true =>
    induction stubs with
    | nil => cases hb
    | cons x rest ih =>
      rw [List.map_cons, List.nodup_cons] at hnodup
      obtain ⟨hnot, hrest⟩ := hnodup
      rcases List.mem_cons.mp hb with rfl | hb
      · have hsame : rest.map (·.turn id true) = rest := by
          refine (List.map_congr_left fun x hx => ?_).trans (List.map_id rest)
          exact turn_of_ne fun hx' => hnot (List.mem_map.mpr ⟨x, hx, hx'.trans hid.symm⟩)
        rw [List.map_cons, hsame, List.countP_cons_of_pos (replayed_turn hid),
          List.countP_cons_of_neg (by simp [hno])]
        rfl
      · have hne : x.id ≠ id := by
          rintro rfl
          exact hnot (List.mem_map.mpr ⟨b, hb, hid⟩)
        rw [List.map_cons, turn_of_ne hne, List.countP_cons, List.countP_cons, ih hrest hb]
        omega

end Stub

/-! ### Computations that can fail -/

theorem ExceptT.bind_run {σ ε α β : Type} (x : ExceptT ε (StateM σ) α)
    (f : α → ExceptT ε (StateM σ) β) (s : σ) :
    (x >>= f).run s = match x.run s with
      | (.ok a, s') => (f a).run s'
      | (.error e, s') => (.error e, s') := by
  show (match x.run s with | (a, s') => ExceptT.bindCont f a s') = _
  rcases x.run s with ⟨a, s'⟩
  cases a <;> rfl

theorem ExceptT.lift_run {σ ε α : Type} (x : StateM σ α) (s : σ) :
    (liftM x : ExceptT ε (StateM σ) α).run s = (.ok (x s).1, (x s).2) := rfl

theorem ExceptT.mapM_run {σ ε α β : Type} {f : α → ExceptT ε (StateM σ) β} {g : α → β} {s : σ}
    (h : ∀ a, (f a).run s = (.ok (g a), s)) (l : List α) :
    (l.mapM f).run s = (.ok (l.map g), s) := by
  induction l with
  | nil => rfl
  | cons a rest ih =>
    rw [List.mapM_cons, ExceptT.bind_run, h a]
    dsimp only
    rw [ExceptT.bind_run, ih]
    rfl

/-- A replay of one dead letter, step by step. -/
theorem DeadLetterQueue.replayEntry_run {σ : Type} (q : DeadLetterQueue (StateM σ))
    (handler : Message → StateM σ Bool) (e : Entry) (s : σ) :
    (q.replayEntry handler e).run s =
      match q.store.serve (.tryClaim e.id) s with
      | (.error x, s') => (.error x, s')
      | (.ok false, s') => (.ok false, s')
      | (.ok true, s') =>
        let (wentWell, back) := handler e.toMessage (q.claims.hold e.id s').2
        if wentWell then (q.mark e.id).run back
        else match q.store.serve (.release e.id) (q.claims.settle e.id back).2 with
          | (.error x, last) => (.error x, last)
          | (.ok _, last) => (.ok false, last) := by
  have hask (request : StoreRequest) (s : σ) :
      (q.store.ask request).run s = q.store.serve request s := rfl
  unfold DeadLetterQueue.replayEntry
  rw [ExceptT.bind_run, hask]
  rcases q.store.serve (.tryClaim e.id) s with ⟨x | won, s'⟩
  · rfl
  · cases won with
    | false => rfl
    | true =>
      dsimp only
      rw [if_pos rfl, ExceptT.bind_run, ExceptT.lift_run]
      dsimp only
      rw [ExceptT.bind_run, ExceptT.lift_run]
      dsimp only
      rcases handler e.toMessage (q.claims.hold e.id s').2 with ⟨wentWell, back⟩
      cases wentWell with
      | true => rfl
      | false =>
        dsimp only
        rw [if_neg nofun, if_neg nofun, ExceptT.bind_run, ExceptT.lift_run]
        dsimp only
        rw [ExceptT.bind_run, hask]
        rcases q.store.serve (.release e.id) (q.claims.settle e.id back).2 with ⟨x | _, last⟩ <;>
          rfl

/-! ### Requests to the queue -/

namespace Desk

variable (d : Desk) {s s' : Books listener} {e : Entry}

theorem serve_eq (request : StoreRequest) (s : Books listener) :
    d.queue.store.serve request s = (.ok (MemoryStore.serve s.clock request s.store).1,
      { s with store := (MemoryStore.serve s.clock request s.store).2 }) := rfl

theorem countByReason_run (s : Books listener) : (d.queue.countByReason.run s).2 = s := by
  have hcount (r : Reason) :
      (do return (r, ← d.queue.store.ask (.count { reason := some r })) :
        ExceptT DeadLetterError (StateM (Books listener)) (Reason × Nat)).run s =
      (.ok (r, (s.store.selected { reason := some r }).length), s) := rfl
  unfold DeadLetterQueue.countByReason
  rw [ExceptT.mapM_run hcount]

/-! ### One replay -/

def goesWell (s : Books listener) : Bool := (d.handling s.handovers.length).2

/-- The books when a dead letter has been handed out under a claim. -/
def handedOut (s : Books listener) (e : Entry) : Books listener :=
  { s with
    clock := s.clock + (d.handling s.handovers.length).1
    store := (MemoryStore.serve s.clock (.tryClaim e.id) s.store).2
    held := some e.id
    handovers := s.handovers ++ [⟨some e.id, e.toMessage, d.goesWell s⟩] }

theorem handle_held (s : Books listener) (e : Entry) :
    d.handle e.toMessage (d.queue.claims.hold e.id
      { s with store := (MemoryStore.serve s.clock (.tryClaim e.id) s.store).2 }).2 =
      (d.goesWell s, d.handedOut s e) := rfl

/-- The books when the claim has ended as a request to the store ends it. -/
def ended (s : Books listener) (request : StoreRequest) : Books listener :=
  { s with store := (MemoryStore.serve s.clock request s.store).2, held := none }

def marked (s : Books listener) (e : Entry) : Books listener :=
  let last := d.handedOut s e
  ended last (.markReplayed e.id (d.wallClock last.clock))

def givenBack (s : Books listener) (e : Entry) : Books listener :=
  ended (d.handedOut s e) (.release e.id)

theorem replayEntry_lost (h : (MemoryStore.serve s.clock (.tryClaim e.id) s.store).1 = false) :
    (d.queue.replayEntry d.handle e).run s = (.ok false, s) := by
  rw [DeadLetterQueue.replayEntry_run, serve_eq, h, MemoryStore.lost_eq h]

theorem mark_run (s : Books listener) (id : EntryId) :
    (d.queue.mark id).run s =
      (.ok (MemoryStore.serve s.clock (.markReplayed id (d.wallClock s.clock)) s.store).1,
        ended s (.markReplayed id (d.wallClock s.clock))) := rfl

theorem replayEntry_won (h : (MemoryStore.serve s.clock (.tryClaim e.id) s.store).1 = true) :
    (d.queue.replayEntry d.handle e).run s =
      if d.goesWell s then (.ok true, d.marked s e) else (.ok false, d.givenBack s e) := by
  have hmarked := (MemoryStore.marked_of_isClaimed (d.handedOut s e).clock
    (d.wallClock (d.handedOut s e).clock) (MemoryStore.free_of_won h).1).1
  rw [DeadLetterQueue.replayEntry_run, serve_eq, h]
  dsimp only
  rw [d.handle_held]
  cases d.goesWell s with
  | false => rfl
  | true =>
    dsimp only
    rw [if_pos rfl, if_pos rfl, mark_run]
    exact Prod.ext (congrArg Except.ok hmarked) rfl

/-- A dead letter that was not replayed is handed out, and is marked if that goes well. -/
structure Turn (s : Books listener) (e : Entry) (wentWell : Bool) (s' : Books listener) : Prop where
  pending : ∃ b ∈ s.store.stubs, b.id = e.id ∧ b.replayed = false
  stubs_eq : s'.store.stubs = s.store.stubs.map (·.turn e.id wentWell)
  handovers_eq : s'.handovers = s.handovers ++ [⟨some e.id, e.toMessage, wentWell⟩]
  dispatches_eq : s'.dispatches = s.dispatches
  replies_eq : s'.replies = s.replies
  ids_eq : s'.ids = s.ids

theorem pending_of_won (h : (MemoryStore.serve s.clock (.tryClaim e.id) s.store).1 = true) :
    ∃ b ∈ s.store.stubs, b.id = e.id ∧ b.replayed = false := by
  obtain ⟨slot, hfind, hno, -⟩ := (MemoryStore.free_of_won h).1
  refine ⟨slot.stub, ?_, MemoryStore.id_of_find? hfind, hno⟩
  rw [← MemoryStore.stubs_tryClaim s.clock]
  exact List.mem_map_of_mem (List.mem_of_find?_eq_some hfind)

theorem stubs_handedOut (s : Books listener) (e : Entry) :
    (d.handedOut s e).store.stubs = s.store.stubs :=
  MemoryStore.stubs_tryClaim s.clock

theorem turn_marked (hpending : ∃ b ∈ s.store.stubs, b.id = e.id ∧ b.replayed = false)
    (hwell : d.goesWell s = true) : Turn s e true (d.marked s e) where
  pending := hpending
  stubs_eq := by
    rw [← d.stubs_handedOut s e]
    exact MemoryStore.stubs_markReplayed (d.handedOut s e).clock _
  handovers_eq := by
    rw [← hwell]
    rfl
  dispatches_eq := rfl
  replies_eq := rfl
  ids_eq := rfl

theorem turn_givenBack (hpending : ∃ b ∈ s.store.stubs, b.id = e.id ∧ b.replayed = false)
    (hill : d.goesWell s = false) : Turn s e false (d.givenBack s e) where
  pending := hpending
  stubs_eq := by
    have hsame : s.store.stubs.map (·.turn e.id false) = s.store.stubs :=
      (List.map_congr_left fun b _ => Stub.turn_false).trans (List.map_id _)
    rw [hsame, ← d.stubs_handedOut s e]
    exact MemoryStore.stubs_release (d.handedOut s e).clock
  handovers_eq := by
    rw [← hill]
    rfl
  dispatches_eq := rfl
  replies_eq := rfl
  ids_eq := rfl

/-- A replay leaves a dead letter alone, or hands it out once and says whether that went well. -/
theorem replayEntry_cases (s : Books listener) (e : Entry) :
    (d.queue.replayEntry d.handle e).run s = (.ok false, s) ∨
      ∃ w s', (d.queue.replayEntry d.handle e).run s = (.ok w, s') ∧ Turn s e w s' := by
  cases hwon : (MemoryStore.serve s.clock (.tryClaim e.id) s.store).1 with
  | false => exact Or.inl (d.replayEntry_lost hwon)
  | true =>
    have hpending := pending_of_won hwon
    rw [d.replayEntry_won hwon]
    refine Or.inr ?_
    cases hw : d.goesWell s with
    | false => exact ⟨false, _, rfl, d.turn_givenBack hpending hw⟩
    | true => exact ⟨true, _, rfl, d.turn_marked hpending hw⟩

end Desk

end Delivery
