import Delivery.Proofs.DeadLetter.Claims
import Delivery.Proofs.DeadLetter.Pages
import Delivery.Proofs.Delivering.Desk

/-!
# What a batch does

A batch goes through the window that its filter had when it began, one dead letter after the other.
Time passes before each request to the store and while the handler has a message, so a claim of
somebody else can expire on the way; nobody but the batch uses the store meanwhile. Each dead letter
gets one turn. What one turn does is said by `Effect.skip` and `Effect.handOut`, and turns of
different dead letters do not meddle with each other (`Effect.append`).
-/

namespace Delivery

/-- What a batch meets with. Requests and handovers count from nought. -/
structure Circumstances where
  -- How much time passes before a request to the store.
  pause : Nat → Duration
  -- How long the handler has a message, and whether all goes well.
  handling : Nat → Duration × Bool
  wallClock : Instant → Timestamp

/-- How far a batch has come: the store and all that was asked of it, and all messages that were
handed out with what came of them. -/
structure BatchProgress where
  clock : Instant
  store : MemoryStore
  requests : StoreRun := []
  handed : List (Message × Bool) := []

namespace Circumstances

variable (c : Circumstances)

/-- The reading at which the next request is served. -/
def reading (p : BatchProgress) : Instant := p.clock + c.pause p.requests.length

def asked (p : BatchProgress) (request : StoreRequest) : BatchProgress :=
  { p with
    clock := c.reading p
    store := (MemoryStore.serve (c.reading p) request p.store).2
    requests := p.requests ++ [(c.reading p, request)] }

def received (p : BatchProgress) (message : Message) : BatchProgress :=
  { p with
    clock := p.clock + (c.handling p.handed.length).1
    handed := p.handed ++ [(message, (c.handling p.handed.length).2)] }

def handle (message : Message) : StateM BatchProgress Bool := fun p =>
  ((c.handling p.handed.length).2, c.received p message)

def queue : DeadLetterQueue (StateM BatchProgress) where
  store.serve request p :=
    (.ok (MemoryStore.serve (c.reading p) request p.store).1, c.asked p request)
  handler := some c.handle
  plan := none
  newId p := (⟨p.requests.length⟩, p)
  wallClock p := (c.wallClock p.clock, p)
  claims :=
    { hold := fun _ p => ((), p)
      settle := fun _ p => ((), p)
      abandon := fun id p => ((), c.asked p (.release id)) }

end Circumstances

/-! ### Turns -/

/-- What becomes of a dead letter in its turn, and when it ends. -/
inductive Fate where
  | skipped
  | replayed (ended : Instant) (time : Timestamp)
  | failed (ended : Instant)
  deriving DecidableEq, Repr

/-- The turn of a dead letter of a batch, which is reached at the reading. -/
structure BatchTurn where
  entry : Entry
  reading : Instant
  fate : Fate
  deriving DecidableEq, Repr

namespace BatchTurn

def isReplayed (t : BatchTurn) : Bool :=
  match t.fate with
  | .replayed _ _ => true
  | _ => false

def requests (t : BatchTurn) : StoreRun :=
  (t.reading, .tryClaim t.entry.id) :: match t.fate with
    | .skipped => []
    | .replayed ended time => [(ended, .markReplayed t.entry.id time)]
    | .failed ended => [(ended, .release t.entry.id)]

def handed (t : BatchTurn) : List (Message × Bool) :=
  match t.fate with
  | .skipped => []
  | .replayed _ _ => [(t.entry.toMessage, true)]
  | .failed _ => [(t.entry.toMessage, false)]

def settle (t : BatchTurn) (slot : Slot) : Slot :=
  match t.fate with
  | .skipped => slot
  | .replayed _ time => ⟨slot.entry.markReplayed time, none⟩
  | .failed _ => ⟨slot.entry, none⟩

end BatchTurn

/-! ### Requests about one dead letter -/

def StoreRequest.about? : StoreRequest → Option EntryId
  | .tryClaim id | .markReplayed id _ | .release id => some id
  | _ => none

namespace MemoryStore

variable {s : MemoryStore} {now : Instant} {id other : EntryId} {request : StoreRequest}

theorem ids_about (h : request.about? = some id) :
    (serve now request s).2.slots.map (·.entry.id) = s.slots.map (·.entry.id) := by
  cases request with
  | tryClaim id' =>
    rw [serve_tryClaim]
    split
    · exact ids_update fun _ => rfl
    · rfl
  | markReplayed id' time => exact ids_update (id_markReplayed time)
  | release id' => exact ids_update fun _ => rfl
  | _ => cases h

theorem find?_about_of_ne (h : request.about? = some id) (hne : other ≠ id) :
    (serve now request s).2.find? other = s.find? other := by
  cases request with
  | tryClaim id' =>
    cases h
    exact find?_tryClaim_of_ne hne
  | markReplayed id' time =>
    cases h
    exact find?_markReplayed.trans (if_neg hne)
  | release id' =>
    cases h
    exact find?_release.trans (if_neg hne)
  | _ => cases h

/-! ### The window -/

/-- The dead letters that a batch is for: the window of those not replayed, by their ids. -/
def pending (s : MemoryStore) (f : Filter) : List Entry :=
  f.window (inOrder ((s.slots.map (·.entry)).filter fun e => !e.replayed && f.accepts e))

variable {f : Filter} {e : Entry}

theorem accepts_unreplayed (hf : f.replayed ≠ some true) (e : Entry) :
    ({ f with replayed := some false } : Filter).accepts e = (!e.replayed && f.accepts e) := by
  unfold Filter.accepts
  match hreplayed : f.replayed with
  | none => cases e.replayed <;> simp
  | some false => cases e.replayed <;> simp
  | some true => exact absurd hreplayed hf

theorem pending_eq (hf : f.replayed ≠ some true) (s : MemoryStore) :
    s.pending f = f.window (s.listing { f with replayed := some false }) := by
  rw [pending, listing, selected]
  exact congrArg _ (congrArg _ (List.filter_congr fun e _ => (accepts_unreplayed hf e).symm))

theorem window_sublist {α : Type} (f : Filter) (xs : List α) : (f.window xs).Sublist xs := by
  rw [window_eq]
  exact (List.take_sublist _ _).trans (List.drop_sublist _ _)

theorem nodup_pending (h : s.Distinct) (hf : f.replayed ≠ some true) :
    ((s.pending f).map (·.id)).Nodup := by
  rw [pending_eq hf]
  exact (nodup_listing h _).sublist ((window_sublist f _).map _)

theorem stored_of_pending (h : s.Distinct) (hf : f.replayed ≠ some true) (he : e ∈ s.pending f) :
    e.replayed = false ∧ s.stored? e.id = some e := by
  rw [pending_eq hf] at he
  obtain ⟨haccepts, slot, hslot, rfl⟩ := mem_listing.mp ((window_sublist f _).subset he)
  rw [accepts_unreplayed hf, Bool.and_eq_true, Bool.not_eq_true'] at haccepts
  exact ⟨haccepts.1, by rw [stored?, find?_of_mem h hslot, Option.map_some]⟩

/-- A filter with no pages leaves nothing out that is not replayed. -/
theorem mem_pending_of_unpaginated (hskip : f.skip = 0) (hlimit : f.limit = none) :
    e ∈ s.pending f ↔ (∃ slot ∈ s.slots, slot.entry = e) ∧ e.replayed = false ∧
      f.accepts e = true := by
  rw [pending, Filter.window, hskip, hlimit]
  simp [inOrder]

end MemoryStore

namespace Circumstances

variable (c : Circumstances)

/-- What turns of different dead letters make of the progress of a batch. -/
structure Effect (p last : BatchProgress) (turns : List BatchTurn) : Prop where
  clock : p.clock ≤ last.clock
  requests : last.requests = p.requests ++ turns.flatMap (·.requests)
  handed : last.handed = p.handed ++ turns.flatMap (·.handed)
  lease : last.store.lease = p.store.lease
  ids : last.store.slots.map (·.entry.id) = p.store.slots.map (·.entry.id)
  reached : ∀ t ∈ turns, p.clock ≤ t.reading
  skipped : ∀ t ∈ turns, t.fate = .skipped ↔ ∃ slot, p.store.find? t.entry.id = some slot ∧
    slot.isClaimed p.store.lease t.reading = true
  fared : ∀ n, p.handed.length ≤ n → ∀ x, last.handed[n]? = some x → x.2 = (c.handling n).2
  settled : ∀ t ∈ turns, last.store.find? t.entry.id = (p.store.find? t.entry.id).map t.settle
  others : ∀ id, id ∉ turns.map (·.entry.id) → last.store.find? id = p.store.find? id

namespace Effect

variable {c} {p mid last : BatchProgress} {turns later : List BatchTurn}

theorem nil (p : BatchProgress) : c.Effect p p [] where
  clock := Nat.le_refl _
  requests := (List.append_nil _).symm
  handed := (List.append_nil _).symm
  lease := rfl
  ids := rfl
  reached := List.forall_mem_nil _
  skipped := List.forall_mem_nil _
  fared n hn x hx := by
    rw [List.getElem?_eq_none hn] at hx
    cases hx
  settled := List.forall_mem_nil _
  others _ _ := rfl

/-- Turns of other dead letters do not meddle with those before them. -/
theorem append (h : c.Effect p mid turns) (h' : c.Effect mid last later)
    (hnodup : ((turns ++ later).map (·.entry.id)).Nodup) : c.Effect p last (turns ++ later) := by
  rw [List.map_append, List.nodup_append] at hnodup
  have hearlier : ∀ t ∈ turns, t.entry.id ∉ later.map (·.entry.id) := fun t ht hin =>
    hnodup.2.2 _ (List.mem_map_of_mem ht) _ hin rfl
  have hlater : ∀ t ∈ later, mid.store.find? t.entry.id = p.store.find? t.entry.id := fun t ht =>
    h.others _ fun hin => hnodup.2.2 _ hin _ (List.mem_map_of_mem ht) rfl
  refine ⟨Nat.le_trans h.clock h'.clock, ?_, ?_, h'.lease.trans h.lease, h'.ids.trans h.ids,
    ?_, ?_, ?_, ?_, ?_⟩
  · rw [h'.requests, h.requests, List.flatMap_append, List.append_assoc]
  · rw [h'.handed, h.handed, List.flatMap_append, List.append_assoc]
  · intro t ht
    rcases List.mem_append.mp ht with ht | ht
    · exact h.reached t ht
    · exact Nat.le_trans h.clock (h'.reached t ht)
  · intro t ht
    rcases List.mem_append.mp ht with ht | ht
    · exact h.skipped t ht
    · rw [h'.skipped t ht, hlater t ht, h.lease]
  · intro n hn x hx
    by_cases hmid : mid.handed.length ≤ n
    · exact h'.fared n hmid x hx
    · rw [h'.handed, List.getElem?_append_left (Nat.lt_of_not_le hmid)] at hx
      exact h.fared n hn x hx
  · intro t ht
    rcases List.mem_append.mp ht with ht | ht
    · rw [h'.others _ (hearlier t ht), h.settled t ht]
    · rw [h'.settled t ht, hlater t ht]
  · intro id hid
    rw [List.map_append, List.mem_append, not_or] at hid
    rw [h'.others id hid.2, h.others id hid.1]

end Effect

theorem serve_eq (p : BatchProgress) (request : StoreRequest) :
    c.queue.store.serve request p =
      (.ok (MemoryStore.serve (c.reading p) request p.store).1, c.asked p request) := rfl

/-- The progress when a dead letter has come back from the handler. -/
def handedOut (p : BatchProgress) (e : Entry) : BatchProgress :=
  c.received (c.asked p (.tryClaim e.id)) e.toMessage

theorem replayEntry_lost {p : BatchProgress} {e : Entry}
    (h : (MemoryStore.serve (c.reading p) (.tryClaim e.id) p.store).1 = false) :
    (c.queue.replayEntry c.handle e).run p = (.ok false, c.asked p (.tryClaim e.id)) := by
  rw [DeadLetterQueue.replayEntry_run, serve_eq, h]

theorem mark_run (p : BatchProgress) (id : EntryId) :
    (c.queue.mark id).run p =
      (.ok (MemoryStore.serve (c.reading p) (.markReplayed id (c.wallClock p.clock)) p.store).1,
        c.asked p (.markReplayed id (c.wallClock p.clock))) := rfl

theorem handle_run (p : BatchProgress) (e : Entry) :
    c.handle e.toMessage (c.queue.claims.hold e.id (c.asked p (.tryClaim e.id))).2 =
      ((c.handling p.handed.length).2, c.handedOut p e) := rfl

theorem replayEntry_won {p : BatchProgress} {e : Entry}
    (h : (MemoryStore.serve (c.reading p) (.tryClaim e.id) p.store).1 = true) :
    (c.queue.replayEntry c.handle e).run p =
      if (c.handling p.handed.length).2 then (c.queue.mark e.id).run (c.handedOut p e)
      else (.ok false, c.asked (c.handedOut p e) (.release e.id)) := by
  rw [DeadLetterQueue.replayEntry_run, serve_eq, h]
  dsimp only
  rw [handle_run]
  cases (c.handling p.handed.length).2 with
  | true => rfl
  | false => rfl

/-! ### One turn -/

section OneTurn

variable {c} {p : BatchProgress} {slot : Slot} {t : BatchTurn} {request : StoreRequest}

theorem Effect.skip (hslot : p.store.find? slot.entry.id = some slot)
    (hno : slot.entry.replayed = false)
    (hlost : ¬ p.store.Won slot.entry.id (c.reading p)) :
    c.Effect p (c.asked p (.tryClaim slot.entry.id)) [⟨slot.entry, c.reading p, .skipped⟩] := by
  have hstore : (c.asked p (.tryClaim slot.entry.id)).store = p.store :=
    MemoryStore.lost_eq (Bool.not_eq_true _ ▸ hlost)
  have hclaimed : slot.isClaimed p.store.lease (c.reading p) = true := by
    by_contra hfree
    exact hlost (MemoryStore.won_iff.mpr ⟨slot, hslot, hno, Bool.not_eq_true _ ▸ hfree⟩)
  refine ⟨Nat.le_add_right _ _, rfl, (List.append_nil _).symm, ?_, ?_, ?_, ?_, ?_, ?_, ?_⟩
  · rw [hstore]
  · rw [hstore]
  · exact (List.forall_mem_singleton).mpr (Nat.le_add_right _ _)
  · simpa using ⟨slot, hslot, hclaimed⟩
  · exact (nil p).fared
  · rw [List.forall_mem_singleton, hstore, hslot]
    rfl
  · intro id _
    rw [hstore]

/-- A dead letter that is handed out is done with when the next request about it has been served. -/
theorem Effect.handOut (hslot : p.store.find? slot.entry.id = some slot)
    (hwon : p.store.Won slot.entry.id (c.reading p))
    (habout : request.about? = some slot.entry.id)
    (hentry : t.entry = slot.entry) (hreading : t.reading = c.reading p) (hfate : t.fate ≠ .skipped)
    (hrequests : t.requests = [(c.reading p, .tryClaim slot.entry.id),
      (c.reading (c.handedOut p slot.entry), request)])
    (hhanded : t.handed = [(slot.entry.toMessage, (c.handling p.handed.length).2)])
    (hsettled : (MemoryStore.serve (c.reading (c.handedOut p slot.entry)) request
      (c.handedOut p slot.entry).store).2.find? slot.entry.id = some (t.settle slot)) :
    c.Effect p (c.asked (c.handedOut p slot.entry) request) [t] := by
  have hfree : slot.isClaimed p.store.lease (c.reading p) = false := by
    obtain ⟨slot', hslot', -, hfree⟩ := MemoryStore.won_iff.mp hwon
    rw [hslot] at hslot'
    cases hslot'
    exact hfree
  refine ⟨?_, ?_, ?_, ?_, ?_, ?_, ?_, ?_, ?_, ?_⟩
  · exact Nat.le_trans (Nat.le_add_right _ _)
      (Nat.le_trans (Nat.le_add_right _ _) (Nat.le_add_right _ _))
  · rw [List.flatMap_singleton, hrequests]
    exact List.append_assoc p.requests _ _
  · rw [List.flatMap_singleton, hhanded]
    rfl
  · exact (MemoryStore.lease_serve _ _ _).trans (MemoryStore.lease_serve _ _ _)
  · exact (MemoryStore.ids_about habout).trans (MemoryStore.ids_about rfl)
  · rw [List.forall_mem_singleton, hreading]
    exact Nat.le_add_right _ _
  · rw [List.forall_mem_singleton, hentry, hreading, hslot]
    simp [hfate, hfree]
  · intro n hn x hx
    rw [show (c.asked (c.handedOut p slot.entry) request).handed =
      p.handed ++ [(slot.entry.toMessage, (c.handling p.handed.length).2)] from rfl,
      List.getElem?_append_right hn, List.getElem?_singleton] at hx
    split at hx
    · rename_i hzero
      obtain rfl : n = p.handed.length := Nat.le_antisymm (Nat.le_of_sub_eq_zero hzero) hn
      cases hx
      rfl
    · cases hx
  · rw [List.forall_mem_singleton, hentry, hslot]
    exact hsettled
  · intro id hid
    have hne : id ≠ slot.entry.id := by simpa [hentry] using hid
    exact (MemoryStore.find?_about_of_ne habout hne).trans (MemoryStore.find?_about_of_ne rfl hne)

/-- A turn ends with the dead letter passed over, marked, or given back. -/
theorem replayEntry_effect (hslot : p.store.find? slot.entry.id = some slot)
    (hno : slot.entry.replayed = false) :
    ∃ t last, t.entry = slot.entry ∧ c.Effect p last [t] ∧
      (c.queue.replayEntry c.handle slot.entry).run p = (.ok t.isReplayed, last) := by
  by_cases hwon : p.store.Won slot.entry.id (c.reading p)
  · have hclaimed : (c.handedOut p slot.entry).store.find? slot.entry.id =
        some { slot with claimedAt := some (c.reading p) } := by
      refine (MemoryStore.find?_won hwon).trans ?_
      rw [hslot]
      rfl
    rw [c.replayEntry_won hwon]
    cases hwell : (c.handling p.handed.length).2 with
    | true =>
      let last := c.handedOut p slot.entry
      let time := c.wallClock last.clock
      refine ⟨⟨slot.entry, c.reading p, .replayed (c.reading last) time⟩, _, rfl,
        .handOut hslot hwon rfl rfl rfl nofun rfl (by rw [hwell]; rfl) ?_, ?_⟩
      · rw [MemoryStore.find?_markReplayed, if_pos rfl, hclaimed]
        simp [Slot.markReplayed, hno, BatchTurn.settle]
      · rw [if_pos rfl, mark_run]
        refine Prod.ext (congrArg Except.ok ?_) rfl
        rw [MemoryStore.answer_markReplayed, hclaimed]
        simp [hno, BatchTurn.isReplayed]
    | false =>
      let last := c.handedOut p slot.entry
      refine ⟨⟨slot.entry, c.reading p, .failed (c.reading last)⟩, _, rfl,
        .handOut hslot hwon rfl rfl rfl nofun rfl (by rw [hwell]; rfl) ?_, ?_⟩
      · rw [MemoryStore.find?_release, if_pos rfl, hclaimed]
        rfl
      · rfl
  · exact ⟨_, _, rfl, .skip hslot hno hwon, c.replayEntry_lost (Bool.not_eq_true _ ▸ hwon)⟩

end OneTurn

/-! ### All turns -/

section AllTurns

variable {f : Filter} {p : BatchProgress}

theorem replayAll_effect (entries : List Entry) (hnodup : (entries.map (·.id)).Nodup)
    (hstored : ∀ e ∈ entries, e.replayed = false ∧ p.store.stored? e.id = some e) :
    ∃ turns last, turns.map (·.entry) = entries ∧ c.Effect p last turns ∧
      (c.queue.replayAll c.handle entries).run p = (.ok (turns.countP (·.isReplayed)), last) := by
  -- on the dead letters that are left, whatever the turns before them have come to
  induction entries generalizing p with
  | nil => exact ⟨[], p, rfl, .nil p, rfl⟩
  | cons e rest ih =>
    rw [List.map_cons, List.nodup_cons] at hnodup
    obtain ⟨hno, hfirst⟩ := hstored e List.mem_cons_self
    obtain ⟨slot, hslot, rfl⟩ := Option.map_eq_some_iff.mp hfirst
    obtain ⟨t, mid, hentry, heffect, hrun⟩ := c.replayEntry_effect hslot hno
    have hkept : ∀ e' ∈ rest, e'.replayed = false ∧ mid.store.stored? e'.id = some e' := by
      intro e' he'
      have hne : e'.id ∉ [t].map (·.entry.id) := by
        rw [List.map_singleton, List.mem_singleton, hentry]
        exact fun heq => hnodup.1 (heq ▸ List.mem_map_of_mem he')
      obtain ⟨hno', hstored'⟩ := hstored e' (List.mem_cons_of_mem _ he')
      exact ⟨hno', by rwa [MemoryStore.stored?, heffect.others _ hne]⟩
    obtain ⟨turns, last, hentries, hrest, hrunRest⟩ := ih hnodup.2 hkept
    refine ⟨t :: turns, last, ?_, heffect.append hrest ?_, ?_⟩
    · rw [List.map_cons, hentry, hentries]
    · rw [List.singleton_append, List.map_cons, List.nodup_cons, hentry]
      have hids : turns.map (·.entry.id) = rest.map (·.id) := by
        rw [← hentries, List.map_map]
        rfl
      exact hids ▸ hnodup
    · unfold DeadLetterQueue.replayAll
      rw [ExceptT.bind_run, hrun]
      dsimp only
      rw [ExceptT.bind_run, hrunRest, List.countP_cons]
      cases t.isReplayed <;> rfl

theorem replayBatch_run (hf : f.replayed ≠ some true) (p : BatchProgress) :
    (c.queue.replayBatch f).run p = (c.queue.replayAll c.handle (p.store.pending f)).run
      (c.asked p (.query { f with replayed := some false })) := by
  have hquery : p.store.pending f = (MemoryStore.serve (c.reading p)
      (.query { f with replayed := some false }) p.store : List Entry × MemoryStore).1 :=
    MemoryStore.pending_eq hf p.store
  rw [hquery]
  unfold DeadLetterQueue.replayBatch
  rw [ExceptT.bind_run]
  show ((if f.replayed = some true then _ else _ :
    ExceptT DeadLetterError (StateM BatchProgress) Nat)).run p = _
  rw [if_neg hf]
  rfl

end AllTurns

end Circumstances

/-! ### The whole batch -/

/-- The exact effect of a batch, turn by turn. -/
structure BatchEffect (c : Circumstances) (f : Filter) (p last : BatchProgress)
    (turns : List BatchTurn) : Prop where
  -- Each dead letter of the window has its turn, and nothing else is asked or handed out.
  window : turns.map (·.entry) = p.store.pending f
  requests : ∃ now, last.requests = p.requests ++
    (now, .query { f with replayed := some false }) :: turns.flatMap (·.requests)
  handed : last.handed = p.handed ++ turns.flatMap (·.handed)
  -- What is said of a handover is what its handler said.
  fared : ∀ n, p.handed.length ≤ n → ∀ x, last.handed[n]? = some x → x.2 = (c.handling n).2
  -- A dead letter is passed over if it is under a claim that is young when it is reached.
  reached : ∀ t ∈ turns, p.clock ≤ t.reading
  skipped : ∀ t ∈ turns, t.fate = .skipped ↔
    ∃ slot ∈ p.store.slots, slot.entry = t.entry ∧ slot.isClaimed p.store.lease t.reading = true
  -- What becomes of a dead letter and the claim on it.
  kept : ∀ t ∈ turns, t.fate = .skipped →
    last.store.find? t.entry.id = p.store.find? t.entry.id
  marked : ∀ t ∈ turns, ∀ ended time, t.fate = .replayed ended time →
    last.store.find? t.entry.id = some ⟨t.entry.markReplayed time, none⟩
  givenBack : ∀ t ∈ turns, ∀ ended, t.fate = .failed ended →
    last.store.find? t.entry.id = some ⟨t.entry, none⟩ ∧ ∀ now, last.store.Won t.entry.id now
  outside : ∀ slot ∈ p.store.slots, slot.entry ∉ p.store.pending f → slot ∈ last.store.slots
  ids : last.store.slots.map (·.entry.id) = p.store.slots.map (·.entry.id)

theorem BatchTurn.countP_handed (turns : List BatchTurn) :
    (turns.flatMap (·.handed)).countP (·.2) = turns.countP (·.isReplayed) := by
  induction turns with
  | nil => rfl
  | cons t rest ih =>
    rw [List.flatMap_cons, List.countP_append, List.countP_cons, ih, Nat.add_comm]
    congr 1
    unfold handed isReplayed
    cases t.fate <;> rfl

namespace Circumstances

open MemoryStore (letter)

variable {c : Circumstances} {f : Filter} {p last : BatchProgress} {turns : List BatchTurn}

theorem Effect.batch
    (h : c.Effect (c.asked p (.query { f with replayed := some false })) last turns)
    (hdistinct : p.store.Distinct) (hf : f.replayed ≠ some true)
    (hentries : turns.map (·.entry) = p.store.pending f) :
    BatchEffect c f p last turns := by
  have hstored : ∀ t ∈ turns, t.entry.replayed = false ∧ ∃ slot ∈ p.store.slots,
      p.store.find? t.entry.id = some slot ∧ slot.entry = t.entry := by
    intro t ht
    have hin : t.entry ∈ p.store.pending f := hentries ▸ List.mem_map_of_mem ht
    obtain ⟨hno, hstored⟩ := MemoryStore.stored_of_pending hdistinct hf hin
    obtain ⟨slot, hslot, hentry⟩ := Option.map_eq_some_iff.mp hstored
    exact ⟨hno, slot, List.mem_of_find?_eq_some hslot, hslot, hentry⟩
  have hsettled : ∀ t ∈ turns, ∃ slot, p.store.find? t.entry.id = some slot ∧
      slot.entry = t.entry ∧ last.store.find? t.entry.id = some (t.settle slot) := by
    intro t ht
    obtain ⟨-, slot, -, hslot, hentry⟩ := hstored t ht
    refine ⟨slot, hslot, hentry, ?_⟩
    rw [h.settled t ht, show (c.asked p _).store = p.store from rfl, hslot]
    rfl
  refine ⟨hentries, ?_, h.handed, h.fared, ?_, ?_, ?_, ?_, ?_, ?_, h.ids⟩
  · refine ⟨c.reading p, h.requests.trans ?_⟩
    exact List.append_assoc p.requests _ _
  · exact fun t ht => Nat.le_trans (Nat.le_add_right _ _) (h.reached t ht)
  · intro t ht
    obtain ⟨-, slot, hmem, hslot, hentry⟩ := hstored t ht
    rw [h.skipped t ht, show (c.asked p _).store = p.store from rfl, hslot]
    constructor
    · rintro ⟨slot', ⟨⟩, hclaimed⟩
      exact ⟨slot, hmem, hentry, hclaimed⟩
    · rintro ⟨slot', hmem', hentry', hclaimed⟩
      have hsame := MemoryStore.find?_of_mem hdistinct hmem'
      rw [hentry', hslot] at hsame
      exact ⟨slot', hsame, hclaimed⟩
  · intro t ht hfate
    obtain ⟨slot, hslot, -, hlast⟩ := hsettled t ht
    rw [hlast, hslot, BatchTurn.settle, hfate]
  · intro t ht ended time hfate
    obtain ⟨slot, -, hentry, hlast⟩ := hsettled t ht
    rw [hlast, BatchTurn.settle, hfate, ← hentry]
  · intro t ht ended hfate
    obtain ⟨slot, -, hentry, hlast⟩ := hsettled t ht
    rw [BatchTurn.settle, hfate, hentry] at hlast
    exact ⟨hlast, fun now => MemoryStore.won_iff.mpr ⟨_, hlast, (hstored t ht).1, rfl⟩⟩
  · intro slot hslot hout
    have hno : slot.entry.id ∉ turns.map (·.entry.id) := by
      intro hin
      obtain ⟨t, ht, hid⟩ := List.mem_map.mp hin
      obtain ⟨slot', hslot', hentry, -⟩ := hsettled t ht
      rw [hid, MemoryStore.find?_of_mem hdistinct hslot] at hslot'
      cases hslot'
      exact hout (hentries ▸ hentry ▸ List.mem_map_of_mem ht)
    have hsame : last.store.find? slot.entry.id = some slot :=
      (h.others _ hno).trans (MemoryStore.find?_of_mem hdistinct hslot)
    exact List.mem_of_find?_eq_some hsame

theorem isClaimed_mono {slot : Slot} {lease : Duration} {now later : Instant} (h : now ≤ later)
    (hclaimed : slot.isClaimed lease later = true) : slot.isClaimed lease now = true := by
  unfold Slot.isClaimed at hclaimed ⊢
  cases hstart : slot.claimedAt with
  | none => simp [hstart] at hclaimed
  | some start =>
    have hyoung : later - start < lease := by simpa [hstart] using hclaimed
    simpa using Nat.lt_of_le_of_lt (Nat.sub_le_sub_right h start) hyoung

/-- When there are no pages and no claims and all goes well, a batch leaves nothing to be done. -/
theorem pending_eq_nil (h : BatchEffect c f p last turns) (hdistinct : p.store.Distinct)
    (hskip : f.skip = 0) (hlimit : f.limit = none)
    (hfree : ∀ slot ∈ p.store.slots, slot.isClaimed p.store.lease p.clock = false)
    (hwell : ∀ n, (c.handling n).2 = true) : last.store.pending f = [] := by
  have hlast : last.store.Distinct := by
    rw [MemoryStore.Distinct, h.ids]
    exact hdistinct
  have hreplayed : ∀ t ∈ turns, ∃ ended time, t.fate = .replayed ended time := by
    intro t ht
    cases hfate : t.fate with
    | replayed ended time => exact ⟨ended, time, rfl⟩
    | skipped =>
      obtain ⟨slot, hslot, -, hclaimed⟩ := (h.skipped t ht).mp hfate
      have hyoung := isClaimed_mono (h.reached t ht) hclaimed
      cases (hfree slot hslot).symm.trans hyoung
    | failed ended =>
      have hin : (t.entry.toMessage, false) ∈ turns.flatMap (·.handed) :=
        List.mem_flatMap.mpr ⟨t, ht, by simp [BatchTurn.handed, hfate]⟩
      obtain ⟨n, hn⟩ := List.getElem?_of_mem hin
      have hfared := h.fared (p.handed.length + n) (Nat.le_add_right _ _) (t.entry.toMessage, false)
        (by rw [h.handed, List.getElem?_append_right (Nat.le_add_right _ _),
          Nat.add_sub_cancel_left, hn])
      cases hfared.trans (hwell _)
  apply List.eq_nil_iff_forall_not_mem.mpr
  intro e he
  obtain ⟨⟨slot, hslot, rfl⟩, hno, haccepts⟩ :=
    (MemoryStore.mem_pending_of_unpaginated hskip hlimit).mp he
  have hfind := MemoryStore.find?_of_mem hlast hslot
  obtain ⟨old, hold, hid⟩ : ∃ old ∈ p.store.slots, old.entry.id = slot.entry.id := by
    have hin : slot.entry.id ∈ last.store.slots.map (·.entry.id) := List.mem_map_of_mem hslot
    rw [h.ids] at hin
    exact List.mem_map.mp hin
  by_cases hpending : old.entry ∈ p.store.pending f
  · rw [← h.window] at hpending
    obtain ⟨t, ht, hentry⟩ := List.mem_map.mp hpending
    obtain ⟨ended, time, hfate⟩ := hreplayed t ht
    have hmarked := h.marked t ht ended time hfate
    rw [hentry, hid, hfind] at hmarked
    cases hmarked
    cases hno
  · -- what was outside is as it was, and so was replayed or not accepted before
    have hkept := MemoryStore.find?_of_mem hlast (h.outside old hold hpending)
    rw [hid, hfind] at hkept
    cases hkept
    exact hpending ((MemoryStore.mem_pending_of_unpaginated hskip hlimit).mpr
      ⟨⟨slot, hold, rfl⟩, hno, haccepts⟩)

/-- Whatever is stored, whenever claims of others expire and however the handler fares, a batch
hands out the dead letters of its window that are not claimed, each once and in order, marks those
that go well, gives back the others and leaves everything else as it is. -/
theorem replayBatch_effect (c : Circumstances) (f : Filter) (p : BatchProgress)
    (hdistinct : p.store.Distinct) (hf : f.replayed ≠ some true) :
    ∃ last turns,
      (c.queue.replayBatch f).run p = (.ok ((turns.flatMap (·.handed)).countP (·.2)), last) ∧
      BatchEffect c f p last turns ∧
      (f.skip = 0 → f.limit = none →
        (∀ slot ∈ p.store.slots, slot.isClaimed p.store.lease p.clock = false) →
        (∀ n, (c.handling n).2 = true) → ∀ (c' : Circumstances) (now : Instant), ∃ final,
          (c'.queue.replayBatch f).run { last with clock := now } = (.ok 0, final) ∧
            final.handed = last.handed) := by
  have hnodup := MemoryStore.nodup_pending hdistinct hf
  obtain ⟨turns, last, hentries, heffect, hrun⟩ :=
    c.replayAll_effect (p := c.asked p (.query { f with replayed := some false }))
      (p.store.pending f) hnodup fun e he => MemoryStore.stored_of_pending hdistinct hf he
  have hbatch := heffect.batch hdistinct hf hentries
  refine ⟨last, turns, ?_, hbatch, ?_⟩
  · rw [c.replayBatch_run hf, hrun, BatchTurn.countP_handed]
  · intro hskip hlimit hfree hwell c' now
    have hnone : last.store.pending f = [] :=
      pending_eq_nil hbatch hdistinct hskip hlimit hfree hwell
    refine ⟨c'.asked { last with clock := now } (.query { f with replayed := some false }), ?_, rfl⟩
    rw [c'.replayBatch_run hf, hnone]
    rfl

/-- The claim on 2 runs out while 1 is with the handler; those on 3 and 6 are too young. -/
def underClaims : MemoryStore where
  slots := [⟨letter 4 40, none⟩, ⟨letter 0 5, none⟩, ⟨letter 2 20, some 7⟩, ⟨letter 1 10, none⟩,
    ⟨(letter 5 50).markReplayed ⟨55, false⟩, none⟩, ⟨letter 3 30, some 10⟩, ⟨letter 6 60, some 9⟩]
  lease := 5

def underClaimsAfter : MemoryStore where
  slots := [⟨letter 4 40, none⟩, ⟨letter 0 5, none⟩,
    ⟨(letter 2 20).markReplayed ⟨14000, false⟩, none⟩,
    ⟨(letter 1 10).markReplayed ⟨12000, false⟩, none⟩,
    ⟨(letter 5 50).markReplayed ⟨55, false⟩, none⟩, ⟨letter 3 30, some 10⟩, ⟨letter 6 60, some 9⟩]
  lease := 5

def fourOfThem : Filter := { skip := 1, limit := some 4 }

/-- The handler has each message for two, and fails with the third one. -/
def thirdFails : Circumstances where
  pause _ := 0
  handling n := (2, decide (n ≠ 2))
  wallClock now := ⟨1000 * now, false⟩

def noneFails : Circumstances := { thirdFails with handling := fun _ => (2, true) }

theorem inOrder_underClaims :
    MemoryStore.inOrder ((underClaims.slots.map (·.entry)).filter fun e =>
        !e.replayed && ({} : Filter).accepts e) =
      [letter 0 5, letter 1 10, letter 2 20, letter 3 30, letter 4 40, letter 6 60] := by
  have hleft : ((underClaims.slots.map (·.entry)).filter fun e =>
      !e.replayed && ({} : Filter).accepts e) =
        [letter 4 40, letter 0 5, letter 2 20, letter 1 10, letter 3 30, letter 6 60] := by decide
  rw [hleft]
  simp [MemoryStore.inOrder, List.mergeSort, List.MergeSort.Internal.splitInTwo, letter,
    Entry.ofMessage]

theorem replayBatch_effect_underClaims :
    underClaims.Distinct ∧ fourOfThem.replayed ≠ some true ∧
      (∃ last turns, (thirdFails.queue.replayBatch fourOfThem).run ⟨10, underClaims, [], []⟩ =
          (.ok 2, last) ∧
        BatchEffect thirdFails fourOfThem ⟨10, underClaims, [], []⟩ last turns ∧
        last.store = underClaimsAfter ∧
        last.handed = [((letter 1 10).toMessage, true), ((letter 2 20).toMessage, true),
          ((letter 4 40).toMessage, false)]) ∧
      ∃ last, (noneFails.queue.replayBatch {}).run ⟨20, underClaims, [], []⟩ = (.ok 6, last) ∧
        ∃ final, (thirdFails.queue.replayBatch {}).run { last with clock := 50 } = (.ok 0, final) ∧
          final.handed = last.handed := by
  have hdistinct : underClaims.Distinct := by decide
  have hfour : underClaims.pending fourOfThem =
      [letter 1 10, letter 2 20, letter 3 30, letter 4 40] :=
    congrArg fourOfThem.window inOrder_underClaims
  have hall : underClaims.pending {} =
      [letter 0 5, letter 1 10, letter 2 20, letter 3 30, letter 4 40, letter 6 60] :=
    congrArg (Filter.window {}) inOrder_underClaims
  refine ⟨hdistinct, nofun, ?_, ?_⟩
  · obtain ⟨last, turns, hrun, heffect, -⟩ := replayBatch_effect thirdFails fourOfThem
      ⟨10, underClaims, [], []⟩ hdistinct nofun
    have hfirst := hrun
    rw [thirdFails.replayBatch_run (f := fourOfThem) nofun, hfour] at hfirst
    obtain ⟨hreply, hlast⟩ := Prod.ext_iff.mp hfirst
    refine ⟨last, turns, hrun.trans (Prod.ext hreply.symm rfl), heffect, ?_, ?_⟩
    · exact congrArg BatchProgress.store hlast.symm
    · exact congrArg BatchProgress.handed hlast.symm
  · obtain ⟨last, turns, hrun, -, hagain⟩ := replayBatch_effect noneFails {}
      ⟨20, underClaims, [], []⟩ hdistinct nofun
    have hfirst := hrun
    rw [noneFails.replayBatch_run (f := {}) nofun, hall] at hfirst
    exact ⟨last, hrun.trans (Prod.ext (congrArg Prod.fst hfirst).symm rfl),
      hagain rfl rfl (by decide) (fun _ => rfl) thirdFails 50⟩

end Circumstances

end Delivery
