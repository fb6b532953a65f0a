import Delivery.Proofs.Delivering.Desk
import Mathlib.Algebra.GroupWithZero.Nat
import Mathlib.Data.List.Nodup

/-!
# No message is lost or handed out twice

The books of a desk balance after every delivery and every replay. Main statement
(`run_conserved`): at a desk that opened with an empty queue, the dead letters are those that the
deliveries say they have left, each is marked by one handover that went well and is not handed out
again, and the replays say how many are marked.
-/

namespace Delivery

variable {listener : Type}

/-! ### Books that balance -/

/-- The message with the attempts that were made of it counted in. -/
def Dispatch.archived (x : Dispatch) : Message :=
  { x.message with attempts := addCounts x.message.attempts x.publications }

/-- What a delivery that ended with a dead letter has left. -/
def Dispatch.letter? (x : Dispatch) : Option (EntryId × Reason × Message) :=
  match x.outcome with
  | .ok (.deadLettered id reason) => some (id, reason, x.archived)
  | _ => none

theorem Dispatch.letter?_eq_none {x : Dispatch}
    (h : ∀ id reason, x.outcome ≠ .ok (.deadLettered id reason)) : x.letter? = none := by
  unfold letter?
  split
  · rename_i id reason houtcome
    exact absurd houtcome (h id reason)
  · rfl

/-- The books balance but for so many dead letters that have been marked since the last reply. -/
structure Books.Balanced (d : Desk) (extra : Nat) (s : Books listener) : Prop where
  letters : s.store.stubs.map Stub.letter = s.dispatches.filterMap Dispatch.letter?
  made : ∀ b ∈ s.store.stubs, ∃ i < s.ids, b.id = d.ids i
  nodup : (s.store.stubs.map (·.id)).Nodup
  handed : ∀ h ∈ s.handovers, ∃ b ∈ s.store.stubs, h.claim = some b.id ∧ h.message = b.message
  wentWell : ∀ b ∈ s.store.stubs,
    s.handovers.countP (fun h => h.claim = some b.id && h.wentWell) = b.replayed.toNat
  last : s.handovers.Pairwise fun h later => h.wentWell = true → later.claim ≠ h.claim
  counted : ∃ counts : List Nat, s.replies = counts.map .ok ∧
    counts.sum + extra = s.store.stubs.countP (·.replayed)

namespace Books.Balanced

variable {d : Desk} {extra : Nat} {s s' : Books listener} {e : Entry} {w : Bool}

theorem eq_of_id (h : s.Balanced d extra) {b b' : Stub} (hb : b ∈ s.store.stubs)
    (hb' : b' ∈ s.store.stubs) (hid : b.id = b'.id) : b = b' :=
  List.inj_on_of_nodup_map h.nodup hb hb' hid

/-- What has been handed out and went well is marked. -/
theorem marked_of_wentWell (h : s.Balanced d extra) {x : Handover} (hx : x ∈ s.handovers)
    (hwell : x.wentWell = true) {b : Stub} (hb : b ∈ s.store.stubs) (hclaim : x.claim = some b.id) :
    b.replayed = true := by
  have hcount := h.wentWell b hb
  have hpos : 0 < s.handovers.countP (fun h => h.claim = some b.id && h.wentWell) :=
    List.countP_pos_iff.mpr ⟨x, hx, by simp [hclaim, hwell]⟩
  cases hr : b.replayed with
  | true => rfl
  | false =>
    rw [hr] at hcount
    exact absurd hcount (Nat.ne_of_gt hpos)

theorem turn (h : s.Balanced d extra) (ht : Desk.Turn s e w s') (hkept : s.store.Keeps e) :
    s'.Balanced d (extra + w.toNat) := by
  obtain ⟨b₀, hb₀, hid₀, hno₀⟩ := ht.pending
  obtain ⟨b₁, hb₁, hid₁, hmessage₁⟩ := MemoryStore.keeps_iff.mp hkept
  obtain rfl : b₁ = b₀ := h.eq_of_id hb₁ hb₀ (hid₁.trans hid₀.symm)
  exact {
    letters := by
      rw [ht.stubs_eq, ht.dispatches_eq, List.map_map, ← h.letters]
      exact List.map_congr_left fun b _ => Stub.letter_turn
    made := by
      rw [ht.stubs_eq, ht.ids_eq]
      intro b' hb'
      obtain ⟨b, hb, rfl⟩ := List.mem_map.mp hb'
      rw [Stub.id_turn]
      exact h.made b hb
    nodup := by
      have hsame : (s.store.stubs.map (·.turn e.id w)).map (·.id) = s.store.stubs.map (·.id) := by
        rw [List.map_map]
        exact List.map_congr_left fun b _ => Stub.id_turn
      rw [ht.stubs_eq, hsame]
      exact h.nodup
    handed := by
      rw [ht.stubs_eq, ht.handovers_eq]
      intro x hx
      rcases List.mem_append.mp hx with hx | hx
      · obtain ⟨b, hb, hclaim, hmessage⟩ := h.handed x hx
        exact ⟨_, List.mem_map_of_mem hb, by rw [Stub.id_turn, hclaim],
          by rw [Stub.message_turn, hmessage]⟩
      · obtain rfl := List.mem_singleton.mp hx
        exact ⟨_, List.mem_map_of_mem hb₁, by rw [Stub.id_turn, hid₁],
          by rw [Stub.message_turn, hmessage₁]⟩
    wentWell := by
      rw [ht.stubs_eq, ht.handovers_eq]
      intro b' hb'
      obtain ⟨b, hb, rfl⟩ := List.mem_map.mp hb'
      rw [List.countP_append, Stub.id_turn, h.wentWell b hb, List.countP_singleton]
      by_cases hid : b.id = e.id
      · obtain rfl : b = b₁ := h.eq_of_id hb hb₁ (hid.trans hid₁.symm)
        cases w with
        | false => simp
        | true => simp [hid, hno₀, Stub.replayed_turn]
      · rw [Stub.turn_of_ne hid]
        simp [Ne.symm hid]
    last := by
      rw [ht.handovers_eq, List.pairwise_append]
      refine ⟨h.last, List.pairwise_singleton _ _, ?_⟩
      intro x hx later hlater hwell hclaim
      obtain rfl := List.mem_singleton.mp hlater
      have hyes := h.marked_of_wentWell hx hwell hb₁ (by rw [← hclaim, hid₁])
      rw [hno₀] at hyes
      cases hyes
    counted := by
      obtain ⟨counts, hreplies, hsum⟩ := h.counted
      refine ⟨counts, ht.replies_eq.trans hreplies, ?_⟩
      rw [ht.stubs_eq, Stub.countP_turn h.nodup hb₁ hid₁ hno₀, ← hsum]
      omega }

theorem keeps_of_turn (ht : Desk.Turn s e w s') {e' : Entry} (hkept : s.store.Keeps e') :
    s'.store.Keeps e' := by
  obtain ⟨b, hb, hid, hmessage⟩ := MemoryStore.keeps_iff.mp hkept
  refine MemoryStore.keeps_iff.mpr ⟨b.turn e.id w, ?_, ?_, ?_⟩
  · rw [ht.stubs_eq]
    exact List.mem_map_of_mem hb
  · rw [Stub.id_turn, hid]
  · rw [Stub.message_turn, hmessage]

theorem replayEntry (h : s.Balanced d extra) (hkept : s.store.Keeps e) :
    ∃ w s', (d.queue.replayEntry d.handle e).run s = (.ok w, s') ∧
      s'.Balanced d (extra + w.toNat) ∧ ∀ e', s.store.Keeps e' → s'.store.Keeps e' := by
  rcases d.replayEntry_cases s e with hrun | ⟨w, s', hrun, ht⟩
  · exact ⟨false, s, hrun, h, fun _ hkept => hkept⟩
  · exact ⟨w, s', hrun, h.turn ht hkept, fun _ => keeps_of_turn ht⟩

theorem replayAll {entries : List Entry} (h : s.Balanced d extra)
    (hkept : ∀ e ∈ entries, s.store.Keeps e) :
    ∃ n s', (d.queue.replayAll d.handle entries).run s = (.ok n, s') ∧
      s'.Balanced d (extra + n) := by
  induction entries generalizing s extra with
  | nil => exact ⟨0, s, rfl, h⟩
  | cons e rest ih =>
    obtain ⟨w, s₁, hrun, h₁, hkeep⟩ := h.replayEntry (hkept e List.mem_cons_self)
    obtain ⟨n, s₂, hrest, h₂⟩ :=
      ih h₁ fun e' he' => hkeep e' (hkept e' (List.mem_cons_of_mem e he'))
    refine ⟨w.toNat + n, s₂, ?_, by rwa [← Nat.add_assoc]⟩
    unfold DeadLetterQueue.replayAll
    rw [ExceptT.bind_run, hrun]
    dsimp only
    rw [ExceptT.bind_run, hrest]
    cases w with
    | false => exact congrArg (fun k => (Except.ok k, s₂)) (Nat.zero_add n).symm
    | true => exact congrArg (fun k => (Except.ok k, s₂)) (Nat.add_comm n 1)

theorem replay (h : s.Balanced d extra) (id : EntryId) :
    ∃ w s', (d.queue.replay id).run s = (.ok w, s') ∧ s'.Balanced d (extra + w.toNat) := by
  have hget : (d.queue.store.ask (.get id)).run s = (.ok ((s.store.find? id).map (·.entry)), s) :=
    rfl
  have hhandler : (d.queue : DeadLetterQueue (StateM (Books listener))).getHandler.run s =
      (.ok d.handle, s) := rfl
  unfold DeadLetterQueue.replay
  rw [ExceptT.bind_run, hhandler]
  dsimp only
  rw [ExceptT.bind_run, hget]
  dsimp only
  cases hfind : s.store.find? id with
  | none => exact ⟨false, s, rfl, h⟩
  | some slot =>
    cases hr : slot.entry.replayed with
    | true =>
      refine ⟨false, s, ?_, h⟩
      simp only [Option.map_some, hr, if_true]
      rfl
    | false =>
      have hkept : s.store.Keeps slot.entry :=
        MemoryStore.keeps_of_mem (List.mem_of_find?_eq_some hfind)
      obtain ⟨w, s', hrun, h', -⟩ := h.replayEntry hkept
      refine ⟨w, s', ?_, h'⟩
      simp only [Option.map_some, hr, Bool.false_eq_true, if_false]
      exact hrun

theorem replayBatch (h : s.Balanced d extra) (f : Filter) :
    ∃ n s', (d.queue.replayBatch f).run s = (.ok n, s') ∧ s'.Balanced d (extra + n) := by
  have hquery (f : Filter) : (d.queue.store.ask (.query f)).run s =
      (.ok (MemoryStore.serve s.clock (.query f) s.store : List Entry × MemoryStore).1, s) := rfl
  have hhandler : (d.queue : DeadLetterQueue (StateM (Books listener))).getHandler.run s =
      (.ok d.handle, s) := rfl
  unfold DeadLetterQueue.replayBatch
  rw [ExceptT.bind_run, hhandler]
  dsimp only
  by_cases hnone : f.replayed = some true
  · rw [if_pos hnone]
    exact ⟨0, s, rfl, h⟩
  · rw [if_neg hnone, ExceptT.bind_run, hquery]
    exact h.replayAll fun e he => MemoryStore.keeps_of_query he

/-- A reply says how many dead letters have been marked for it. -/
theorem reply {n : Nat} (h : s.Balanced d n) :
    ({ s with replies := s.replies ++ [.ok n] } : Books listener).Balanced d 0 := by
  obtain ⟨counts, hreplies, hsum⟩ := h.counted
  refine { h with counted := ⟨counts ++ [n], ?_, ?_⟩ }
  · rw [List.map_append, ← hreplies]
    rfl
  · rw [List.sum_append, List.sum_singleton, Nat.add_zero]
    exact hsum

theorem lettered (h : s.Balanced d extra) (hids : Function.Injective d.ids) {b : Stub}
    {x : Dispatch} (hid : b.id = d.ids s.ids) (hno : b.replayed = false)
    (hx : x.letter? = some b.letter) (hstubs : s'.store.stubs = s.store.stubs ++ [b])
    (hmade : s'.ids = s.ids + 1) (hdispatches : s'.dispatches = s.dispatches ++ [x])
    (hhandovers : s'.handovers = s.handovers) (hreplies : s'.replies = s.replies) :
    s'.Balanced d extra := by
  have hfresh : ∀ b' ∈ s.store.stubs, b'.id ≠ b.id := by
    intro b' hb' heq
    obtain ⟨i, hi, hid'⟩ := h.made b' hb'
    have hsame : i = s.ids := hids (hid'.symm.trans (heq.trans hid))
    exact Nat.ne_of_lt hi hsame
  exact {
    letters := by
      rw [hstubs, hdispatches, List.map_append, List.filterMap_append, h.letters]
      simp [hx]
    made := by
      rw [hstubs, hmade]
      intro b' hb'
      rcases List.mem_append.mp hb' with hb' | hb'
      · obtain ⟨i, hi, hid'⟩ := h.made b' hb'
        exact ⟨i, Nat.lt_succ_of_lt hi, hid'⟩
      · obtain rfl := List.mem_singleton.mp hb'
        exact ⟨s.ids, Nat.lt_succ_self _, hid⟩
    nodup := by
      rw [hstubs, List.map_append, List.nodup_append]
      refine ⟨h.nodup, List.nodup_singleton _, ?_⟩
      intro id hmem id' hmem'
      obtain ⟨b', hb', rfl⟩ := List.mem_map.mp hmem
      obtain rfl := List.mem_singleton.mp hmem'
      exact hfresh b' hb'
    handed := by
      rw [hstubs, hhandovers]
      intro y hy
      obtain ⟨b', hb', hboth⟩ := h.handed y hy
      exact ⟨b', List.mem_append_left _ hb', hboth⟩
    wentWell := by
      rw [hstubs, hhandovers]
      intro b' hb'
      rcases List.mem_append.mp hb' with hb' | hb'
      · exact h.wentWell b' hb'
      · obtain rfl := List.mem_singleton.mp hb'
        rw [hno]
        refine List.countP_eq_zero.mpr fun y hy hclaim => ?_
        obtain ⟨b₁, hb₁, hown, -⟩ := h.handed y hy
        rw [hown] at hclaim
        simp only [Option.some.injEq, Bool.and_eq_true, decide_eq_true_eq] at hclaim
        exact hfresh b₁ hb₁ hclaim.1
    last := by
      rw [hhandovers]
      exact h.last
    counted := by
      obtain ⟨counts, hcounts, hsum⟩ := h.counted
      refine ⟨counts, hreplies.trans hcounts, ?_⟩
      rw [hstubs, List.countP_append, hsum, List.countP_singleton, hno]
      rfl }

theorem unlettered (h : s.Balanced d extra) {x : Dispatch} (hx : x.letter? = none)
    (hstore : s'.store = s.store) (hmade : s'.ids = s.ids)
    (hdispatches : s'.dispatches = s.dispatches ++ [x])
    (hhandovers : s'.handovers = s.handovers) (hreplies : s'.replies = s.replies) :
    s'.Balanced d extra where
  letters := by
    rw [hstore, hdispatches, List.filterMap_append, h.letters]
    simp [hx]
  made := by
    rw [hstore, hmade]
    exact h.made
  nodup := hstore ▸ h.nodup
  handed := by
    rw [hstore, hhandovers]
    exact h.handed
  wentWell := by
    rw [hstore, hhandovers]
    exact h.wentWell
  last := hhandovers ▸ h.last
  counted := by
    rw [hstore, hreplies]
    exact h.counted

/-- A delivery adds the dead letter that it says it leaves, under an id of its own. -/
theorem deliver (h : s.Balanced d extra) (hids : Function.Injective d.ids)
    (plan : DeliveryPlan listener) : (d.deliver plan s).Balanced d extra := by
  have hstored := (d.planned s plan).run_stored s.registry s.store
  unfold Desk.deliver
  generalize (d.planned s plan).run s.registry s.store = x at hstored ⊢
  obtain ⟨outcome, last⟩ := x
  rcases hstored with ⟨reason, failure, houtcome, hmade, hstore⟩ | ⟨hno, hmade, hstore⟩
  · have hfresh : ∀ slot ∈ s.store.slots, slot.entry.id ≠ d.ids s.ids := by
      intro slot hslot heq
      obtain ⟨i, hi, hid⟩ := h.made slot.stub (List.mem_map_of_mem hslot)
      exact Nat.ne_of_lt hi (hids (hid.symm.trans heq))
    refine h.lettered hids (b := Slot.stub ⟨(d.planned s plan).letter (d.ids s.ids) reason failure
        last.rest.publications last.clock, none⟩)
      (x := ⟨plan.message, outcome, last.rest.publications⟩)
      rfl rfl ?_ ?_ (congrArg (s.ids + ·) hmade) rfl rfl rfl
    · obtain rfl : outcome = _ := houtcome
      rfl
    · show MemoryStore.stubs last.rest.store = _
      rw [hstore, MemoryStore.stubs, MemoryStore.insertSlot_eq_append hfresh, List.map_append]
      rfl
  · exact h.unlettered (x := ⟨plan.message, _, _⟩) (Dispatch.letter?_eq_none hno) hstore
      (congrArg (s.ids + ·) hmade) rfl rfl rfl

theorem perform (h : s.Balanced d 0) (hids : Function.Injective d.ids)
    (act : DeskAct listener) : (d.perform s act).Balanced d 0 := by
  cases act with
  | deliver plan => exact h.deliver hids plan
  | replay id =>
    obtain ⟨w, s', hrun, h'⟩ := h.replay id
    rw [Nat.zero_add] at h'
    simp only [Desk.perform, hrun]
    exact h'.reply
  | replayBatch f =>
    obtain ⟨n, s', hrun, h'⟩ := h.replayBatch f
    rw [Nat.zero_add] at h'
    simp only [Desk.perform, hrun]
    exact h'.reply
  | get id => exact h
  | list f => exact h
  | count f => exact h
  | countByReason =>
    rw [Desk.perform, Desk.countByReason_run]
    exact h
  | wait t => exact { h with }

end Books.Balanced

/-! ### Conservation -/

/-- A message without the count of its attempts. -/
def Message.body (m : Message) : Message := { m with attempts := 0 }

/-- What becomes of the messages that were delivered at a desk. -/
structure Books.Conserved (s : Books listener) : Prop where
  -- The dead letters are those that the deliveries say they have left, one each.
  letters : s.store.slots.map (fun slot =>
    (slot.entry.id, slot.entry.reason, slot.entry.toMessage)) = s.dispatches.filterMap (·.letter?)
  distinct : (s.store.slots.map (·.entry.id)).Nodup
  -- What is handed out is the message of a delivery that left a dead letter, but for the attempts.
  handed : ∀ h ∈ s.handovers, ∃ x ∈ s.dispatches, ∃ id reason,
    x.outcome = .ok (.deadLettered id reason) ∧ h.claim = some id ∧ h.message = x.archived
  -- A message that became no dead letter and is like none that did is neither kept nor handed out.
  spared : ∀ x ∈ s.dispatches, (∀ y ∈ s.dispatches, y.letter? ≠ none →
      y.message.body ≠ x.message.body) →
    (∀ slot ∈ s.store.slots, slot.entry.toMessage.body ≠ x.message.body) ∧
      ∀ h ∈ s.handovers, h.message.body ≠ x.message.body
  wentWell : ∀ slot ∈ s.store.slots,
    s.handovers.countP (fun h => h.claim = some slot.entry.id && h.wentWell) =
      if slot.entry.replayed then 1 else 0
  last : s.handovers.Pairwise fun h later => h.wentWell = true → later.claim ≠ h.claim
  -- No replay fails, and together they say how many dead letters are marked as replayed.
  counted : ∃ counts : List Nat, s.replies = counts.map .ok ∧
    counts.sum = s.store.slots.countP (·.entry.replayed)

namespace Books.Balanced

variable {d : Desk} {s : Books listener}

theorem run (h : s.Balanced d 0) (hids : Function.Injective d.ids)
    (acts : List (DeskAct listener)) : (d.run acts s).Balanced d 0 := by
  induction acts generalizing s with
  | nil => exact h
  | cons act rest ih => exact ih (h.perform hids act)

theorem opening (d : Desk) (clock : Instant) (registry : Registry listener) (lease : Duration) :
    ({ clock, registry, store := { lease } } : Books listener).Balanced d 0 where
  letters := rfl
  made _ hb := by cases hb
  nodup := List.nodup_nil
  handed _ hx := by cases hx
  wentWell _ hb := by cases hb
  last := List.Pairwise.nil
  counted := ⟨[], rfl, rfl⟩

/-- Every dead letter is that of a delivery, with its message. -/
theorem origin (h : s.Balanced d 0) {b : Stub} (hb : b ∈ s.store.stubs) :
    ∃ x ∈ s.dispatches, x.outcome = .ok (.deadLettered b.id b.reason) ∧ b.message = x.archived := by
  have hmem : b.letter ∈ s.dispatches.filterMap Dispatch.letter? := by
    rw [← h.letters]
    exact List.mem_map_of_mem hb
  obtain ⟨x, hx, hletter⟩ := List.mem_filterMap.mp hmem
  refine ⟨x, hx, ?_⟩
  unfold Dispatch.letter? at hletter
  split at hletter
  · rename_i id reason houtcome
    simp only [Option.some.injEq, Stub.letter, Prod.mk.injEq] at hletter
    obtain ⟨rfl, rfl, harchived⟩ := hletter
    exact ⟨houtcome, harchived.symm⟩
  · cases hletter

theorem conserved (h : s.Balanced d 0) : s.Conserved where
  letters := by
    rw [← h.letters, MemoryStore.stubs, List.map_map]
    rfl
  distinct := by
    have hids := h.nodup
    rw [MemoryStore.stubs, List.map_map] at hids
    exact hids
  handed := by
    intro x hx
    obtain ⟨b, hb, hclaim, hmessage⟩ := h.handed x hx
    obtain ⟨y, hy, houtcome, harchived⟩ := h.origin hb
    exact ⟨y, hy, b.id, b.reason, houtcome, hclaim, hmessage.trans harchived⟩
  spared := by
    intro x hx hapart
    have hstub (b : Stub) (hb : b ∈ s.store.stubs) : b.message.body ≠ x.message.body := by
      obtain ⟨y, hy, houtcome, harchived⟩ := h.origin hb
      rw [harchived]
      exact hapart y hy (by simp [Dispatch.letter?, houtcome])
    refine ⟨fun slot hslot => hstub slot.stub (List.mem_map_of_mem hslot), fun y hy => ?_⟩
    obtain ⟨b, hb, -, hmessage⟩ := h.handed y hy
    rw [hmessage]
    exact hstub b hb
  wentWell := by
    intro slot hslot
    refine (h.wentWell slot.stub (List.mem_map_of_mem hslot)).trans ?_
    show slot.entry.replayed.toNat = _
    cases slot.entry.replayed <;> rfl
  last := h.last
  counted := by
    obtain ⟨counts, hreplies, hsum⟩ := h.counted
    refine ⟨counts, hreplies, hsum.trans ?_⟩
    rw [MemoryStore.stubs, List.countP_map]
    rfl

end Books.Balanced

namespace Desk

/-- Whatever is delivered, replayed and asked at a desk that opens with an empty queue, whatever
becomes of publications and handovers: no message is lost, none is handed out that was delivered,
and none is handed out again once that went well. -/
theorem run_conserved (d : Desk) (hids : Function.Injective d.ids) (clock : Instant)
    (registry : Registry listener) (lease : Duration) (acts : List (DeskAct listener)) :
    (d.run acts { clock, registry, store := { lease } }).Conserved :=
  ((Books.Balanced.opening d clock registry lease).run hids acts).conserved

/-- The first handover fails, all others go well. -/
def smallDesk : Desk where
  retry := .once
  ids i := ⟨i⟩
  wallClock now := { nanos := (now : Nat) }
  handling n := (7, n ≠ 0)

def publishing (messageType : String) (result : Except TransportError Unit) :
    DeliveryPlan Unit where
  retry := .once
  transport := "orders"
  message := { messageType, attempts := 3 }
  publication _ := { lasts := 5, result }
  chance _ := .two
  ids i := ⟨i⟩
  wallClock now := { nanos := (now : Nat) }

/-- Two messages become dead letters and one is delivered. The one whose handover failed goes well
when it is replayed again. -/
def smallRun : List (DeskAct Unit) :=
  [.deliver (publishing "order.placed" (.error ⟨.transient, "down", none⟩)),
   .deliver (publishing "order.paid" (.ok ())),
   .deliver (publishing "order.sent" (.error ⟨.poison, "odd", none⟩)),
   .replay ⟨0⟩, .countByReason, .replay ⟨1⟩, .replay ⟨0⟩, .replay ⟨0⟩,
   .replayBatch { replayed := some true }]

theorem run_conserved_twoLetters :
    Function.Injective smallDesk.ids ∧ (smallDesk.run smallRun {}).Conserved ∧
      (smallDesk.run smallRun {}).replies = [.ok 0, .ok 1, .ok 1, .ok 0, .ok 0] ∧
      (smallDesk.run smallRun {}).handovers =
        [⟨some ⟨0⟩, { messageType := "order.placed", attempts := 4 }, false⟩,
         ⟨some ⟨1⟩, { messageType := "order.sent", attempts := 4 }, true⟩,
         ⟨some ⟨0⟩, { messageType := "order.placed", attempts := 4 }, true⟩] := by
  have hids : Function.Injective smallDesk.ids := fun i j h => congrArg EntryId.value h
  exact ⟨hids, run_conserved smallDesk hids 0 {} StoreRequest.defaultLease smallRun,
    by decide +kernel, by decide +kernel⟩

end Desk

end Delivery
