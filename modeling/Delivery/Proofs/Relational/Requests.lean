import Delivery.Proofs.DeadLetter.Lifetime
import Delivery.Proofs.Relational.Commands

/-!
# Requests to a database

The database answers a request as a store in memory does, if its table has the records of the slots,
and its table has the records of the slots afterwards. The one exception is a claim that is asked
for exactly a lease after the last one: a store in memory grants it, and the database refuses it.
-/

namespace Delivery

/-! ### Slots that a table can hold -/

/-- The record of a slot shows its dead letter, and only a dead letter that is not replayed is under
a claim. The claim was taken before. -/
structure Slot.IsShown (start : Int) (now : Instant) (s : Slot) : Prop where
  storable : s.entry.Storable
  attempts : s.entry.attempts ≤ Value.smallLimit
  unclaimed : s.entry.replayed = true → s.claimedAt = none
  claimed : ∀ t, s.claimedAt = some t →
    t ≤ now ∧ (Timestamp.ofClock start t).inCalendar = true

structure MemoryStore.IsShown (start : Int) (now : Instant) (ids : List EntryId)
    (m : MemoryStore) : Prop where
  nodup : (m.slots.map (·.entry.id)).Nodup
  known : ∀ s ∈ m.slots, s.entry.id ∈ ids
  shown : ∀ s ∈ m.slots, s.IsShown start now

/-- The table with the record of each slot. -/
def MemoryStore.table (start : Int) (m : MemoryStore) : Records := m.slots.map (Slot.record start)

/-- A request that both stores take: dead letters as they can be stored, ids of 128 bits and times
in whole microseconds. It is none that selects with a filter. -/
def StoreRequest.Portable : StoreRequest → Prop
  | .insert e => e.Storable ∧ e.attempts ≤ Value.smallLimit
  | .get id | .tryClaim id | .release id => id.value < EntryId.limit
  | .markReplayed id time => id.value < EntryId.limit ∧ time.IsWhole
  | .purge cutoff _ => cutoff.IsWhole
  | .query _ | .count _ => False

namespace MemoryStore.IsShown

variable {m : MemoryStore} {start : Int} {now : Instant} {ids : List EntryId} {id : EntryId}

theorem mono (h : m.IsShown start now ids) {later : Instant} (hle : now ≤ later) :
    m.IsShown start later ids where
  nodup := h.nodup
  known := h.known
  shown s hs :=
    { h.shown s hs with
      claimed := fun t ht =>
        ⟨Nat.le_trans ((h.shown s hs).claimed t ht).1 hle, ((h.shown s hs).claimed t ht).2⟩ }

theorem update {change : Slot → Slot} (h : m.IsShown start now ids)
    (hid : ∀ s, (change s).entry.id = s.entry.id)
    (hchange : ∀ s ∈ m.slots, s.entry.id = id → (change s).IsShown start now) :
    (m.update id change).IsShown start now ids := by
  have hsame (s : Slot) : (if s.entry.id = id then change s else s).entry.id = s.entry.id := by
    split
    · exact hid s
    · rfl
  have hids : (m.update id change).slots.map (·.entry.id) = m.slots.map (·.entry.id) := by
    rw [MemoryStore.update, List.map_map]
    exact List.map_congr_left fun s _ => hsame s
  refine ⟨hids ▸ h.nodup, ?_, ?_⟩
  · intro s hs
    obtain ⟨old, hold, rfl⟩ := List.mem_map.mp hs
    exact (hsame old).symm ▸ h.known old hold
  · intro s hs
    obtain ⟨old, hold, rfl⟩ := List.mem_map.mp hs
    split
    · rename_i heq
      exact hchange old hold heq
    · exact h.shown old hold

theorem insert (h : m.IsShown start now ids) {e : Entry} (he : e.Storable)
    (hattempts : e.attempts ≤ Value.smallLimit) (hnew : e.id ∉ ids) :
    (serve now (.insert e) m).2.IsShown start now (ids ++ [e.id]) := by
  have hslots : (serve now (.insert e) m).2.slots = m.slots ++ [⟨e, none⟩] :=
    insertSlot_eq_append fun s hs heq => hnew (heq ▸ h.known s hs)
  have hfresh : e.id ∉ m.slots.map (·.entry.id) := by
    intro hmem
    obtain ⟨s, hs, heq⟩ := List.mem_map.mp hmem
    exact hnew (heq ▸ h.known s hs)
  refine ⟨?_, ?_, ?_⟩
  · rw [hslots, List.map_append, List.map_singleton]
    exact List.nodup_append.mpr ⟨h.nodup, List.nodup_singleton _, fun a ha b hb hab =>
      hfresh (List.mem_singleton.mp hb ▸ hab ▸ ha)⟩
  · rw [hslots]
    intro s hs
    rcases List.mem_append.mp hs with hs | hs
    · exact List.mem_append_left _ (h.known s hs)
    · rw [List.mem_singleton.mp hs]
      exact List.mem_append_right _ List.mem_cons_self
  · rw [hslots]
    intro s hs
    rcases List.mem_append.mp hs with hs | hs
    · exact h.shown s hs
    · rw [List.mem_singleton.mp hs]
      exact ⟨he, hattempts, fun _ => rfl, nofun⟩

theorem tryClaim (h : m.IsShown start now ids)
    (hnow : (Timestamp.ofClock start now).inCalendar = true) :
    (serve now (.tryClaim id) m).2.IsShown start now ids := by
  rw [serve_tryClaim]
  split
  · rename_i hfree
    have hwon : m.Won id now := by rw [Won, serve_tryClaim, if_pos hfree]
    refine h.update (fun _ => rfl) fun s hs hid => ?_
    obtain ⟨free, hfind, hno, -⟩ := won_iff.mp hwon
    rw [← hid, find?_of_mem h.nodup hs] at hfind
    obtain rfl := Option.some.inj hfind
    have hshown := h.shown s hs
    refine ⟨hshown.storable, hshown.attempts, fun hyes => ?_, fun t ht => ?_⟩
    · cases hno.symm.trans hyes
    · cases ht
      exact ⟨Nat.le_refl _, hnow⟩
  · exact h

theorem markReplayed (h : m.IsShown start now ids) {time : Timestamp} (htime : time.IsWhole) :
    (serve now (.markReplayed id time) m).2.IsShown start now ids := by
  refine h.update (id_markReplayed time) fun s hs _ => ?_
  have hshown := h.shown s hs
  unfold Slot.markReplayed
  split
  · exact ⟨hshown.storable, hshown.attempts, fun _ => rfl, nofun⟩
  · refine ⟨⟨hshown.storable.id, hshown.storable.enqueuedAt, fun t ht => ?_⟩, hshown.attempts,
      fun _ => rfl, nofun⟩
    cases ht
    exact htime

theorem release (h : m.IsShown start now ids) :
    (serve now (.release id) m).2.IsShown start now ids := by
  refine h.update (fun _ => rfl) fun s hs _ => ?_
  have hshown := h.shown s hs
  exact ⟨hshown.storable, hshown.attempts, fun _ => rfl, nofun⟩

theorem purge (h : m.IsShown start now ids) (cutoff : Timestamp) (replayedOnly : Bool) :
    (serve now (.purge cutoff replayedOnly) m).2.IsShown start now ids := by
  have hsub : (m.slots.filter (!·.isDue cutoff replayedOnly)).Sublist m.slots :=
    List.filter_sublist
  exact ⟨h.nodup.sublist (hsub.map _), fun s hs => h.known s (hsub.subset hs),
    fun s hs => h.shown s (hsub.subset hs)⟩

/-- Every request leaves a store that a table can show. -/
theorem next (h : m.IsShown start now ids) {q : StoreRequest} (hq : q.Portable)
    (hnew : ∀ id, q.insertedId? = some id → id ∉ ids)
    (hnow : (Timestamp.ofClock start now).inCalendar = true) :
    (serve now q m).2.IsShown start now (ids ++ q.insertedId?.toList) := by
  cases q with
  | insert e => exact h.insert hq.1 hq.2 (hnew e.id rfl)
  | query f => exact hq.elim
  | count f => exact hq.elim
  | get id => exact (List.append_nil ids).symm ▸ h
  | tryClaim id => exact (List.append_nil ids).symm ▸ h.tryClaim hnow
  | markReplayed id time => exact (List.append_nil ids).symm ▸ h.markReplayed hq.2
  | release id => exact (List.append_nil ids).symm ▸ h.release
  | purge cutoff replayedOnly => exact (List.append_nil ids).symm ▸ h.purge cutoff replayedOnly

end MemoryStore.IsShown

namespace RelationalStore

open Statement

variable {s : RelationalStore} {m : MemoryStore} {start : Int} {now : Instant}
  {ids : List EntryId} {id : EntryId}

theorem answer_insert (hm : m.IsShown start now ids) {e : Entry} (he : e.Storable)
    (hnew : e.id ∉ ids) (reading : Timestamp) :
    s.answer reading (.insert e) (m.table start) =
      (.ok (), (MemoryStore.serve now (.insert e) m).2.table start) := by
  have hslots : (MemoryStore.serve now (.insert e) m).2.slots = m.slots ++ [⟨e, none⟩] :=
    MemoryStore.insertSlot_eq_append fun slot hslot heq => hnew (heq ▸ hm.known slot hslot)
  have hcarry : (ofRequest s.lease (.insert e)).command.carryOut reading
      (ofRequest s.lease (.insert e)).parameters (m.table start) =
      (.rows [] 1, (m.slots ++ [(⟨e, none⟩ : Slot)]).map (Slot.record start)) :=
    Command.carryOut_insert fun slot hslot htext => by
      have hid := (EntryId.text_inj (hm.shown slot hslot).storable.id he.id).mp htext
      exact hnew (hid ▸ hm.known slot hslot)
  rw [answer_of_rows hcarry, MemoryStore.table, hslots]
  rfl

theorem answer_get (hm : m.IsShown start now ids) (hid : id.value < EntryId.limit)
    (reading : Timestamp) : s.answer reading (.get id) (m.table start) =
      (.ok (MemoryStore.serve now (.get id) m).1, m.table start) := by
  have hhold : ∀ slot ∈ m.slots, Conditions.hold reading [.text id.text] [withId]
      (slot.record start) = (slot.entry.id == id) := fun slot hslot => by
    simp only [Conditions.hold, List.all_cons, List.all_nil, Bool.and_true]
    exact Slot.withId_known (hm.shown slot hslot).storable.id hid rfl
  refine (answer_of_rows (q := .get id) (Command.carryOut_select hhold)).trans
    (congrArg (·, m.table start) ?_)
  show (List.head? _).mapM Row.toEntry = _
  rw [List.head?_map, List.head?_map, List.head?_filter]
  show _ = Except.ok ((m.find? id).map (·.entry))
  unfold MemoryStore.find?
  cases hfind : m.slots.find? (·.entry.id == id) with
  | none => rfl
  | some slot =>
    have hslot := hm.shown slot (List.mem_of_find?_eq_some hfind)
    have hread : (slot.record start).row.toEntry = .ok slot.entry := by
      rw [Slot.toEntry_record hslot.storable, Entry.bound_eq hslot.attempts]
    simp [hread]

theorem hold_id (hm : m.IsShown start now ids) (hid : id.value < EntryId.limit)
    {reading : Timestamp} {parameters : List Value} (hp : parameters[0]? = some (.text id.text))
    (rest : Conditions) : ∀ slot ∈ m.slots,
      Conditions.hold reading parameters (withId :: pending :: rest) (slot.record start) =
        (slot.entry.id == id && (!slot.entry.replayed &&
          Conditions.hold reading parameters rest (slot.record start))) := by
  intro slot hslot
  simp only [Conditions.hold, List.all_cons, pending, Slot.flag_known, beq_false]
  rw [Slot.withId_known (hm.shown slot hslot).storable.id hid hp]

theorem answer_markReplayed (hm : m.IsShown start now ids) (hid : id.value < EntryId.limit)
    (time reading : Timestamp) : s.answer reading (.markReplayed id time) (m.table start) =
      (.ok (MemoryStore.serve now (.markReplayed id time) m).1,
        (MemoryStore.serve now (.markReplayed id time) m).2.table start) := by
  have hhold : ∀ slot ∈ m.slots, Conditions.hold reading [.text id.text, .stored time]
      [withId, pending] (slot.record start) =
        (slot.entry.id == id && !slot.entry.replayed) := fun slot hslot => by
    rw [hold_id hm hid rfl [] slot hslot]
    simp [Conditions.hold]
  have hchange : ∀ slot ∈ m.slots, (slot.entry.id == id && !slot.entry.replayed) = true →
      (slot.record start).change reading [.text id.text, .stored time]
        [(.replayed, .truth true), (.replayedAt, .parameter 2), (.replayClaimedAt, .null)] =
        (slot.markReplayed time).record start := by
    intro slot _ hp
    have hno : slot.entry.replayed = false := by simpa using (Bool.and_eq_true_iff.mp hp).2
    funext c
    unfold Slot.markReplayed
    rw [hno]
    cases c <;> rfl
  have hkept : ∀ slot ∈ m.slots, slot.entry.id = id → (!slot.entry.replayed) = false →
      slot.markReplayed time = slot := by
    intro slot hslot _ hyes
    have hyes : slot.entry.replayed = true := by simpa using hyes
    have hclaim := (hm.shown slot hslot).unclaimed hyes
    obtain ⟨e, claimedAt⟩ := slot
    cases hclaim
    simp only [Slot.markReplayed] at hyes ⊢
    rw [if_pos hyes]
  refine (answer_of_rows (q := .markReplayed id time)
    (Command.carryOut_update hhold hchange)).trans ?_
  rw [MemoryStore.table_update hkept, MemoryStore.countP_id hm.nodup]
  refine Prod.ext ?_ rfl
  show Except.ok _ = Except.ok (((m.find? id).map (!·.entry.replayed)).getD false)
  cases ((m.find? id).map (!·.entry.replayed)).getD false <;> rfl

/-- The database grants a claim if it finds the dead letter open. -/
theorem answer_tryClaim (hm : m.IsShown start now ids) (hid : id.value < EntryId.limit)
    {n : Nat} (hlease : s.lease = Duration.ofSeconds n)
    (hnow : (Timestamp.ofClock start now).inCalendar = true) :
    s.answer (Timestamp.ofClock start now) (.tryClaim id) (m.table start) =
      if ((m.find? id).map (·.isOpen s.lease now)).getD false then
        (.ok true, (m.update id fun slot => { slot with claimedAt := some now }).table start)
      else (.ok false, m.table start) := by
  let parameters : List Value := [.text id.text, .ofDuration s.lease]
  let rest : Conditions := [.either (.isNull (.column .replayClaimedAt))
    (.compare .less (.column .replayClaimedAt) (.secondsAgo 2))]
  have hhold : ∀ slot ∈ m.slots, Conditions.hold (Timestamp.ofClock start now) parameters
      (withId :: pending :: rest) (slot.record start) =
        (slot.entry.id == id && slot.isOpen s.lease now) := by
    intro slot hslot
    have hp : parameters[1]? = some (.ofDuration (Duration.ofSeconds n)) := by
      rw [← hlease]
      rfl
    have hopen := Slot.open_known (fun t ht => ((hm.shown slot hslot).claimed t ht).2) hnow hp
    rw [hold_id hm hid rfl rest slot hslot]
    simp only [rest, Conditions.hold, List.all_cons, List.all_nil, Bool.and_true, hopen]
    rw [Slot.isOpen, hlease]
  have hchange : ∀ slot ∈ m.slots, (slot.entry.id == id && slot.isOpen s.lease now) = true →
      (slot.record start).change (Timestamp.ofClock start now) parameters
        [(.replayClaimedAt, .now)] =
        ({ slot with claimedAt := some now } : Slot).record start := by
    intro slot _ _
    funext c
    cases c <;> rfl
  refine (answer_of_rows (q := .tryClaim id) (Command.carryOut_update hhold hchange)).trans ?_
  rw [MemoryStore.countP_id hm.nodup]
  split
  · rename_i hopen
    have hkept : ∀ slot ∈ m.slots, slot.entry.id = id → slot.isOpen s.lease now = false →
        ({ slot with claimedAt := some now } : Slot) = slot := by
      intro slot hslot hsame hshut
      rw [← hsame, MemoryStore.find?_of_mem hm.nodup hslot] at hopen
      exact absurd (hopen.symm.trans hshut) (by decide)
    rw [MemoryStore.table_update hkept]
    rfl
  · rename_i hshut
    have hnone : ∀ slot ∈ m.slots, ¬ (slot.entry.id == id && slot.isOpen s.lease now) = true := by
      intro slot hslot hboth
      obtain ⟨hsame, hopen⟩ := Bool.and_eq_true_iff.mp hboth
      rw [← beq_iff_eq.mp hsame, MemoryStore.find?_of_mem hm.nodup hslot] at hshut
      exact hshut hopen
    have hkept : (m.slots.map fun slot => if slot.entry.id == id && slot.isOpen s.lease now then
        ({ slot with claimedAt := some now } : Slot) else slot) = m.slots := by
      refine (List.map_congr_left fun slot hslot => if_neg (hnone slot hslot)).trans ?_
      exact List.map_id' _
    rw [hkept]
    rfl

theorem answer_release (hm : m.IsShown start now ids) (hid : id.value < EntryId.limit)
    (reading : Timestamp) : s.answer reading (.release id) (m.table start) =
      (.ok (), (MemoryStore.serve now (.release id) m).2.table start) := by
  have hhold : ∀ slot ∈ m.slots, Conditions.hold reading [.text id.text] [withId, pending]
      (slot.record start) = (slot.entry.id == id && !slot.entry.replayed) := fun slot hslot => by
    rw [hold_id hm hid rfl [] slot hslot]
    simp [Conditions.hold]
  have hchange : ∀ slot ∈ m.slots, (slot.entry.id == id && !slot.entry.replayed) = true →
      (slot.record start).change reading [.text id.text] [(.replayClaimedAt, .null)] =
        ({ slot with claimedAt := none } : Slot).record start := by
    intro slot _ _
    funext c
    cases c <;> rfl
  have hkept : ∀ slot ∈ m.slots, slot.entry.id = id → (!slot.entry.replayed) = false →
      ({ slot with claimedAt := none } : Slot) = slot := by
    intro slot hslot _ hyes
    have hclaim := (hm.shown slot hslot).unclaimed (by simpa using hyes)
    rw [← hclaim]
  refine (answer_of_rows (q := .release id) (Command.carryOut_update hhold hchange)).trans ?_
  rw [MemoryStore.table_update hkept]
  rfl

theorem answer_purge (hm : m.IsShown start now ids) {cutoff : Timestamp} (hcutoff : cutoff.IsWhole)
    (replayedOnly : Bool) (reading : Timestamp) :
    s.answer reading (.purge cutoff replayedOnly) (m.table start) =
      (.ok (MemoryStore.serve now (.purge cutoff replayedOnly) m).1,
        (MemoryStore.serve now (.purge cutoff replayedOnly) m).2.table start) := by
  have hhold : ∀ slot ∈ m.slots, Conditions.hold reading [.stored cutoff]
      (.compare .less (.column .enqueuedAt) (.parameter 1) ::
        if replayedOnly then [.compare .equal (.column .replayed) (.truth true)] else [])
      (slot.record start) = slot.isDue cutoff replayedOnly := by
    intro slot hslot
    have hbefore : ((Condition.compare .less (.column .enqueuedAt) (.parameter 1)).known? reading
        [.stored cutoff] (slot.record start) == some true) =
        decide (slot.entry.enqueuedAt < cutoff) :=
      Slot.before_known (hm.shown slot hslot).storable.enqueuedAt hcutoff rfl
    cases replayedOnly <;>
      simp [Conditions.hold, hbefore, Slot.flag_known, Slot.isDue]
  refine (answer_of_rows (q := .purge cutoff replayedOnly) (Command.carryOut_delete hhold)).trans ?_
  rw [List.countP_eq_length_filter]
  rfl

/-! ### One request -/

variable {n : Nat} {q : StoreRequest}

/-- Both stores give the same answer and keep the same, unless a claim is asked for exactly a lease
after the last one. -/
theorem answer_eq (hm : m.IsShown start now ids) (hq : q.Portable)
    (hnew : ∀ id, q.insertedId? = some id → id ∉ ids) (hlease : s.lease = Duration.ofSeconds n)
    (hsame : m.lease = s.lease) (hnow : (Timestamp.ofClock start now).inCalendar = true)
    (hno : m.isTie now q = false) :
    s.answer (Timestamp.ofClock start now) q (m.table start) =
      (.ok (MemoryStore.serve now q m).1, (MemoryStore.serve now q m).2.table start) := by
  cases q with
  | insert e => exact answer_insert hm hq.1 (hnew e.id rfl) _
  | get id => exact answer_get hm hq _
  | query f => exact hq.elim
  | count f => exact hq.elim
  | markReplayed id time => exact answer_markReplayed hm hq.1 time _
  | release id => exact answer_release hm hq _
  | purge cutoff replayedOnly => exact answer_purge hm hq replayedOnly _
  | tryClaim id =>
    have hopen : (m.find? id).map (·.isOpen s.lease now) =
        (m.find? id).map (·.isFree m.lease now) := by
      cases hfind : m.find? id with
      | none => rfl
      | some slot =>
        have hshown := hm.shown slot (List.mem_of_find?_eq_some hfind)
        have hne : slot.claimedAt.map (· + m.lease) ≠ some now := by
          simpa [MemoryStore.isTie, hfind] using hno
        rw [Option.map_some, Option.map_some, ← hsame,
          Slot.isOpen_eq_isFree (fun t ht => (hshown.claimed t ht).1) hne]
    rw [answer_tryClaim hm hq hlease hnow, hopen, MemoryStore.serve_tryClaim]
    split <;> rfl

/-- Exactly a lease after the last claim a store in memory grants the next one, and the database
refuses it. -/
theorem answer_of_tie (hm : m.IsShown start now ids) (hid : id.value < EntryId.limit)
    (hlease : s.lease = Duration.ofSeconds n) (hsame : m.lease = s.lease)
    (hnow : (Timestamp.ofClock start now).inCalendar = true)
    (htie : m.isTie now (.tryClaim id) = true) :
    (MemoryStore.serve now (.tryClaim id) m).1 = true ∧
      (s.answer (Timestamp.ofClock start now) (.tryClaim id) (m.table start)).1 = .ok false := by
  have hclaim : ((m.find? id).bind (·.claimedAt)).map (· + m.lease) = some now := by
    simpa [MemoryStore.isTie] using htie
  cases hfind : m.find? id with
  | none =>
    rw [hfind] at hclaim
    cases hclaim
  | some slot =>
    rw [hfind, Option.bind_some] at hclaim
    have hno : slot.entry.replayed = false := by
      cases hyes : slot.entry.replayed with
      | false => rfl
      | true =>
        have hnone := (hm.shown slot (List.mem_of_find?_eq_some hfind)).unclaimed hyes
        rw [hnone] at hclaim
        cases hclaim
    obtain ⟨hfree, hshut⟩ := Slot.isFree_and_not_isOpen hno hclaim
    rw [answer_tryClaim hm hid hlease hnow, MemoryStore.serve_tryClaim, hfind, Option.map_some,
      Option.map_some, Option.getD_some, Option.getD_some, hfree, ← hsame, hshut]
    exact ⟨rfl, rfl⟩

end RelationalStore

end Delivery
