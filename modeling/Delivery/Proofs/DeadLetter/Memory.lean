import Delivery.DeadLetter.Memory

/-!
# Looking dead letters up in memory

What each request to a store in memory makes of the slot of an id. The slots of all other ids stay
as they are.
-/

namespace Delivery.MemoryStore

variable {s : MemoryStore} {id other : EntryId} {t now : Instant}

theorem insertSlot_eq_append {new : Slot} {slots : List Slot}
    (h : ∀ slot ∈ slots, slot.entry.id ≠ new.entry.id) : insertSlot new slots = slots ++ [new] := by
  induction slots with
  | nil => rfl
  | cons slot rest ih =>
    have hne : slot.entry.id ≠ new.entry.id := h slot List.mem_cons_self
    rw [insertSlot, if_neg hne, ih fun other ho => h other (List.mem_cons_of_mem slot ho)]
    rfl

theorem id_of_find? {slot : Slot} (h : s.find? id = some slot) : slot.entry.id = id := by
  have := List.find?_some h
  simpa using this

theorem find?_update {change : Slot → Slot} (h : ∀ slot, (change slot).entry.id = slot.entry.id) :
    (s.update id change).find? other =
      if other = id then (s.find? other).map change else s.find? other := by
  unfold MemoryStore.update MemoryStore.find?
  have hsame : ((fun slot : Slot => slot.entry.id == other) ∘
      fun slot => if slot.entry.id = id then change slot else slot) =
      fun slot => slot.entry.id == other := by
    funext slot
    simp only [Function.comp_apply]
    split
    · rw [h]
    · rfl
  rw [List.find?_map, hsame]
  cases hf : s.slots.find? fun slot => slot.entry.id == other with
  | none => simp
  | some slot =>
    have hid : slot.entry.id = other := id_of_find? hf
    simp only [Option.map_some, hid]
    split <;> rfl

theorem ids_update {change : Slot → Slot} (h : ∀ slot, (change slot).entry.id = slot.entry.id) :
    (s.update id change).slots.map (·.entry.id) = s.slots.map (·.entry.id) := by
  simp only [MemoryStore.update, List.map_map]
  apply List.map_congr_left
  intro slot _
  simp only [Function.comp_apply]
  split
  · exact h slot
  · rfl

theorem find?_insertSlot {new : Slot} {slots : List Slot} :
    (insertSlot new slots).find? (·.entry.id == other) =
      if other = new.entry.id then some new else slots.find? (·.entry.id == other) := by
  induction slots with
  | nil =>
    rw [insertSlot, List.find?_singleton]
    by_cases ho : other = new.entry.id
    · simp [ho]
    · have hne : ¬ new.entry.id = other := fun heq => ho heq.symm
      simp [ho, hne]
  | cons slot rest ih =>
    rw [insertSlot]
    split
    · rename_i hid
      by_cases ho : other = new.entry.id
      · simp [ho]
      · have hne : ¬ new.entry.id = other := fun heq => ho heq.symm
        simp [hid, ho, hne]
    · rename_i hid
      rw [List.find?_cons, List.find?_cons, ih]
      by_cases ho : other = new.entry.id
      · have hno : (slot.entry.id == other) = false := by simpa [ho] using hid
        simp [ho ▸ hno, ho]
      · simp [ho]

theorem find?_insert {e : Entry} : (serve now (.insert e) s).2.find? other =
    if other = e.id then some ⟨e, none⟩ else s.find? other :=
  find?_insertSlot

theorem find?_claim :
    (s.update id fun slot => { slot with claimedAt := some t }).find? other =
      if other = id then (s.find? other).map fun slot => { slot with claimedAt := some t }
      else s.find? other :=
  find?_update fun _ => rfl

theorem id_markReplayed (time : Timestamp) (slot : Slot) :
    (slot.markReplayed time).entry.id = slot.entry.id := by
  unfold Slot.markReplayed
  split <;> rfl

theorem find?_markReplayed {time : Timestamp} :
    (serve now (.markReplayed id time) s).2.find? other =
      if other = id then (s.find? other).map (·.markReplayed time) else s.find? other :=
  find?_update (id_markReplayed time)

theorem find?_release : (serve now (.release id) s).2.find? other =
    if other = id then (s.find? other).map fun slot => { slot with claimedAt := none }
    else s.find? other :=
  find?_update fun _ => rfl

theorem serve_tryClaim : (serve now (.tryClaim id) s : Bool × MemoryStore) =
    if ((s.find? id).map (·.isFree s.lease now)).getD false then
      (true, s.update id fun slot => { slot with claimedAt := some now })
    else (false, s) := rfl

/-- The dead letter is claimed by the request that is served at this reading. -/
def Won (s : MemoryStore) (id : EntryId) (now : Instant) : Prop :=
  (serve now (.tryClaim id) s : Bool × MemoryStore).1 = true

/-- A claim is won on a dead letter that is not replayed and not under a young claim. -/
theorem won_iff : s.Won id now ↔ ∃ slot, s.find? id = some slot ∧ slot.entry.replayed = false ∧
    slot.isClaimed s.lease now = false := by
  rw [Won, serve_tryClaim]
  cases s.find? id with
  | none => simp
  | some slot =>
    cases hno : slot.entry.replayed <;> cases hlate : slot.isClaimed s.lease now <;>
      simp [Slot.isFree, hno, hlate]

theorem find?_won (h : s.Won id now) : (serve now (.tryClaim id) s).2.find? id =
    (s.find? id).map fun slot => { slot with claimedAt := some now } := by
  rw [Won, serve_tryClaim] at h
  rw [serve_tryClaim]
  split at h
  · rename_i hfree
    rw [if_pos hfree, find?_claim, if_pos rfl]
  · cases h

theorem answer_markReplayed (time : Timestamp) :
    (serve now (.markReplayed id time) s : Bool × MemoryStore).1 =
      ((s.find? id).map (!·.entry.replayed)).getD false := rfl

theorem find?_tryClaim_of_ne (h : other ≠ id) :
    (serve now (.tryClaim id) s).2.find? other = s.find? other := by
  rw [serve_tryClaim]
  split
  · exact find?_claim.trans (if_neg h)
  · rfl

@[simp] theorem lease_serve (now : Instant) (request : StoreRequest) (s : MemoryStore) :
    (serve now request s).2.lease = s.lease := by
  cases request with
  | tryClaim id =>
    rw [serve_tryClaim]
    split <;> rfl
  | _ => rfl

/-! ### Kept -/

/-- A dead letter with the same id is stored, and the same message comes of it. -/
def Keeps (s : MemoryStore) (e : Entry) : Prop :=
  ∃ slot ∈ s.slots, slot.entry.id = e.id ∧ slot.entry.toMessage = e.toMessage

variable {e new : Entry}

theorem keeps_of_mem {slot : Slot} (h : slot ∈ s.slots) : s.Keeps slot.entry :=
  ⟨slot, h, rfl, rfl⟩

theorem keeps_of_get (h : e ∈ (serve now (.get id) s : Option Entry × MemoryStore).1) :
    s.Keeps e := by
  obtain ⟨slot, hslot, rfl⟩ := Option.map_eq_some_iff.mp h
  exact keeps_of_mem (List.mem_of_find?_eq_some hslot)

theorem keeps_of_query {f : Filter}
    (h : e ∈ (serve now (.query f) s : List Entry × MemoryStore).1) : s.Keeps e := by
  have hsel : e ∈ s.selected f := by
    have hwin : e ∈ f.window (inOrder (s.selected f)) := h
    unfold Filter.window inOrder at hwin
    split at hwin
    · exact List.mem_mergeSort.mp (List.mem_of_mem_drop (List.mem_of_mem_take hwin))
    · exact List.mem_mergeSort.mp (List.mem_of_mem_drop hwin)
  obtain ⟨slot, hslot, rfl⟩ := List.mem_map.mp (List.mem_filter.mp hsel).1
  exact keeps_of_mem hslot

theorem Keeps.update {change : Slot → Slot}
    (hid : ∀ slot, (change slot).entry.id = slot.entry.id)
    (hmessage : ∀ slot, (change slot).entry.toMessage = slot.entry.toMessage) (h : s.Keeps e) :
    (s.update id change).Keeps e := by
  obtain ⟨slot, hslot, hsame, hm⟩ := h
  refine ⟨_, List.mem_map_of_mem hslot, ?_, ?_⟩
  · split
    · exact (hid slot).trans hsame
    · exact hsame
  · split
    · exact (hmessage slot).trans hm
    · exact hm

theorem Keeps.insert (h : s.Keeps e) (hfresh : s.find? new.id = none) :
    (serve now (.insert new) s).2.Keeps e := by
  have hne : ∀ slot ∈ s.slots, slot.entry.id ≠ new.id := by
    intro slot hslot
    simpa using List.find?_eq_none.mp hfresh slot hslot
  obtain ⟨slot, hslot, hsame⟩ := h
  refine ⟨slot, ?_, hsame⟩
  show slot ∈ insertSlot ⟨new, none⟩ s.slots
  rw [insertSlot_eq_append hne]
  exact List.mem_append_left _ hslot

theorem Keeps.tryClaim (h : s.Keeps e) : (serve now (.tryClaim id) s).2.Keeps e := by
  rw [serve_tryClaim]
  split
  · exact h.update (fun _ => rfl) fun _ => rfl
  · exact h

theorem Keeps.markReplayed {time : Timestamp} (h : s.Keeps e) :
    (serve now (.markReplayed id time) s).2.Keeps e := by
  refine h.update (id_markReplayed time) fun slot => ?_
  unfold Slot.markReplayed
  split <;> rfl

theorem Keeps.release (h : s.Keeps e) : (serve now (.release id) s).2.Keeps e :=
  h.update (fun _ => rfl) fun _ => rfl

/-! ### Claimed and replayed -/

/-- The dead letter is under a claim taken at this reading and is not replayed. -/
def IsClaimed (s : MemoryStore) (id : EntryId) (t : Instant) : Prop :=
  ∃ slot, s.find? id = some slot ∧ slot.entry.replayed = false ∧ slot.claimedAt = some t

def IsReplayed (s : MemoryStore) (id : EntryId) : Prop :=
  ∃ slot, s.find? id = some slot ∧ slot.entry.replayed = true

theorem isClaimed_congr {s' : MemoryStore} (h : s'.find? id = s.find? id) :
    s'.IsClaimed id t ↔ s.IsClaimed id t := by
  unfold IsClaimed
  rw [h]

theorem isReplayed_congr {s' : MemoryStore} (h : s'.find? id = s.find? id) :
    s'.IsReplayed id ↔ s.IsReplayed id := by
  unfold IsReplayed
  rw [h]

theorem IsClaimed.not_replayed (h : s.IsClaimed id t) : ¬ s.IsReplayed id := by
  obtain ⟨slot, hfind, hno, -⟩ := h
  rintro ⟨slot', hfind', hyes⟩
  rw [hfind] at hfind'
  cases hfind'
  rw [hno] at hyes
  cases hyes

theorem free_of_won (h : (serve now (.tryClaim id) s).1 = true) :
    (serve now (.tryClaim id) s).2.IsClaimed id now ∧ ¬ s.IsReplayed id ∧
      ∀ t, s.IsClaimed id t → ¬ now - t < s.lease := by
  obtain ⟨slot, hf, hno, hlate⟩ := won_iff.mp h
  refine ⟨⟨{ slot with claimedAt := some now }, ?_, hno, rfl⟩, ?_, ?_⟩
  · rw [find?_won h, hf]
    rfl
  · rintro ⟨slot', hf', hyes⟩
    rw [hf] at hf'
    cases hf'
    rw [hno] at hyes
    cases hyes
  · rintro t ⟨slot', hf', -, ht⟩ hyoung
    rw [hf] at hf'
    cases hf'
    simp [Slot.isClaimed, ht, hyoung] at hlate

theorem marked_of_isClaimed (now : Instant) (time : Timestamp) (h : s.IsClaimed id t) :
    (serve now (.markReplayed id time) s).1 = true ∧
      (serve now (.markReplayed id time) s).2.IsReplayed id := by
  obtain ⟨slot, hf, hno, -⟩ := h
  refine ⟨?_, ⟨slot.markReplayed time, ?_, ?_⟩⟩
  · rw [answer_markReplayed, hf]
    simp [hno]
  · rw [find?_markReplayed, if_pos rfl, hf]
    rfl
  · unfold Slot.markReplayed
    rw [hno]
    rfl

theorem lost_eq (h : (serve now (.tryClaim id) s).1 = false) :
    (serve now (.tryClaim id) s).2 = s := by
  rw [serve_tryClaim] at h ⊢
  split
  · rename_i hfree
    rw [if_pos hfree] at h
    cases h
  · rfl

end Delivery.MemoryStore
