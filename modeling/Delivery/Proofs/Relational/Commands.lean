import Mathlib.Data.List.Nodup
import Delivery.Proofs.DeadLetter.Memory
import Delivery.Proofs.Relational.Lease

/-!
# Commands on the records of slots

What conditions hold of the record of a slot, and what a command makes of a table that has the
record of each slot in turn. A condition on the id holds of one slot at most.
-/

namespace Delivery

/-! ### Conditions on records -/

namespace Slot

open Statement

variable {start : Int} {s : Slot} {now : Timestamp} {parameters : List Value} {id : EntryId}

theorem withId_known (hs : s.entry.id.value < EntryId.limit) (hid : id.value < EntryId.limit)
    (hp : parameters[0]? = some (.text id.text)) :
    (withId.known? now parameters (s.record start) == some true) = (s.entry.id == id) := by
  have hvalue : parameters.getD (1 - 1) .null = .text id.text := by
    rw [List.getD_eq_getElem?_getD, hp]
    rfl
  have hrecord : s.record start .id = .text s.entry.id.text := rfl
  have hiff : octets s.entry.id.text = octets id.text ↔ s.entry.id = id :=
    octets_inj.trans (EntryId.text_inj hs hid)
  simp only [withId, Condition.known?, Term.value, hvalue, hrecord, Comparison.known?,
    Comparison.holds, hiff]
  by_cases h : s.entry.id = id <;> simp [h]

theorem flag_known (b : Bool) :
    ((Condition.compare .equal (.column .replayed) (.truth b)).known? now parameters
      (s.record start) == some true) = (s.entry.replayed == b) := by
  have hrecord : s.record start .replayed = .flag s.entry.replayed := rfl
  simp only [Condition.known?, Term.value, hrecord]
  cases s.entry.replayed <;> cases b <;> rfl

theorem before_known {cutoff : Timestamp} (hs : s.entry.enqueuedAt.IsWhole)
    (hcutoff : cutoff.IsWhole) (hp : parameters[0]? = some (.stored cutoff)) :
    ((Condition.compare .less (.column .enqueuedAt) (.parameter 1)).known? now parameters
      (s.record start) == some true) = decide (s.entry.enqueuedAt < cutoff) := by
  have hrecord : s.record start .enqueuedAt = .time s.entry.enqueuedAt := congrArg Value.time hs
  have hvalue : parameters.getD (1 - 1) .null = .time cutoff := by
    rw [List.getD_eq_getElem?_getD, hp]
    exact congrArg Value.time hcutoff
  simp only [Condition.known?, Term.value, hvalue, hrecord, Comparison.known?, Comparison.holds]
  by_cases h : s.entry.enqueuedAt < cutoff <;> simp [h]

/-- The database grants a claim on the dead letter. -/
def isOpen (s : Slot) (lease : Duration) (now : Instant) : Bool :=
  !s.entry.replayed && (s.claimedAt.map fun t => decide (lease < now - t)).getD true

theorem eitherKnown_false (known : Option Bool) :
    (eitherKnown (some false) known == some true) = (known == some true) := by
  rcases known with _ | _ | _ <;> rfl

theorem open_known {n : Nat} {reading : Instant}
    (hclaimed : ∀ t, s.claimedAt = some t → (Timestamp.ofClock start t).inCalendar = true)
    (hnow : (Timestamp.ofClock start reading).inCalendar = true)
    (hp : parameters[1]? = some (.ofDuration (Duration.ofSeconds n))) :
    ((Condition.either (.isNull (.column .replayClaimedAt))
      (.compare .less (.column .replayClaimedAt) (.secondsAgo 2))).known?
        (Timestamp.ofClock start reading) parameters (s.record start) == some true) =
      (s.claimedAt.map fun t => decide (Duration.ofSeconds n < reading - t)).getD true := by
  have hrecord : s.record start .replayClaimedAt =
      (s.claimedAt.map fun t => Value.time (Timestamp.ofClock start t)).getD .null := rfl
  cases hc : s.claimedAt with
  | none =>
    rw [hc] at hrecord
    simp [Condition.known?, Term.value, hrecord, eitherKnown]
  | some t =>
    rw [hc] at hrecord
    have htime : s.record start .replayClaimedAt = .time (Timestamp.ofClock start t) := hrecord
    have hnull : (Condition.isNull (.column .replayClaimedAt)).known?
        (Timestamp.ofClock start reading) parameters (s.record start) = some false := by
      simp [Condition.known?, Term.value, htime]
    rw [Condition.known?, hnull, eitherKnown_false, Condition.known?, Term.value, htime,
      expired_eq (s.record start) (hclaimed t hc) hnow hp, Option.map_some, Option.getD_some]

end Slot

/-- A request is a claim asked for at the moment at which the claim on the dead letter has lasted
for a lease. -/
def MemoryStore.isTie (m : MemoryStore) (now : Instant) : StoreRequest → Bool
  | .tryClaim id => ((m.find? id).bind (·.claimedAt)).map (· + m.lease) == some now
  | _ => false

namespace Slot

variable {s : Slot} {lease : Duration} {now : Instant}

theorem isOpen_eq_isFree (hle : ∀ t, s.claimedAt = some t → t ≤ now)
    (hne : s.claimedAt.map (· + lease) ≠ some now) : s.isOpen lease now = s.isFree lease now := by
  unfold isOpen isFree isClaimed
  cases hc : s.claimedAt with
  | none => rfl
  | some t =>
    have htime : t ≤ now := hle t hc
    have hno : t + lease ≠ now := by
      rw [hc] at hne
      simpa using hne
    have hiff (a b c : Nat) (hab : a ≤ b) (hne : a + c ≠ b) : (c < b - a) ↔ ¬ (b - a < c) := by
      omega
    simp only [Option.map_some, Option.getD_some, hiff t now lease htime hno, decide_not]

/-- Exactly a lease after its claim a dead letter is free for the store in memory only. -/
theorem isFree_and_not_isOpen (hno : s.entry.replayed = false)
    (heq : s.claimedAt.map (· + lease) = some now) :
    s.isFree lease now = true ∧ s.isOpen lease now = false := by
  obtain ⟨t, hc, rfl⟩ := Option.map_eq_some_iff.mp heq
  have hsub : t + lease - t = lease := Nat.add_sub_cancel_left t lease
  simp [isFree, isClaimed, isOpen, hc, hno, hsub]

end Slot

/-! ### Commands on the records of slots -/

namespace Command

variable {start : Int} {now : Timestamp} {parameters : List Value} {conditions : Conditions}
  {slots : List Slot} {p : Slot → Bool}

theorem filter_records (hp : ∀ s ∈ slots, conditions.hold now parameters (s.record start) = p s) :
    (slots.map (Slot.record start)).filter (conditions.hold now parameters) =
      (slots.filter p).map (Slot.record start) := by
  rw [List.filter_map]
  exact congrArg _ (List.filter_congr hp)

theorem countP_records (hp : ∀ s ∈ slots, conditions.hold now parameters (s.record start) = p s) :
    (slots.map (Slot.record start)).countP (conditions.hold now parameters) = slots.countP p := by
  rw [List.countP_eq_length_filter, filter_records hp, List.length_map,
    List.countP_eq_length_filter]

theorem carryOut_select
    (hp : ∀ s ∈ slots, conditions.hold now parameters (s.record start) = p s) :
    (select conditions false none none).carryOut now parameters (slots.map (Slot.record start)) =
      (.rows (((slots.filter p).map (Slot.record start)).map Record.row) (slots.countP p),
        slots.map (Slot.record start)) := by
  show (ServerReply.rows (((slots.map _).filter _).map _) ((slots.map _).filter _).length, _) = _
  rw [filter_records hp, List.length_map, List.countP_eq_length_filter]

theorem carryOut_insert {e : Entry} (h : ∀ s ∈ slots, s.entry.id.text ≠ e.id.text) :
    insert.carryOut now (Column.ofEntry.map (Statement.entryValue e))
      (slots.map (Slot.record start)) =
      (.rows [] 1, (slots ++ [(⟨e, none⟩ : Slot)]).map (Slot.record start)) := by
  have hrecord : Record.ofValues (Column.ofEntry.map (Statement.entryValue e)) =
      (⟨e, none⟩ : Slot).record start := by
    funext c
    cases c <;> rfl
  have hfree : ¬ (slots.map (Slot.record start)).any
      (· .id == (⟨e, none⟩ : Slot).record start .id) = true := by
    rw [List.any_map, List.any_eq_true]
    rintro ⟨s, hs, heq⟩
    exact h s hs (Value.text.inj (beq_iff_eq.mp heq))
  simp only [carryOut, hrecord, if_neg hfree, List.map_append, List.map_singleton]

theorem carryOut_update {changes : List (Column × Term)} {g : Slot → Slot}
    (hp : ∀ s ∈ slots, conditions.hold now parameters (s.record start) = p s)
    (hg : ∀ s ∈ slots, p s = true →
      (s.record start).change now parameters changes = (g s).record start) :
    (update changes conditions).carryOut now parameters (slots.map (Slot.record start)) =
      (.rows [] (slots.countP p),
        (slots.map fun s => if p s then g s else s).map (Slot.record start)) := by
  have hmap : (slots.map (Slot.record start)).map (fun r =>
      if conditions.hold now parameters r then r.change now parameters changes else r) =
      (slots.map fun s => if p s then g s else s).map (Slot.record start) := by
    rw [List.map_map, List.map_map]
    refine List.map_congr_left fun s hs => ?_
    simp only [Function.comp_apply, hp s hs]
    by_cases h : p s = true
    · rw [if_pos h, if_pos h, hg s hs h]
    · rw [if_neg h, if_neg h]
  rw [carryOut, countP_records hp, hmap]

theorem carryOut_delete
    (hp : ∀ s ∈ slots, conditions.hold now parameters (s.record start) = p s) :
    (delete conditions).carryOut now parameters (slots.map (Slot.record start)) =
      (.rows [] (slots.countP p), (slots.filter (!p ·)).map (Slot.record start)) := by
  have hrest : (slots.map (Slot.record start)).filter (!conditions.hold now parameters ·) =
      (slots.filter (!p ·)).map (Slot.record start) := by
    rw [List.filter_map]
    exact congrArg _ (List.filter_congr fun s hs => congrArg (!·) (hp s hs))
  rw [carryOut, countP_records hp, hrest]

end Command

/-! ### Slots of one id -/

namespace MemoryStore

variable {m : MemoryStore} {id : EntryId} {p : Slot → Bool}

/-- Of the slots of an id that have a property there is one, if the slot that is found has it. -/
theorem countP_id (hids : (m.slots.map (·.entry.id)).Nodup) :
    (m.slots.countP fun s => s.entry.id == id && p s) =
      if ((m.find? id).map p).getD false then 1 else 0 := by
  unfold find?
  generalize m.slots = slots at hids
  induction slots with
  | nil => rfl
  | cons s slots ih =>
    obtain ⟨hnot, hrest⟩ := List.nodup_cons.mp hids
    rw [List.countP_cons, List.find?_cons, ih hrest]
    by_cases hs : s.entry.id = id
    · have hnone : slots.find? (·.entry.id == id) = none := by
        refine List.find?_eq_none.mpr fun other hother heq => hnot ?_
        have hid : other.entry.id = s.entry.id := (beq_iff_eq.mp heq).trans hs.symm
        exact List.mem_map.mpr ⟨other, hother, hid⟩
      simp [hs, hnone]
    · have hfalse : (s.entry.id == id) = false := by simpa using hs
      simp [hfalse]

/-- A change to all slots of an id can be kept to those with a property, if the others stay as they
are under it. -/
theorem table_update {g : Slot → Slot}
    (h : ∀ s ∈ m.slots, s.entry.id = id → p s = false → g s = s) :
    (m.slots.map fun s => if s.entry.id == id && p s then g s else s) = (m.update id g).slots := by
  refine List.map_congr_left fun s hs => ?_
  by_cases hid : s.entry.id = id
  · cases hp : p s with
    | true => simp [hid]
    | false => simp [hid, h s hs hid hp]
  · simp [hid]

end MemoryStore

end Delivery
