import Delivery.DeadLetter.Memory
import Delivery.Proofs.Relational.Meaning

/-!
# Slots as records

The record of a slot holds the dead letter as it is bound when it is inserted, and when its claim
was taken. What the database keeps of a dead letter has its times in whole microseconds and its
attempts within 32 bits; a dead letter that keeps to both reads back as it was
(`Slot.toEntry_record`).
-/

namespace Delivery

namespace Timestamp

/-- The time of a reading of a clock that was started at this many nanoseconds since 1970. -/
def ofClock (start : Int) (t : Instant) : Timestamp := { nanos := start + t }

/-- A column keeps the time as it is: it is a whole number of microseconds from the start of 2000,
and not in a leap second. -/
def IsWhole (t : Timestamp) : Prop := t.toMicroseconds = t

instance (t : Timestamp) : Decidable t.IsWhole := inferInstanceAs (Decidable (_ = _))

end Timestamp

namespace Entry

/-- What is stored of a dead letter by the database, except for the precision of its times. -/
def bound (e : Entry) : Entry := { e with attempts := min e.attempts Value.smallLimit }

/-- The id is one of 128 bits, and the times are whole microseconds. -/
structure Storable (e : Entry) : Prop where
  id : e.id.value < EntryId.limit
  enqueuedAt : e.enqueuedAt.IsWhole
  replayedAt : ∀ t, e.replayedAt = some t → t.IsWhole

theorem bound_eq {e : Entry} (h : e.attempts ≤ Value.smallLimit) : e.bound = e := by
  rw [bound, Nat.min_eq_left h]

end Entry

def Slot.record (start : Int) (s : Slot) : Record
  | .replayClaimedAt =>
    (s.claimedAt.map fun t => Value.time (Timestamp.ofClock start t)).getD .null
  | c => Statement.entryValue s.entry c

/-! ### Reading rows back -/

namespace Record

variable {r : Record} {c : Column}

theorem cell_row (h : c ∈ Column.ofEntry) : r.row.cell c = .ok (r c) := by
  cases c with
  | replayClaimedAt => simp [Column.ofEntry] at h
  | _ => simp [Row.cell, row, Column.ofEntry, Column.name, List.lookup_cons]

theorem optional_null {α : Type} {read : Value → Option α} (h : c ∈ Column.ofEntry)
    (hr : r c = .null) : r.row.optional c read = .ok none := by
  rw [Row.optional, cell_row h, hr]
  rfl

theorem optional_some {α : Type} {read : Value → Option α} {a : α} (h : c ∈ Column.ofEntry)
    (hr : r c ≠ .null) (hread : read (r c) = some a) : r.row.optional c read = .ok (some a) := by
  rw [Row.optional, cell_row h]
  generalize r c = v at hr hread
  cases v with
  | null => exact absurd rfl hr
  | _ =>
    simp only [bind, Except.bind, hread]
    rfl

theorem required_eq {α : Type} {read : Value → Option α} {a : α} (h : c ∈ Column.ofEntry)
    (hr : r c ≠ .null) (hread : read (r c) = some a) : r.row.required c read = .ok a := by
  rw [Row.required, optional_some h hr hread]
  rfl

theorem optional_text {s : Option String} (h : c ∈ Column.ofEntry)
    (hr : r c = .optionalText s) : r.row.optional c Value.text? = .ok s := by
  cases s with
  | none => exact optional_null h hr
  | some s =>
    have hvalue : r c = .text s := hr
    exact optional_some h (by simp [hvalue]) (by rw [hvalue]; rfl)

end Record

namespace Slot

variable {start : Int} {s : Slot}

theorem entryId_record (h : s.entry.id.value < EntryId.limit) :
    (s.record start).row.entryId = .ok s.entry.id := by
  have htext : (s.record start).row.required .id Value.text? = .ok s.entry.id.text :=
    Record.required_eq (by decide) nofun rfl
  simp only [Row.entryId, htext, bind, Except.bind, EntryId.read_text h]
  rfl

theorem replayedAt_record (h : ∀ t, s.entry.replayedAt = some t → t.IsWhole) :
    (s.record start).row.optional .replayedAt Value.time? = .ok s.entry.replayedAt := by
  have hvalue : s.record start .replayedAt =
      (s.entry.replayedAt.map Value.stored).getD .null := rfl
  cases htime : s.entry.replayedAt with
  | none =>
    rw [htime] at hvalue
    exact Record.optional_null (by decide) hvalue
  | some t =>
    have ht : t.toMicroseconds = t := h t htime
    rw [htime, Option.map_some, Option.getD_some, Value.stored, ht] at hvalue
    exact Record.optional_some (by decide) (by simp [hvalue]) (by rw [hvalue]; rfl)

theorem trace_record : (s.record start).row.trace = s.entry.failure.bind (·.trace) := by
  have htrace : (s.record start).row.optional .errorTrace Value.text? =
      .ok (s.entry.failure.bind (·.trace)) := Record.optional_text (by decide) rfl
  rw [Row.trace, htrace]

/-- A dead letter reads back as it was, with its attempts as they were bound. -/
theorem toEntry_record (h : s.entry.Storable) :
    (s.record start).row.toEntry = .ok s.entry.bound := by
  have hreason : (s.record start).row.required .reason Value.text? = .ok s.entry.reason.text :=
    Record.required_eq (by decide) nofun rfl
  have hpayload : (s.record start).row.required .payload Value.bytes? = .ok s.entry.payload :=
    Record.required_eq (by decide) nofun rfl
  have hmessage : (s.record start).row.optional .errorMessage Value.text? =
      .ok (s.entry.failure.map (·.message)) := Record.optional_text (by decide) rfl
  have hattempts : (s.record start).row.required .attempts Value.number? =
      .ok (min (s.entry.attempts : Int) Value.smallLimit) :=
    Record.required_eq (by decide) nofun rfl
  have hmetadata : (s.record start).row.required .metadata Value.labels? = .ok s.entry.metadata :=
    Record.required_eq (by decide) nofun rfl
  have htype : (s.record start).row.required .messageType Value.text? =
      .ok s.entry.messageType := Record.required_eq (by decide) nofun rfl
  have henqueued : (s.record start).row.required .enqueuedAt Value.time? =
      .ok s.entry.enqueuedAt := by
    have hwhole : s.entry.enqueuedAt.toMicroseconds = s.entry.enqueuedAt := h.enqueuedAt
    refine Record.required_eq (by decide) nofun ?_
    show some s.entry.enqueuedAt.toMicroseconds = _
    rw [hwhole]
  have hcorrelation : (s.record start).row.optional .correlationId Value.text? =
      .ok s.entry.correlationId := Record.optional_text (by decide) rfl
  have hcausation : (s.record start).row.optional .causationId Value.text? =
      .ok s.entry.causationId := Record.optional_text (by decide) rfl
  have hqueue : (s.record start).row.optional .sourceQueue Value.text? =
      .ok s.entry.sourceQueue := Record.optional_text (by decide) rfl
  have hreplayed : (s.record start).row.required .replayed Value.flag? = .ok s.entry.replayed :=
    Record.required_eq (by decide) nofun rfl
  simp only [Row.toEntry, entryId_record h.id, hreason, hpayload, hmessage, hattempts, hmetadata,
    htype, henqueued, hcorrelation, hcausation, hqueue, hreplayed,
    replayedAt_record h.replayedAt, trace_record, bind, Except.bind, Reason.read?_text]
  have hfailure : (s.entry.failure.map (·.message)).map
      (fun message => (⟨message, s.entry.failure.bind (·.trace)⟩ : FailureDetail)) =
      s.entry.failure := by
    cases s.entry.failure <;> rfl
  have hcount : (min (s.entry.attempts : Int) Value.smallLimit).toNat =
      min s.entry.attempts Value.smallLimit := by omega
  rw [hfailure, hcount]
  rfl

theorem mapM_toEntry (start : Int) {slots : List Slot}
    (hstorable : ∀ s ∈ slots, s.entry.Storable) :
    ((slots.map (Slot.record start)).map Record.row).mapM Row.toEntry =
      .ok ((slots.map (·.entry)).map Entry.bound) := by
  induction slots with
  | nil => rfl
  | cons s slots ih =>
    have hs : (s.record start).row.toEntry = .ok s.entry.bound :=
      toEntry_record (hstorable s List.mem_cons_self)
    have hrest := ih fun s hs => hstorable s (List.mem_cons_of_mem _ hs)
    simp only [List.map_cons, List.mapM_cons, hs, hrest]
    rfl

end Slot

end Delivery
