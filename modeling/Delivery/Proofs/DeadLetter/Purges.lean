import Delivery.Proofs.DeadLetter.Pages

/-!
# What a purge removes

A purge removes the dead letters that are due and touches nothing else, so of two purges only the
one with the later cutoff counts. A scheduled purge has the cutoff a retention ago. Where a moment
so far back cannot be told, the cutoff is the first moment of the calendar, and nothing is older
than that; so the purge removes what is older than the retention on a line of time without an end.
Main statement: `MemoryStore.purges_due`.
-/

namespace Delivery

namespace Timestamp

/-- More than a duration lies between a moment and a reading, on a line of nanoseconds without an
end. The line has no room for a leap second: all of it is the very end of the second before. -/
def IsOlder (t : Timestamp) (d : Duration) (now : Int) : Prop :=
  if t.inLeapSecond then (t.second + 1) * nanosPerSecond + d ≤ now else t.nanos + d < now

instance (t : Timestamp) (d : Duration) (now : Int) : Decidable (t.IsOlder d now) := by
  unfold IsOlder
  infer_instance

variable {t : Timestamp} {now : Int} {d : Duration}

theorem lt_reading_iff {c : Int} : t < { nanos := c } ↔ t.IsOlder 0 c := by
  unfold IsOlder
  rw [lt_def]
  cases hleap : t.inLeapSecond <;> simp only [second, nanosPerSecond, hleap] <;> simp <;> omega

theorem isOlder_iff : t.IsOlder d now ↔ t.IsOlder 0 (now - d) := by
  unfold IsOlder
  split <;> simp <;> omega

theorem calendar_lt_distanceLimit :
    afterLatest.nanos - earliest.nanos < (distanceLimit : Int) := by decide

/-- Both fallbacks of the subtraction amount to a cutoff that is not before the calendar. -/
theorem backFrom_reading (hnow : inCalendar { nanos := now } = true) (d : Duration) :
    ({ nanos := now } : Timestamp).backFrom d = { nanos := max earliest.nanos (now - d) } := by
  rw [inCalendar_reading] at hnow
  have hearliest : { nanos := earliest.nanos } = earliest := rfl
  by_cases hd : d ≤ distanceLimit
  · by_cases hin : inCalendar { nanos := now - d } = true
    · have hsince := (inCalendar_reading.mp hin).1
      rw [Int.max_eq_right hsince]
      simp [backFrom, distance?, before?, hd, hin]
    · have hbefore : now - d ≤ earliest.nanos := by
        rw [inCalendar_reading] at hin
        omega
      rw [Int.max_eq_left hbefore, hearliest]
      simp [backFrom, distance?, before?, hd, hin]
  · have hlong : distanceLimit < d := Nat.lt_of_not_le hd
    have hlength := calendar_lt_distanceLimit
    have hbefore : now - d ≤ earliest.nanos := by omega
    rw [Int.max_eq_left hbefore, hearliest]
    simp [backFrom, distance?, hd]

/-- A moment of the calendar is before the cutoff exactly if it is older than the duration, also
where the cutoff is not that far back. -/
theorem lt_backFrom_iff (ht : earliest ≤ t) (hnow : inCalendar { nanos := now } = true) :
    t < ({ nanos := now } : Timestamp).backFrom d ↔ t.IsOlder d now := by
  have hnever : ¬ t.IsOlder 0 earliest.nanos := fun h => not_le.mpr (lt_reading_iff.mpr h) ht
  rw [backFrom_reading hnow, lt_reading_iff, isOlder_iff (d := d)]
  rcases Int.le_total earliest.nanos (now - d) with hle | hle
  · rw [Int.max_eq_right hle]
  · rw [Int.max_eq_left hle]
    refine ⟨fun h => absurd h hnever, fun h => absurd ?_ hnever⟩
    unfold IsOlder at h ⊢
    split at h <;> simp_all <;> omega

end Timestamp

/-! ### One purge, and two -/

namespace Slot

variable {slot : Slot} {early late : Timestamp} {replayedOnly : Bool}

theorem isDue_iff {cutoff : Timestamp} : slot.isDue cutoff replayedOnly = true ↔
    slot.entry.enqueuedAt < cutoff ∧ (slot.entry.replayed = true ∨ replayedOnly = false) := by
  simp [isDue]

theorem isDue_mono (hle : early ≤ late) (h : slot.isDue early replayedOnly = true) :
    slot.isDue late replayedOnly = true := by
  rw [isDue_iff] at h ⊢
  exact ⟨Timestamp.lt_of_lt_of_le h.1 hle, h.2⟩

end Slot

namespace MemoryStore

variable {s : MemoryStore} {reading now : Instant} {early late cutoff : Timestamp}
  {replayedOnly : Bool}

/-- What is left of a store when the dead letters of a kind are removed, and how many these are. -/
structure Removed (due : Entry → Prop) [DecidablePred due] (s : MemoryStore) (n : Nat)
    (left : MemoryStore) : Prop where
  gone : ∀ id slot, s.find? id = some slot → due slot.entry → left.find? id = none
  -- Every other dead letter is there as it was, and so is the claim on it.
  kept : ∀ id slot, s.find? id = some slot → ¬ due slot.entry → left.find? id = some slot
  nothingNew : ∀ id, s.find? id = none → left.find? id = none
  number : n = (s.slots.map (·.entry)).countP fun e => decide (due e)
  lease : left.lease = s.lease

theorem removed_purge (hs : s.Distinct) {due : Entry → Prop} [DecidablePred due]
    (hdue : ∀ slot ∈ s.slots, slot.isDue cutoff replayedOnly = true ↔ due slot.entry) :
    Removed due s (serve now (.purge cutoff replayedOnly) s : Nat × MemoryStore).1
      (serve now (.purge cutoff replayedOnly) s).2 where
  gone id slot hslot hyes := by
    have hsel := (hdue slot (List.mem_of_find?_eq_some hslot)).mpr hyes
    simp [find?_purge hs, hslot, hsel]
  kept id slot hslot hno := by
    have hsel : slot.isDue cutoff replayedOnly = false := by
      rw [← Bool.not_eq_true, hdue slot (List.mem_of_find?_eq_some hslot)]
      exact hno
    simp [find?_purge hs, hslot, Option.filter, hsel]
  nothingNew id hnone := by
    rw [find?_purge hs, hnone]
    rfl
  number := by
    show (s.slots.filter (·.isDue cutoff replayedOnly)).length = _
    rw [← List.countP_eq_length_filter, List.countP_map]
    refine List.countP_congr fun slot hslot => ?_
    simp [hdue slot hslot]
  lease := lease_serve now _ s

/-- A purge with a later cutoff leaves nothing to an earlier one. -/
theorem purge_late_early (hle : early ≤ late) :
    (serve now (.purge early replayedOnly) (serve reading (.purge late replayedOnly) s).2 :
      Nat × MemoryStore) = (0, (serve reading (.purge late replayedOnly) s).2) := by
  have hnone : ∀ slot ∈ (serve reading (.purge late replayedOnly) s).2.slots,
      slot.isDue early replayedOnly = false := by
    intro slot hslot
    have hkept := (List.mem_filter.mp hslot).2
    rw [Bool.not_eq_true'] at hkept
    rw [← Bool.not_eq_true]
    intro hearly
    cases hkept.symm.trans (Slot.isDue_mono hle hearly)
  have hfilter : (serve reading (.purge late replayedOnly) s).2.slots.filter
      (!·.isDue early replayedOnly) = (serve reading (.purge late replayedOnly) s).2.slots :=
    List.filter_eq_self.mpr fun slot hslot => by rw [hnone slot hslot]; rfl
  have hcount : (serve reading (.purge late replayedOnly) s).2.slots.filter
      (·.isDue early replayedOnly) = [] :=
    List.filter_eq_nil_iff.mpr fun slot hslot => by simp [hnone slot hslot]
  rw [serve, hfilter, hcount]
  rfl

/-- A purge with an earlier cutoff only takes part of what a later one removes. -/
theorem purge_early_late (hle : early ≤ late) :
    (serve now (.purge late replayedOnly) (serve reading (.purge early replayedOnly) s).2).2 =
      (serve reading (.purge late replayedOnly) s).2 := by
  show ({ s with slots := (s.slots.filter _).filter _ } : MemoryStore) = { s with slots := _ }
  rw [List.filter_filter]
  congr 1
  refine List.filter_congr fun slot _ => ?_
  cases hearly : slot.isDue early replayedOnly with
  | false => simp
  | true => simp [Slot.isDue_mono hle hearly]

theorem removed_early_late (hle : early ≤ late) :
    s.removed reading (.purge early replayedOnly) +
      (serve reading (.purge early replayedOnly) s).2.removed reading (.purge late replayedOnly) =
        s.removed reading (.purge late replayedOnly) := by
  have hsize (s : MemoryStore) (cutoff : Timestamp) :
      (serve reading (.purge cutoff replayedOnly) s).2.size +
        s.removed reading (.purge cutoff replayedOnly) = s.size := size_other s reading rfl
  have hlate := hsize s late
  have hearly := hsize s early
  have hrest := hsize (serve reading (.purge early replayedOnly) s).2 late
  rw [purge_early_late hle] at hrest
  omega

/-! ### Purges through a queue -/

section Queue

variable {q : DeadLetterQueue (StateM MemoryStore)}

theorem purge_run (hq : q.store = keeping reading) (cutoff : Timestamp) (replayedOnly : Bool)
    (s : MemoryStore) : (q.purge cutoff replayedOnly).run s =
      (.ok (serve reading (.purge cutoff replayedOnly) s : Nat × MemoryStore).1,
        (serve reading (.purge cutoff replayedOnly) s).2) := by
  rw [DeadLetterQueue.purge, hq]
  rfl

theorem purgeExpired_of_plan {plan : RetentionPlan} (hplan : q.plan = some plan) {t : Timestamp}
    (hclock : q.wallClock = pure t) :
    q.purgeExpired.run s = (q.purge (t.backFrom plan.retention) false).run s := by
  rw [DeadLetterQueue.purgeExpired, hplan, hclock]
  rfl

theorem purgeExpired_of_no_plan (hplan : q.plan = none) : q.purgeExpired.run s = (.ok 0, s) := by
  rw [DeadLetterQueue.purgeExpired, hplan]
  rfl

/-- What the purges of a queue do to a store. -/
structure PurgesDue (q : DeadLetterQueue (StateM MemoryStore)) (s : MemoryStore) : Prop where
  purge : ∀ cutoff replayedOnly, ∃ n left,
    (q.purge cutoff replayedOnly).run s = (.ok n, left) ∧
    Removed (fun e => e.enqueuedAt < cutoff ∧ (e.replayed = true ∨ replayedOnly = false)) s n left
  again : ∀ cutoff replayedOnly n left, (q.purge cutoff replayedOnly).run s = (.ok n, left) →
    (q.purge cutoff replayedOnly).run left = (.ok 0, left)
  -- Two purges, whichever comes first, leave what the one with the later cutoff leaves, and they
  -- remove as many between them.
  twice : ∀ early late replayedOnly, early ≤ late → ∃ n m left between,
    (q.purge late replayedOnly).run s = (.ok n, left) ∧
    (q.purge early replayedOnly).run left = (.ok 0, left) ∧
    (q.purge early replayedOnly).run s = (.ok m, between) ∧
    m ≤ n ∧ (q.purge late replayedOnly).run between = (.ok (n - m), left)
  -- However long the retention is, and however far the calendar goes back.
  expired : ∀ plan now, q.plan = some plan → q.wallClock = pure { nanos := now } →
    Timestamp.inCalendar { nanos := now } = true →
    (∀ slot ∈ s.slots, slot.entry.enqueuedAt.inCalendar = true) →
    ∃ n left, q.purgeExpired.run s = (.ok n, left) ∧
      Removed (fun e => e.enqueuedAt.IsOlder plan.retention now) s n left
  unplanned : q.plan = none → q.purgeExpired.run s = (.ok 0, s)

/-- Over a store in memory, a purge removes exactly the dead letters that are due, of two purges the
later cutoff decides, and the scheduled one removes exactly what is older than the retention. -/
theorem purges_due (hq : q.store = keeping reading) (hs : s.Distinct) : PurgesDue q s where
  purge cutoff replayedOnly :=
    ⟨_, _, purge_run hq cutoff replayedOnly s, removed_purge hs fun slot _ => Slot.isDue_iff⟩
  again cutoff replayedOnly n left hrun := by
    rw [purge_run hq] at hrun
    obtain ⟨-, rfl⟩ := Prod.mk.inj hrun
    rw [purge_run hq, purge_late_early (Timestamp.le_refl cutoff)]
  twice early late replayedOnly hle := by
    have hcount : s.removed reading (.purge early replayedOnly) +
        (serve reading (.purge early replayedOnly) s).2.removed reading (.purge late replayedOnly) =
          s.removed reading (.purge late replayedOnly) := removed_early_late hle
    have hrest : (serve reading (.purge early replayedOnly) s).2.removed reading
        (.purge late replayedOnly) = s.removed reading (.purge late replayedOnly) -
          s.removed reading (.purge early replayedOnly) := by
      omega
    refine ⟨s.removed reading (.purge late replayedOnly),
      s.removed reading (.purge early replayedOnly), _, _, purge_run hq late replayedOnly s, ?_,
      purge_run hq early replayedOnly s, by omega, ?_⟩
    · rw [purge_run hq, purge_late_early hle]
    · rw [purge_run hq, purge_early_late hle, ← hrest]
      rfl
  expired plan now hplan hclock hnow hdates := by
    rw [purgeExpired_of_plan hplan hclock]
    refine ⟨_, _, purge_run hq _ false s, removed_purge hs fun slot hslot => ?_⟩
    have hdate := hdates slot hslot
    simp only [Timestamp.inCalendar, Bool.and_eq_true, decide_eq_true_eq] at hdate
    rw [Slot.isDue_iff, Timestamp.lt_backFrom_iff hdate.1 hnow]
    simp
  unplanned := purgeExpired_of_no_plan

/-- A queue that keeps dead letters so long, a hundred seconds after the start of 1970. -/
def retaining (retention : Duration) : DeadLetterQueue (StateM MemoryStore) :=
  { DeadLetterQueue.inMemory { nanos := 100000000000 } with plan := some ⟨retention, 1⟩ }

/-- The first dead letter is of the last nanosecond before the start of a minute, the second of the
start itself, the third of a leap second between the two, the last as old as can be. -/
def backlog : MemoryStore where
  slots := [⟨letter 1 59999999999, some 5⟩, ⟨letter 2 60000000000, some 7⟩,
    ⟨{ letter 3 0 with enqueuedAt := ⟨60500000000, true⟩ }, none⟩,
    ⟨{ letter 4 0 with enqueuedAt := .earliest }, none⟩]

theorem purges_due_backlog :
    (retaining (Duration.ofSeconds 40)).store = keeping 0 ∧
      (retaining Duration.limit).store = keeping 0 ∧ backlog.Distinct ∧
      Removed (fun e => e.enqueuedAt.IsOlder (Duration.ofSeconds 40) 100000000000) backlog 3
        { slots := [⟨letter 2 60000000000, some 7⟩] } ∧
      Removed (fun e => e.enqueuedAt.IsOlder Duration.limit 100000000000) backlog 0 backlog := by
  have hs : backlog.Distinct := by decide
  have hnow : Timestamp.inCalendar { nanos := 100000000000 } = true := by decide
  have hdates : ∀ slot ∈ backlog.slots, slot.entry.enqueuedAt.inCalendar = true := by decide
  refine ⟨rfl, rfl, hs, ?_, ?_⟩
  · obtain ⟨n, left, hrun, hremoved⟩ :=
      (purges_due (q := retaining (Duration.ofSeconds 40)) rfl hs).expired _ _ rfl rfl hnow hdates
    have hminute : (retaining (Duration.ofSeconds 40)).purgeExpired.run backlog =
        (.ok 3, { slots := [⟨letter 2 60000000000, some 7⟩] }) := by rfl
    rw [hminute] at hrun
    cases hrun
    exact hremoved
  · obtain ⟨n, left, hrun, hremoved⟩ :=
      (purges_due (q := retaining Duration.limit) rfl hs).expired _ _ rfl rfl hnow hdates
    have hnever : (retaining Duration.limit).purgeExpired.run backlog = (.ok 0, backlog) := by rfl
    rw [hnever] at hrun
    cases hrun
    exact hremoved

end Queue

end MemoryStore

end Delivery
