import Delivery.Proofs.Relational.Requests

/-!
# Runs of both stores

From an empty table and an empty store in memory on, both give the same answers to a run of
requests and keep the same dead letters, as long as no claim is asked for exactly a lease after the
last one on the dead letter.
-/

namespace Delivery

namespace RelationalStore

variable {s : RelationalStore}

/-- The records after a run on an empty table, in which each request is made at its time. -/
noncomputable def recordsAfter (s : RelationalStore) (start : Int) (run : StoreRun) : Records :=
  run.foldl (fun records q => (s.answer (Timestamp.ofClock start q.1) q.2 records).2) []

theorem recordsAfter_concat (start : Int) (run : StoreRun) (q : Instant × StoreRequest) :
    s.recordsAfter start (run ++ [q]) =
      (s.answer (Timestamp.ofClock start q.1) q.2 (s.recordsAfter start run)).2 := by
  simp only [recordsAfter, List.foldl_append, List.foldl_cons, List.foldl_nil]

end RelationalStore

/-- A run that both stores take. Ids are inserted once, and time does not go back. -/
structure Portable (start : Int) (run : StoreRun) : Prop where
  requests : ∀ q ∈ run, q.2.Portable
  once : (insertedIds run).Nodup
  ordered : run.Pairwise fun p q => p.1 ≤ q.1
  inCalendar : ∀ q ∈ run, (Timestamp.ofClock start q.1).inCalendar = true

/-- No claim is asked for exactly a lease after the last one. -/
def Untied (lease : Duration) (run : StoreRun) : Prop :=
  ∀ before q rest, run = before ++ q :: rest →
    (({ lease } : MemoryStore).after before).isTie q.1 q.2 = false

theorem untied_iff {lease : Duration} {run : StoreRun} : Untied lease run ↔
    ∀ i : Fin run.length,
      (({ lease } : MemoryStore).after (run.take i)).isTie (run.get i).1 (run.get i).2 = false := by
  constructor
  · intro h i
    refine h (run.take i) (run.get i) (run.drop (i + 1)) ?_
    rw [List.get_eq_getElem, ← List.drop_eq_getElem_cons, List.take_append_drop]
  · rintro h before q rest rfl
    have hq := h ⟨before.length, by simp⟩
    simpa using hq

instance (lease : Duration) (run : StoreRun) : Decidable (Untied lease run) :=
  decidable_of_iff _ untied_iff.symm

namespace Portable

variable {start : Int} {run rest : StoreRun} {lease : Duration}

theorem of_append (h : Portable start (run ++ rest)) : Portable start run where
  requests q hq := h.requests q (List.mem_append_left _ hq)
  once := by
    have hboth := h.once
    rw [insertedIds, List.filterMap_append] at hboth
    exact (List.nodup_append.mp hboth).1
  ordered := (List.pairwise_append.mp h.ordered).1
  inCalendar q hq := h.inCalendar q (List.mem_append_left _ hq)

theorem of_split {before : StoreRun} {q : Instant × StoreRequest} (h : Portable start run)
    (hrun : run = before ++ q :: rest) : Portable start (before ++ [q]) := by
  rw [hrun, ← List.singleton_append, ← List.append_assoc] at h
  exact h.of_append

theorem insertedIds_concat (run : StoreRun) (q : Instant × StoreRequest) :
    insertedIds (run ++ [q]) = insertedIds run ++ q.2.insertedId?.toList := by
  rw [insertedIds, insertedIds, List.filterMap_append]
  cases h : q.2.insertedId? <;> simp [h]

theorem fresh {q : Instant × StoreRequest} (h : Portable start (run ++ [q])) :
    ∀ id, q.2.insertedId? = some id → id ∉ insertedIds run := by
  intro id hid hmem
  have honce := h.once
  rw [insertedIds_concat, hid] at honce
  exact (List.nodup_append.mp honce).2.2 id hmem id (by simp) rfl

theorem before_concat {q : Instant × StoreRequest} (h : Portable start (run ++ [q])) :
    ∀ p ∈ run, p.1 ≤ q.1 := fun p hp =>
  (List.pairwise_append.mp h.ordered).2.2 p hp q (by simp)

/-- The last request is made at the latest time. -/
theorem exists_last (h : Portable start run) : ∃ last, ∀ q ∈ run, q.1 ≤ last := by
  induction run using List.reverseRecOn with
  | nil => exact ⟨0, by simp⟩
  | append_singleton run q _ =>
    refine ⟨q.1, fun p hp => ?_⟩
    rcases List.mem_append.mp hp with hp | hp
    · exact h.before_concat p hp
    · rw [List.mem_singleton.mp hp]

end Portable

theorem Untied.of_append {lease : Duration} {run rest : StoreRun}
    (h : Untied lease (run ++ rest)) : Untied lease run := fun before q after heq =>
  h before q (after ++ rest) (by rw [heq, List.append_assoc, List.cons_append])

theorem Portable.isShown {start : Int} {run : StoreRun} (h : Portable start run)
    (lease : Duration) {later : Instant} (hlater : ∀ q ∈ run, q.1 ≤ later) :
    (({ lease } : MemoryStore).after run).IsShown start later (insertedIds run) := by
  induction run using List.reverseRecOn generalizing later with
  | nil =>
    have hnone : (({ lease } : MemoryStore).after []).slots = [] := rfl
    exact ⟨by simp [hnone], by simp [hnone], by simp [hnone]⟩
  | append_singleton run q ih =>
    have hq : q ∈ run ++ [q] := List.mem_append_right _ List.mem_cons_self
    have hbefore := ih h.of_append h.before_concat
    rw [MemoryStore.after_concat, Portable.insertedIds_concat]
    exact (hbefore.next (h.requests q hq) h.fresh (h.inCalendar q hq)).mono (hlater q hq)

namespace RelationalStore

variable {s : RelationalStore} {start : Int} {n : Nat} {run : StoreRun}

theorem recordsAfter_eq (hlease : s.lease = Duration.ofSeconds n) (h : Portable start run)
    (huntied : Untied s.lease run) :
    s.recordsAfter start run = (({ lease := s.lease } : MemoryStore).after run).table start := by
  induction run using List.reverseRecOn with
  | nil => rfl
  | append_singleton run q ih =>
    have hq : q ∈ run ++ [q] := List.mem_append_right _ List.mem_cons_self
    have hm := h.of_append.isShown s.lease h.before_concat
    have hanswer := answer_eq hm (h.requests q hq) h.fresh hlease (MemoryStore.lease_after _ run)
      (h.inCalendar q hq) (huntied run q [] rfl)
    rw [recordsAfter_concat, ih h.of_append huntied.of_append, hanswer, MemoryStore.after_concat]

theorem answer_in_run (hlease : s.lease = Duration.ofSeconds n) (h : Portable start run)
    {before rest : StoreRun} {q : Instant × StoreRequest} (hrun : run = before ++ q :: rest)
    (huntied : Untied s.lease before)
    (hno : (({ lease := s.lease } : MemoryStore).after before).isTie q.1 q.2 = false) :
    (s.answer (Timestamp.ofClock start q.1) q.2 (s.recordsAfter start before)).1 =
      .ok (MemoryStore.serve q.1 q.2 (({ lease := s.lease } : MemoryStore).after before)).1 := by
  have hportable := h.of_split hrun
  have hq : q ∈ before ++ [q] := List.mem_append_right _ List.mem_cons_self
  have hm := hportable.of_append.isShown s.lease hportable.before_concat
  rw [recordsAfter_eq hlease hportable.of_append huntied,
    answer_eq hm (hportable.requests q hq) hportable.fresh hlease (MemoryStore.lease_after _ before)
      (hportable.inCalendar q hq) hno]

theorem tie_in_run (hlease : s.lease = Duration.ofSeconds n) (h : Portable start run)
    {before rest : StoreRun} {now : Instant} {id : EntryId}
    (hrun : run = before ++ (now, .tryClaim id) :: rest) (huntied : Untied s.lease before)
    (htie : (({ lease := s.lease } : MemoryStore).after before).isTie now (.tryClaim id) = true) :
    (MemoryStore.serve now (.tryClaim id) (({ lease := s.lease } : MemoryStore).after before)).1 =
        true ∧
      (s.answer (Timestamp.ofClock start now) (.tryClaim id) (s.recordsAfter start before)).1 =
        .ok false := by
  have hportable := h.of_split hrun
  have hq : (now, .tryClaim id) ∈ before ++ [(now, .tryClaim id)] :=
    List.mem_append_right _ List.mem_cons_self
  have hid : id.value < EntryId.limit := hportable.requests (now, .tryClaim id) hq
  have hnow : (Timestamp.ofClock start now).inCalendar = true :=
    hportable.inCalendar (now, .tryClaim id) hq
  have hm : (({ lease := s.lease } : MemoryStore).after before).IsShown start now
    (insertedIds before) := hportable.of_append.isShown s.lease hportable.before_concat
  rw [recordsAfter_eq hlease hportable.of_append huntied]
  exact answer_of_tie hm hid hlease (MemoryStore.lease_after _ before) hnow htie

theorem rows_after (hlease : s.lease = Duration.ofSeconds n) (h : Portable start run)
    (huntied : Untied s.lease run) :
    ((s.recordsAfter start run).map Record.row).mapM Row.toEntry =
      .ok ((({ lease := s.lease } : MemoryStore).after run).slots.map (·.entry)) := by
  obtain ⟨last, hlast⟩ := h.exists_last
  have hm := h.isShown s.lease hlast
  have hbound : ((({ lease := s.lease } : MemoryStore).after run).slots.map (·.entry)).map
      Entry.bound = (({ lease := s.lease } : MemoryStore).after run).slots.map (·.entry) := by
    refine (List.map_congr_left fun e he => ?_).trans (List.map_id _)
    obtain ⟨slot, hslot, rfl⟩ := List.mem_map.mp he
    exact Entry.bound_eq (hm.shown slot hslot).attempts
  rw [recordsAfter_eq hlease h huntied, MemoryStore.table,
    Slot.mapM_toEntry start fun slot hslot => (hm.shown slot hslot).storable, hbound]

/-- With the same lease of whole seconds and the same clock, a database and a store in memory give
the same answers to the same requests and keep the same dead letters, if no claim is asked for
exactly a lease after the last one. Where one is, the store in memory grants it and the database
refuses it. -/
theorem follows_memory (s : RelationalStore) (start : Int) {n : Nat} {run : StoreRun}
    (hlease : s.lease = Duration.ofSeconds n) (h : Portable start run) :
    (Untied s.lease run →
      (∀ before q rest, run = before ++ q :: rest →
        (s.answer (Timestamp.ofClock start q.1) q.2 (s.recordsAfter start before)).1 =
          .ok (MemoryStore.serve q.1 q.2 (({ lease := s.lease } : MemoryStore).after before)).1) ∧
      ((s.recordsAfter start run).map Record.row).mapM Row.toEntry =
        .ok ((({ lease := s.lease } : MemoryStore).after run).slots.map (·.entry))) ∧
    ∀ before now id rest, run = before ++ (now, .tryClaim id) :: rest → Untied s.lease before →
      (({ lease := s.lease } : MemoryStore).after before).isTie now (.tryClaim id) = true →
        (MemoryStore.serve now (.tryClaim id)
          (({ lease := s.lease } : MemoryStore).after before)).1 = true ∧
        (s.answer (Timestamp.ofClock start now) (.tryClaim id) (s.recordsAfter start before)).1 =
          .ok false := by
  constructor
  · intro huntied
    refine ⟨?_, rows_after hlease h huntied⟩
    intro before q rest hrun
    exact answer_in_run hlease h hrun (hrun ▸ huntied).of_append (huntied before q rest hrun)
  · intro before now id rest hrun huntied htie
    exact tie_in_run hlease h hrun huntied htie

/-- Between two refusals a claim is taken, lost to another one a moment after the lease, released
and taken again. The other dead letter is marked and purged. -/
def renewals : StoreRun :=
  [(0, .insert (MemoryStore.letter 1 1000)), (5, .tryClaim ⟨1⟩), (6, .tryClaim ⟨1⟩),
   (60000000006, .tryClaim ⟨1⟩), (60000000007, .insert (MemoryStore.letter 2 2000)),
   (60000000008, .release ⟨1⟩), (60000000009, .tryClaim ⟨1⟩),
   (60000000009, .markReplayed ⟨2⟩ { nanos := 3000 }), (60000000010, .purge { nanos := 9000 } true),
   (120000000009, .tryClaim ⟨1⟩)]

def oneMinute : RelationalStore := ⟨⟨"public", "dead_letters"⟩, 1, Duration.ofSeconds 60⟩

theorem portable_renewals : Portable 0 renewals where
  requests := by
    have hletter (id : Nat) (nanos : Int) (hid : id < EntryId.limit)
        (hwhole : ({ nanos } : Timestamp).IsWhole) :
        (StoreRequest.insert (MemoryStore.letter id nanos)).Portable :=
      ⟨⟨hid, hwhole, nofun⟩, Nat.zero_le _⟩
    have hid : (⟨1⟩ : EntryId).value < EntryId.limit := by decide
    simp only [renewals, List.forall_mem_cons]
    exact ⟨hletter 1 1000 (by decide) rfl, hid, hid, hid, hletter 2 2000 (by decide) rfl, hid, hid,
      ⟨by decide, rfl⟩, rfl, hid, fun _ hq => absurd hq List.not_mem_nil⟩
  once := by decide
  ordered := by decide
  inCalendar := by decide

theorem follows_memory_renewals :
    (oneMinute.answer (Timestamp.ofClock 0 60000000006) (.tryClaim ⟨1⟩)
      (oneMinute.recordsAfter 0 (renewals.take 3))).1 = .ok true ∧
    ((oneMinute.recordsAfter 0 (renewals.take 9)).map Record.row).mapM Row.toEntry =
      .ok [MemoryStore.letter 1 1000] ∧
    (oneMinute.answer (Timestamp.ofClock 0 120000000009) (.tryClaim ⟨1⟩)
      (oneMinute.recordsAfter 0 (renewals.take 9))).1 = .ok false := by
  have hfirst : Portable 0 (renewals.take 9) := by
    refine Portable.of_append (?_ : Portable 0 (renewals.take 9 ++ renewals.drop 9))
    rw [List.take_append_drop]
    exact portable_renewals
  have huntied : Untied oneMinute.lease (renewals.take 9) := by decide
  obtain ⟨hanswers, hrows⟩ := (follows_memory oneMinute 0 (n := 60) rfl hfirst).1 huntied
  obtain ⟨-, hrefused⟩ := (follows_memory oneMinute 0 (n := 60) rfl portable_renewals).2
    (renewals.take 9) 120000000009 ⟨1⟩ [] rfl huntied (by decide)
  refine ⟨?_, ?_, hrefused⟩
  · refine (hanswers (renewals.take 3) (60000000006, .tryClaim ⟨1⟩) ((renewals.take 9).drop 4)
      rfl).trans ?_
    exact congrArg Except.ok (by decide)
  · refine hrows.trans (congrArg Except.ok ?_)
    decide

end RelationalStore

end Delivery
