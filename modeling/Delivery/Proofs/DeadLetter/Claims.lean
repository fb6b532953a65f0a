import Delivery.Proofs.DeadLetter.Lifetime

/-!
# Claims last for the lease

A slot keeps one reading: that of the claim it is under. What has happened to the claim on a dead
letter is read off a run and its answers instead (`claimEvents`): it was set free by an insertion or
a release, it was won, or a mark took effect. The slot is always what these events say it is
(`Recalls`), so they decide who wins the next claim.
-/

namespace Delivery

inductive ClaimEvent where
  | freed
  | won (reading : Instant)
  | marked
  deriving DecidableEq, Repr

/-- What a request and its answer say about the claim on a dead letter. -/
def StoreRequest.claimEvent? (id : EntryId) (now : Instant) :
    (request : StoreRequest) → request.Reply → Option ClaimEvent
  | .insert e, _ => if e.id = id then some .freed else none
  | .release other, _ => if other = id then some .freed else none
  | .tryClaim other, (won : Bool) => if other = id ∧ won = true then some (.won now) else none
  | .markReplayed other _, (fresh : Bool) =>
    if other = id ∧ fresh = true then some .marked else none
  | _, _ => none

/-- Every event comes of a request about this very dead letter. -/
theorem StoreRequest.source_of_claimEvent? {id : EntryId} {now : Instant} {request : StoreRequest}
    {reply : request.Reply} {event : ClaimEvent}
    (h : request.claimEvent? id now reply = some event) : match event with
      | .freed => request.insertedId? = some id ∨ request = .release id
      | .won t => now = t ∧ request = .tryClaim id
      | .marked => ∃ time, request = .markReplayed id time := by
  cases request with
  | insert e =>
    rw [claimEvent?, Option.ite_none_right_eq_some] at h
    obtain ⟨rfl, ⟨⟩⟩ := h
    exact Or.inl rfl
  | release other =>
    rw [claimEvent?, Option.ite_none_right_eq_some] at h
    obtain ⟨rfl, ⟨⟩⟩ := h
    exact Or.inr rfl
  | tryClaim other =>
    rw [claimEvent?, Option.ite_none_right_eq_some] at h
    obtain ⟨⟨rfl, -⟩, ⟨⟩⟩ := h
    exact ⟨rfl, rfl⟩
  | markReplayed other time =>
    rw [claimEvent?, Option.ite_none_right_eq_some] at h
    obtain ⟨⟨rfl, -⟩, ⟨⟩⟩ := h
    exact ⟨time, rfl⟩
  | get _ | query _ | count _ | purge _ _ => cases h

/-- The reading of the claim that was won last and has not been set free since. -/
def lastWon (events : List ClaimEvent) : Option Instant :=
  match events.getLast? with
  | some (.won t) => some t
  | _ => none

theorem lastWon_eq_some {events : List ClaimEvent} {t : Instant} :
    lastWon events = some t ↔ events.getLast? = some (.won t) := by
  unfold lastWon
  cases events.getLast? with
  | none => simp
  | some event => cases event <;> simp

theorem lastWon_concat (events : List ClaimEvent) (event : ClaimEvent) :
    lastWon (events ++ [event]) = match event with
      | .won t => some t
      | _ => none := by
  unfold lastWon
  rw [List.getLast?_concat]
  cases event <;> rfl

namespace MemoryStore

/-- What happens to the claim on a dead letter in a run, in order. -/
def claimEvents (id : EntryId) : MemoryStore → StoreRun → List ClaimEvent
  | _, [] => []
  | s, q :: rest =>
    (q.2.claimEvent? id q.1 (serve q.1 q.2 s).1).toList ++ claimEvents id (serve q.1 q.2 s).2 rest

theorem claimEvents_append (id : EntryId) (s : MemoryStore) (run rest : StoreRun) :
    s.claimEvents id (run ++ rest) = s.claimEvents id run ++ (s.after run).claimEvents id rest := by
  induction run generalizing s with
  | nil => rfl
  | cons q run ih =>
    rw [List.cons_append, claimEvents, claimEvents, ih, List.append_assoc]
    rfl

theorem claimEvents_concat (id : EntryId) (s : MemoryStore) (run : StoreRun)
    (q : Instant × StoreRequest) :
    s.claimEvents id (run ++ [q]) = s.claimEvents id run ++
      (q.2.claimEvent? id q.1 (serve q.1 q.2 (s.after run)).1).toList := by
  rw [claimEvents_append, claimEvents, claimEvents, List.append_nil]

theorem request_of_mem {id : EntryId} {event : ClaimEvent} {run : StoreRun} (s : MemoryStore)
    (h : event ∈ s.claimEvents id run) :
    ∃ q ∈ run, ∃ reply, q.2.claimEvent? id q.1 reply = some event := by
  induction run generalizing s with
  | nil => cases h
  | cons q rest ih =>
    rcases List.mem_append.mp h with hfirst | hrest
    · exact ⟨q, List.mem_cons_self, _, Option.mem_toList.mp hfirst⟩
    · obtain ⟨q', hq', hreply⟩ := ih _ hrest
      exact ⟨q', List.mem_cons_of_mem q hq', hreply⟩

theorem tryClaim_of_won {id : EntryId} {t : Instant} {run : StoreRun} (s : MemoryStore)
    (h : .won t ∈ s.claimEvents id run) : (t, .tryClaim id) ∈ run := by
  obtain ⟨⟨now, request⟩, hq, reply, hevent⟩ := request_of_mem s h
  obtain ⟨rfl, rfl⟩ := StoreRequest.source_of_claimEvent? hevent
  exact hq

theorem release_of_freed {id : EntryId} {run : StoreRun} (s : MemoryStore)
    (h : .freed ∈ s.claimEvents id run) :
    id ∈ insertedIds run ∨ ∃ now, (now, .release id) ∈ run := by
  obtain ⟨⟨now, request⟩, hq, reply, hevent⟩ := request_of_mem s h
  rcases StoreRequest.source_of_claimEvent? hevent with hinsert | rfl
  · exact Or.inl (List.mem_filterMap.mpr ⟨_, hq, hinsert⟩)
  · exact Or.inr ⟨now, hq⟩

end MemoryStore

/-! ### One reading stands for all that happened -/

/-- A slot is what has happened to the claim on its dead letter. -/
structure Slot.Recalls (slot : Slot) (events : List ClaimEvent) : Prop where
  replayed : slot.entry.replayed = true ↔ .marked ∈ events
  claimed : slot.entry.replayed = false → slot.claimedAt = lastWon events

namespace Slot.Recalls

variable {slot : Slot} {events : List ClaimEvent} {lease : Duration} {now : Instant}

theorem claim (h : slot.Recalls events) (now : Instant) :
    Slot.Recalls { slot with claimedAt := some now } (events ++ [.won now]) := by
  refine ⟨h.replayed.trans (by simp), fun _ => ?_⟩
  rw [lastWon_concat]

theorem release (h : slot.Recalls events) :
    Slot.Recalls { slot with claimedAt := none } (events ++ [.freed]) := by
  refine ⟨h.replayed.trans (by simp), fun _ => ?_⟩
  rw [lastWon_concat]

theorem markReplayed (h : slot.Recalls events) (time : Timestamp) :
    (slot.markReplayed time).Recalls
      (events ++
        (if slot.entry.replayed = false then some ClaimEvent.marked else none).toList) := by
  have hnow : (slot.markReplayed time).entry.replayed = true := by
    unfold Slot.markReplayed
    split
    · assumption
    · rfl
  refine ⟨⟨fun _ => ?_, fun _ => hnow⟩, ?_⟩
  · cases hbefore : slot.entry.replayed with
    | true => simpa using h.replayed.mp hbefore
    | false => simp
  · intro hno
    cases hnow.symm.trans hno

theorem open_iff (h : slot.Recalls events) :
    slot.entry.replayed = false ∧ slot.isClaimed lease now = false ↔
      .marked ∉ events ∧ ∀ t, events.getLast? = some (.won t) → ¬ now - t < lease := by
  rw [← Bool.not_eq_true, h.replayed]
  refine and_congr_right fun hunmarked => ?_
  have hplain : slot.entry.replayed = false := by
    rw [← Bool.not_eq_true, h.replayed]
    exact hunmarked
  rw [Slot.isClaimed, h.claimed hplain]
  simp only [← lastWon_eq_some]
  cases lastWon events with
  | none => simp
  | some t => simp

end Slot.Recalls

namespace MemoryStore

/-- Every slot is what has happened to the claim on its dead letter, and no mark has taken effect on
what was never inserted. -/
structure RecallsAll (s : MemoryStore) (run : StoreRun) (events : EntryId → List ClaimEvent) :
    Prop where
  slots : ∀ id slot, s.find? id = some slot → slot.Recalls (events id)
  unknown : ∀ id, id ∉ insertedIds run → .marked ∉ events id

theorem find?_of_unknown {lease : Duration} {run : StoreRun} (honce : InsertsOnce run)
    {id : EntryId} (hno : id ∉ insertedIds run) :
    (({ lease } : MemoryStore).after run).find? id = none :=
  Option.map_eq_none_iff.mp (stored?_eq_none honce hno)

variable {s : MemoryStore} {events : List ClaimEvent} {id : EntryId}

/-- A request other than an insertion keeps what slots recall. -/
theorem recalls_serve {ids : List EntryId} (horderly : s.Orderly ids) (now : Instant)
    {request : StoreRequest} (hno : request.insertedId? = none)
    (h : ∀ slot, s.find? id = some slot → slot.Recalls events) :
    ∀ slot, (serve now request s).2.find? id = some slot →
      slot.Recalls (events ++ (request.claimEvent? id now (serve now request s).1).toList) := by
  intro slot hslot
  cases request with
  | insert e => cases hno
  | tryClaim other =>
    rw [serve_tryClaim] at hslot ⊢
    split at hslot
    · rename_i hfree
      rw [find?_claim] at hslot
      by_cases hid : id = other
      · rw [if_pos hid] at hslot
        obtain ⟨old, hold, rfl⟩ := Option.map_eq_some_iff.mp hslot
        simpa [hfree, StoreRequest.claimEvent?, hid] using (h old hold).claim now
      · rw [if_neg hid] at hslot
        simpa [hfree, StoreRequest.claimEvent?, Ne.symm hid] using h slot hslot
    · rename_i hfree
      simpa [hfree, StoreRequest.claimEvent?] using h slot hslot
  | markReplayed other time =>
    rw [find?_markReplayed] at hslot
    by_cases hid : id = other
    · subst hid
      rw [if_pos rfl] at hslot
      obtain ⟨old, hold, rfl⟩ := Option.map_eq_some_iff.mp hslot
      have hanswer : (serve now (.markReplayed id time) s : Bool × MemoryStore).1 =
          !old.entry.replayed := by
        rw [answer_markReplayed, hold]
        rfl
      simpa [StoreRequest.claimEvent?, hanswer] using (h old hold).markReplayed time
    · rw [if_neg hid] at hslot
      simpa [StoreRequest.claimEvent?, Ne.symm hid] using h slot hslot
  | release other =>
    rw [find?_release] at hslot
    by_cases hid : id = other
    · rw [if_pos hid] at hslot
      obtain ⟨old, hold, rfl⟩ := Option.map_eq_some_iff.mp hslot
      simpa [StoreRequest.claimEvent?, hid] using (h old hold).release
    · rw [if_neg hid] at hslot
      simpa [StoreRequest.claimEvent?, Ne.symm hid] using h slot hslot
  | purge cutoff replayedOnly =>
    rw [find?_purge horderly.nodup] at hslot
    have hkept := (Option.filter_eq_some_iff.mp hslot).1
    simpa [StoreRequest.claimEvent?] using h slot hkept
  | get other => simpa [StoreRequest.claimEvent?] using h slot hslot
  | query f => simpa [StoreRequest.claimEvent?] using h slot hslot
  | count f => simpa [StoreRequest.claimEvent?] using h slot hslot

/-- A mark takes effect only on what is stored. -/
theorem unmarked_serve (hnone : s.find? id = none) (now : Instant) (request : StoreRequest)
    (h : .marked ∉ events) :
    .marked ∉ events ++ (request.claimEvent? id now (serve now request s).1).toList := by
  rw [List.mem_append, Option.mem_toList, not_or]
  refine ⟨h, fun hevent => ?_⟩
  obtain ⟨time, rfl⟩ := StoreRequest.source_of_claimEvent? hevent
  have hanswer : (serve now (.markReplayed id time) s : Bool × MemoryStore).1 = false := by
    rw [answer_markReplayed, hnone]
    rfl
  simp [StoreRequest.claimEvent?, hanswer] at hevent

theorem recallsAll_after (lease : Duration) (run : StoreRun) (honce : InsertsOnce run) :
    RecallsAll (({ lease } : MemoryStore).after run) run
      fun id => ({ lease } : MemoryStore).claimEvents id run := by
  induction run using List.reverseRecOn with
  | nil => exact ⟨fun id slot hslot => (by cases hslot), fun id _ => by simp [claimEvents]⟩
  | append_singleton run q ih =>
    have h := ih honce.of_append
    have horderly := orderly_after lease run honce.of_append
    obtain ⟨now, request⟩ := q
    have hunknown : ∀ id, id ∉ insertedIds run →
        .marked ∉ ({ lease } : MemoryStore).claimEvents id (run ++ [(now, request)]) := by
      intro id hno
      rw [claimEvents_concat]
      exact unmarked_serve (find?_of_unknown honce.of_append hno) now request (h.unknown id hno)
    refine ⟨?_, ?_⟩
    · intro id slot hslot
      rw [after_concat] at hslot
      rw [claimEvents_concat]
      cases request with
      | insert e =>
        rw [find?_insert] at hslot
        by_cases hid : id = e.id
        · obtain ⟨hnew, hplain, -⟩ := honce.fresh
          rw [if_pos hid] at hslot
          cases hslot
          have hevents := hunknown id (hid ▸ hnew)
          rw [claimEvents_concat] at hevents
          refine ⟨?_, fun _ => ?_⟩
          · rw [hplain]
            simpa using hevents
          · simp [StoreRequest.claimEvent?, hid, lastWon_concat]
        · rw [if_neg hid] at hslot
          simpa [StoreRequest.claimEvent?, Ne.symm hid] using h.slots id slot hslot
      | _ => exact recalls_serve horderly now rfl (h.slots id) slot hslot
    · intro id hno
      refine hunknown id fun hin => hno ?_
      have hsub : (insertedIds run).Sublist (insertedIds (run ++ [(now, request)])) :=
        (List.sublist_append_left run _).filterMap _
      exact hsub.subset hin

/-! ### Who wins the next claim -/

/-- A dead letter of this id was inserted and no purge has fallen on it since. -/
def Present (id : EntryId) (run : StoreRun) : Prop :=
  ∃ before now e since, run = before ++ (now, .insert e) :: since ∧ e.id = id ∧ ¬ Purged e since

/-- A dead letter can be claimed at a reading, by the requests before it and what they have made of
the claim. -/
structure OpenToClaim (lease : Duration) (id : EntryId) (run : StoreRun) (events : List ClaimEvent)
    (now : Instant) : Prop where
  present : Present id run
  unmarked : .marked ∉ events
  -- Nobody has won it since it was inserted or released last, or the last claim is too old.
  expired : ∀ t, events.getLast? = some (.won t) → t + lease ≤ now

section Runs

variable {lease : Duration} {run before between rest : StoreRun} {t now : Instant}

theorem find?_eq_some_iff (honce : InsertsOnce run) :
    (∃ slot, (({ lease } : MemoryStore).after run).find? id = some slot) ↔ Present id run := by
  have hstored : (∃ slot, (({ lease } : MemoryStore).after run).find? id = some slot) ↔
      (({ lease } : MemoryStore).after run).stored? id ≠ none := by
    rw [stored?, Ne, Option.map_eq_none_iff, ← Ne, Option.ne_none_iff_exists']
  rw [hstored]
  constructor
  · intro hsome
    by_cases hin : id ∈ insertedIds run
    · obtain ⟨first, start, e, since, rfl, rfl⟩ := mem_insertedIds hin
      refine ⟨first, start, e, since, rfl, rfl, fun hp => hsome ?_⟩
      rw [stored?_since lease first since start e honce, Entry.left?, if_pos hp]
    · exact absurd (stored?_eq_none honce hin) hsome
  · rintro ⟨first, start, e, since, rfl, rfl, hno⟩
    rw [stored?_since lease first since start e honce, Entry.left?, if_neg hno]
    simp

theorem won_after_iff (honce : InsertsOnce run) (hclock : ∀ q ∈ run, q.1 ≤ now) :
    (({ lease } : MemoryStore).after run).Won id now ↔
      OpenToClaim lease id run (({ lease } : MemoryStore).claimEvents id run) now := by
  have hrecalls := (recallsAll_after lease run honce).slots id
  have hlease : (({ lease } : MemoryStore).after run).lease = lease := lease_after _ run
  -- a claim in the run is not ahead of the clock, so its age tells whether it is too old
  have hage : ∀ t, (({ lease } : MemoryStore).claimEvents id run).getLast? = some (.won t) →
      (¬ now - t < lease ↔ t + lease ≤ now) := by
    intro t hlast
    have hpast : t ≤ now := hclock _ (tryClaim_of_won _ (List.mem_of_getLast? hlast))
    exact Nat.not_lt.trans (Nat.le_sub_iff_add_le' hpast)
  rw [won_iff, hlease]
  constructor
  · rintro ⟨slot, hslot, hfree⟩
    obtain ⟨hunmarked, hold⟩ := (hrecalls slot hslot).open_iff.mp hfree
    exact ⟨(find?_eq_some_iff honce).mp ⟨slot, hslot⟩, hunmarked,
      fun t hlast => (hage t hlast).mp (hold t hlast)⟩
  · rintro ⟨hpresent, hunmarked, hold⟩
    obtain ⟨slot, hslot⟩ : ∃ slot, (({ lease } : MemoryStore).after run).find? id = some slot :=
      (find?_eq_some_iff honce).mpr hpresent
    exact ⟨slot, hslot, (hrecalls slot hslot).open_iff.mpr
      ⟨hunmarked, fun t hlast => (hage t hlast).mpr (hold t hlast)⟩⟩

theorem claimEvents_won (s : MemoryStore) (hwon : (s.after before).Won id t) :
    s.claimEvents id (before ++ (t, .tryClaim id) :: between) =
      s.claimEvents id before ++
        .won t :: (s.after (before ++ [(t, .tryClaim id)])).claimEvents id between := by
  have hanswer : (serve t (.tryClaim id) (s.after before) : Bool × MemoryStore).1 = true := hwon
  rw [claimEvents_append, claimEvents, after_concat]
  simp [StoreRequest.claimEvent?, hanswer]

/-- Between two claims that are won falls a release, or a whole lease. -/
theorem released_or_expired (honce : InsertsOnce (before ++ (t, .tryClaim id) :: between))
    (hclock : ∀ q ∈ between, t ≤ q.1)
    (hfirst : (({ lease } : MemoryStore).after before).Won id t)
    (hsecond : OpenToClaim lease id (before ++ (t, .tryClaim id) :: between)
      (({ lease } : MemoryStore).claimEvents id (before ++ (t, .tryClaim id) :: between)) now) :
    (∃ later, (later, .release id) ∈ between) ∨ t + lease ≤ now := by
  obtain ⟨-, hunmarked, hexpired⟩ := hsecond
  rw [claimEvents_won _ hfirst] at hunmarked hexpired
  -- what is inserted once is not inserted again after its first claim
  have hagain : id ∉ insertedIds between := by
    intro hin
    obtain ⟨slot, hslot, -⟩ := won_iff.mp hfirst
    have hbefore : id ∈ insertedIds before := by
      by_contra hno
      rw [find?_of_unknown honce.of_append hno] at hslot
      cases hslot
    have hnodup := honce.nodup
    rw [insertedIds, List.filterMap_append, List.filterMap_cons_none rfl] at hnodup
    exact (List.nodup_append.mp hnodup).2.2 id hbefore id hin rfl
  generalize ({ lease } : MemoryStore).after (before ++ [(t, .tryClaim id)]) = s
    at hunmarked hexpired
  by_cases hfreed : ClaimEvent.freed ∈ s.claimEvents id between
  · exact Or.inl ((release_of_freed s hfreed).resolve_left hagain)
  · right
    obtain ⟨last, hlast⟩ : ∃ last,
        (ClaimEvent.won t :: s.claimEvents id between).getLast? = some last :=
      ⟨_, List.getLast?_cons⟩
    rw [List.getLast?_append_cons] at hexpired
    have hmem := List.mem_of_getLast? hlast
    cases last with
    | freed =>
      rcases List.mem_cons.mp hmem with heq | hin
      · cases heq
      · exact absurd hin hfreed
    | marked => exact absurd (List.mem_append_right _ hmem) hunmarked
    | won u =>
      have hafter : t ≤ u := by
        rcases List.mem_cons.mp hmem with heq | hin
        · cases heq
          exact Nat.le_refl t
        · exact hclock _ (tryClaim_of_won s hin)
      exact Nat.le_trans (Nat.add_le_add_right hafter lease) (hexpired u hlast)

end Runs

/-- Claims on one dead letter are exclusive exactly for the lease. -/
structure LeasesHold (lease : Duration) (id : EntryId) (run : StoreRun) : Prop where
  won : ∀ before now rest, run = before ++ (now, .tryClaim id) :: rest →
    ((({ lease } : MemoryStore).after before).Won id now ↔
      OpenToClaim lease id before (({ lease } : MemoryStore).claimEvents id before) now)
  -- A refused claim changes nothing, so it does not extend the claim that it met.
  refused : ∀ before now rest, run = before ++ (now, .tryClaim id) :: rest →
    ¬ (({ lease } : MemoryStore).after before).Won id now →
      ({ lease } : MemoryStore).after (before ++ [(now, .tryClaim id)]) =
        ({ lease } : MemoryStore).after before
  apart : ∀ before t between now rest,
    run = before ++ (t, .tryClaim id) :: (between ++ (now, .tryClaim id) :: rest) →
    (({ lease } : MemoryStore).after before).Won id t →
    (({ lease } : MemoryStore).after (before ++ (t, .tryClaim id) :: between)).Won id now →
      (∃ later, (later, .release id) ∈ between) ∨ t + lease ≤ now

/-- Whatever is done with a store in memory, in the order of the clock, a claim on a dead letter is
won exactly if it is there, no mark has taken effect, and it is not under a claim younger than the
lease. -/
theorem leasesHold_of_run (lease : Duration) (run : StoreRun) (honce : InsertsOnce run)
    (hclock : run.Pairwise (·.1 ≤ ·.1)) (id : EntryId) : LeasesHold lease id run := by
  have hwon : ∀ before now rest, run = before ++ (now, .tryClaim id) :: rest →
      ((({ lease } : MemoryStore).after before).Won id now ↔
        OpenToClaim lease id before (({ lease } : MemoryStore).claimEvents id before) now) := by
    rintro before now rest rfl
    have hpast := (List.pairwise_append.mp hclock).2.2
    exact won_after_iff honce.of_append fun q hq => hpast q hq _ List.mem_cons_self
  refine ⟨hwon, ?_, ?_⟩
  · intro before now rest _ hlost
    rw [after_concat]
    exact lost_eq (Bool.not_eq_true _ ▸ hlost)
  · rintro before t between now rest rfl hfirst hsecond
    have hsplit : before ++ (t, .tryClaim id) :: (between ++ (now, .tryClaim id) :: rest) =
        (before ++ (t, .tryClaim id) :: between) ++ (now, .tryClaim id) :: rest := by simp
    have hopen := (hwon _ now rest hsplit).mp hsecond
    have hfuture := (List.pairwise_cons.mp (List.pairwise_append.mp hclock).2.1).1
    rw [hsplit] at honce
    exact released_or_expired honce.of_append
      (fun q hq => hfuture q (List.mem_append_left _ hq)) hfirst hopen

/-- The claim of 1 is met by one that is too early, is followed by another once its lease is over,
and is released. The dead letter is claimed again at once, and no more after its mark. -/
def threeClaims : StoreRun :=
  [(0, .insert (letter 1 10)), (1, .tryClaim ⟨1⟩), (3, .tryClaim ⟨1⟩), (6, .tryClaim ⟨1⟩),
   (7, .release ⟨1⟩), (7, .tryClaim ⟨1⟩), (8, .markReplayed ⟨1⟩ ⟨50, false⟩), (9, .tryClaim ⟨1⟩)]

theorem leasesHold_of_threeClaims :
    InsertsOnce threeClaims ∧ threeClaims.Pairwise (·.1 ≤ ·.1) ∧
      LeasesHold 5 ⟨1⟩ threeClaims ∧
      ({ lease := 5 } : MemoryStore).claimEvents ⟨1⟩ threeClaims =
        [.freed, .won 1, .won 6, .freed, .won 7, .marked] ∧
      ({ lease := 5 } : MemoryStore).after (threeClaims.take 3) =
        ({ lease := 5 } : MemoryStore).after (threeClaims.take 2) ∧
      OpenToClaim 5 ⟨1⟩ (threeClaims.take 3)
        (({ lease := 5 } : MemoryStore).claimEvents ⟨1⟩ (threeClaims.take 3)) 6 := by
  have honce : InsertsOnce threeClaims := by
    refine ⟨by decide, ?_⟩
    intro now e he
    have hcases : now = 0 ∧ e = letter 1 10 := by simpa [threeClaims] using he
    obtain ⟨-, rfl⟩ := hcases
    exact ⟨rfl, rfl⟩
  have hclock : threeClaims.Pairwise (·.1 ≤ ·.1) := by decide
  have hhold := leasesHold_of_run 5 threeClaims honce hclock ⟨1⟩
  refine ⟨honce, hclock, hhold, by decide, ?_, ?_⟩
  · exact hhold.refused (threeClaims.take 2) 3 (threeClaims.drop 3) rfl (by unfold Won; decide)
  · exact (hhold.won (threeClaims.take 3) 6 (threeClaims.drop 4) rfl).mp (by unfold Won; decide)

end MemoryStore

end Delivery
