import Mathlib.Data.List.Induction
import Mathlib.Data.List.Nodup
import Delivery.Proofs.DeadLetter.Memory

/-!
# The life of a dead letter in memory

A run is a list of requests to a store that starts out empty, at any clock readings. When every id
is inserted once, and not as replayed already, the life of a dead letter follows from the requests
after its insertion: it is there until a purge falls on it, and it is as it was inserted except that
the first mark made while it is there has set its replay flag and time (`after_keepsAll`).

What one request does to what can be got under an id is said once (`stored?_serve`).
-/

namespace Delivery

abbrev StoreRun := List (Instant × StoreRequest)

/-! ### What a run says about a dead letter -/

def StoreRequest.insertedId? : StoreRequest → Option EntryId
  | .insert e => some e.id
  | _ => none

def insertedIds (run : StoreRun) : List EntryId := run.filterMap (·.2.insertedId?)

/-- Every id is inserted at most once, and not as replayed already. -/
structure InsertsOnce (run : StoreRun) : Prop where
  nodup : (insertedIds run).Nodup
  unreplayed : ∀ now e, (now, .insert e) ∈ run → e.replayed = false ∧ e.replayedAt = none

def StoreRequest.markOf? (id : EntryId) : StoreRequest → Option Timestamp
  | .markReplayed other time => if other = id then some time else none
  | _ => none

/-- The time of the first mark of a dead letter in what has been done since it was inserted. -/
def firstMark (id : EntryId) (since : StoreRun) : Option Timestamp :=
  since.findSome? (·.2.markOf? id)

/-- A purge falls on a dead letter by the cutoff, unless it is for replayed ones only and the dead
letter has not been marked. -/
def SelectedBy (e : Entry) (since : StoreRun) : StoreRequest → Prop
  | .purge cutoff replayedOnly =>
    e.enqueuedAt < cutoff ∧ (replayedOnly = true → (firstMark e.id since).isSome = true)
  | _ => False

/-- Among what has been done since a dead letter was inserted is a purge that falls on it. -/
def Purged (e : Entry) (since : StoreRun) : Prop :=
  ∃ before q after, since = before ++ q :: after ∧ SelectedBy e before q.2

instance (e : Entry) (since : StoreRun) : (q : StoreRequest) → Decidable (SelectedBy e since q)
  | .purge cutoff replayedOnly => inferInstanceAs (Decidable (e.enqueuedAt < cutoff ∧
      (replayedOnly = true → (firstMark e.id since).isSome = true)))
  | .insert _ | .get _ | .query _ | .count _ | .tryClaim _ | .markReplayed _ _ | .release _ =>
    inferInstanceAs (Decidable False)

theorem purged_iff {e : Entry} {since : StoreRun} :
    Purged e since ↔ ∃ i : Fin since.length, SelectedBy e (since.take i) since[i].2 := by
  constructor
  · rintro ⟨before, q, after, rfl, hsel⟩
    exact ⟨⟨before.length, by simp⟩, by simpa using hsel⟩
  · rintro ⟨i, hsel⟩
    refine ⟨since.take i, since[i], since.drop (i + 1), ?_, hsel⟩
    rw [Fin.getElem_fin, ← List.drop_eq_getElem_cons, List.take_append_drop]

instance (e : Entry) (since : StoreRun) : Decidable (Purged e since) :=
  decidable_of_iff _ purged_iff.symm

/-- The dead letter as it has to be stored: as it was inserted, or marked by its first mark. -/
def Entry.asStored (e : Entry) (since : StoreRun) : Entry :=
  match firstMark e.id since with
  | none => e
  | some time => e.markReplayed time

def Entry.markOnce (e : Entry) (time : Timestamp) : Entry :=
  if e.replayed then e else e.markReplayed time

def Entry.isDue (e : Entry) (cutoff : Timestamp) (replayedOnly : Bool) : Bool :=
  e.enqueuedAt < cutoff && (e.replayed || !replayedOnly)

/-- What is left of a dead letter after what has been done since it was inserted. -/
def Entry.left? (e : Entry) (since : StoreRun) : Option Entry :=
  if Purged e since then none else some (e.asStored since)

theorem insertedIds_insert (run : StoreRun) (now : Instant) (e : Entry) :
    insertedIds (run ++ [(now, .insert e)]) = insertedIds run ++ [e.id] := by
  rw [insertedIds, List.filterMap_append]
  rfl

theorem insertedIds_other (run : StoreRun) {q : Instant × StoreRequest}
    (h : q.2.insertedId? = none) : insertedIds (run ++ [q]) = insertedIds run := by
  simp [insertedIds, h]

theorem firstMark_concat (id : EntryId) (since : StoreRun) (q : Instant × StoreRequest) :
    firstMark id (since ++ [q]) = (firstMark id since).or (q.2.markOf? id) := by
  rw [firstMark, List.findSome?_append]
  cases h : q.2.markOf? id <;> simp [firstMark, h]

theorem purged_concat (e : Entry) (since : StoreRun) (q : Instant × StoreRequest) :
    Purged e (since ++ [q]) ↔ Purged e since ∨ SelectedBy e since q.2 := by
  constructor
  · rintro ⟨before, q', after, heq, hsel⟩
    rcases List.eq_nil_or_concat after with rfl | ⟨rest, last, rfl⟩
    · obtain ⟨rfl, hq⟩ := List.append_inj' heq rfl
      cases hq
      exact Or.inr hsel
    · have hsplit : since ++ [q] = (before ++ q' :: rest) ++ [last] := by
        rw [heq, List.append_assoc, List.cons_append, List.concat_eq_append]
      obtain ⟨rfl, -⟩ := List.append_inj' hsplit rfl
      exact Or.inl ⟨before, q', rest, rfl, hsel⟩
  · rintro (⟨before, q', after, rfl, hsel⟩ | hsel)
    · exact ⟨before, q', after ++ [q], by simp, hsel⟩
    · exact ⟨since, q, [], rfl, hsel⟩

namespace Entry

variable {e : Entry} {since : StoreRun}

theorem asStored_concat_of_none {q : Instant × StoreRequest} (h : q.2.markOf? e.id = none) :
    e.asStored (since ++ [q]) = e.asStored since := by
  unfold asStored
  rw [firstMark_concat, h, Option.or_none]

theorem markOnce_asStored (hplain : e.replayed = false) (since : StoreRun) (now : Instant)
    (time : Timestamp) :
    (e.asStored since).markOnce time =
      e.asStored (since ++ [(now, .markReplayed e.id time)]) := by
  have hmark := firstMark_concat e.id since (now, .markReplayed e.id time)
  simp only [StoreRequest.markOf?, if_true] at hmark
  unfold asStored
  rw [hmark]
  cases firstMark e.id since with
  | none => simp [markOnce, hplain]
  | some first => simp [markOnce, Entry.markReplayed]

theorem replayed_asStored (hplain : e.replayed = false) (since : StoreRun) :
    (e.asStored since).replayed = (firstMark e.id since).isSome := by
  unfold asStored
  cases firstMark e.id since with
  | none => exact hplain
  | some time => rfl

theorem isDue_asStored (hplain : e.replayed = false) (since : StoreRun) {cutoff : Timestamp}
    {replayedOnly : Bool} :
    (e.asStored since).isDue cutoff replayedOnly = true ↔
      SelectedBy e since (.purge cutoff replayedOnly) := by
  have htime : (e.asStored since).enqueuedAt = e.enqueuedAt := by
    unfold asStored
    split <;> rfl
  simp only [isDue, htime, replayed_asStored hplain, SelectedBy, Bool.and_eq_true,
    decide_eq_true_eq, Bool.or_eq_true, Bool.not_eq_true']
  cases replayedOnly with
  | true => simp
  | false => simp

theorem left?_of_idle {q : Instant × StoreRequest} (hsel : ¬ SelectedBy e since q.2)
    (hmark : q.2.markOf? e.id = none) : e.left? (since ++ [q]) = e.left? since := by
  simp only [left?, purged_concat, hsel, or_false, asStored_concat_of_none hmark]

theorem left?_markReplayed (hplain : e.replayed = false) (since : StoreRun) (now : Instant)
    (time : Timestamp) :
    e.left? (since ++ [(now, .markReplayed e.id time)]) =
      (e.left? since).map (·.markOnce time) := by
  have hsel : ¬ SelectedBy e since (.markReplayed e.id time) := not_false
  simp only [left?, purged_concat, hsel, or_false]
  split
  · rfl
  · rw [Option.map_some, markOnce_asStored hplain since now]

theorem left?_purge (hplain : e.replayed = false) (since : StoreRun) (now : Instant)
    (cutoff : Timestamp) (replayedOnly : Bool) :
    e.left? (since ++ [(now, .purge cutoff replayedOnly)]) =
      (e.left? since).filter (!·.isDue cutoff replayedOnly) := by
  have hstored : e.asStored (since ++ [(now, .purge cutoff replayedOnly)]) = e.asStored since :=
    asStored_concat_of_none rfl
  simp only [left?, purged_concat, ← isDue_asStored hplain, hstored]
  by_cases hp : Purged e since
  · rw [if_pos hp, if_pos (Or.inl hp)]
    rfl
  · cases hdue : (e.asStored since).isDue cutoff replayedOnly with
    | true => simp [hp, Option.filter, hdue]
    | false => simp [hp, Option.filter, hdue]

end Entry

theorem InsertsOnce.of_append {run rest : StoreRun} (h : InsertsOnce (run ++ rest)) :
    InsertsOnce run := by
  refine ⟨?_, ?_⟩
  · have hsub : (insertedIds run).Sublist (insertedIds (run ++ rest)) :=
      (List.sublist_append_left run rest).filterMap _
    exact h.nodup.sublist hsub
  · intro now e he
    exact h.unreplayed now e (List.mem_append_left rest he)

theorem InsertsOnce.fresh {run : StoreRun} {now : Instant} {e : Entry}
    (h : InsertsOnce (run ++ [(now, .insert e)])) :
    e.id ∉ insertedIds run ∧ e.replayed = false ∧ e.replayedAt = none := by
  refine ⟨?_, h.unreplayed now e (by simp)⟩
  intro hmem
  have hnodup := h.nodup
  rw [insertedIds_insert] at hnodup
  exact (List.nodup_append.mp hnodup).2.2 _ hmem _ List.mem_cons_self rfl

namespace MemoryStore

variable {s : MemoryStore} {id : EntryId} {now : Instant}

/-- The store after a run. -/
def after (s : MemoryStore) (run : StoreRun) : MemoryStore :=
  run.foldl (fun s q => (serve q.1 q.2 s).2) s

theorem after_concat (s : MemoryStore) (run : StoreRun) (q : Instant × StoreRequest) :
    s.after (run ++ [q]) = (serve q.1 q.2 (s.after run)).2 := by
  simp only [after, List.foldl_append, List.foldl_cons, List.foldl_nil]

theorem lease_after (s : MemoryStore) (run : StoreRun) : (s.after run).lease = s.lease := by
  induction run generalizing s with
  | nil => rfl
  | cons q rest ih => exact (ih _).trans (lease_serve q.1 q.2 s)

/-- How many dead letters a request reports as removed. -/
def removed (s : MemoryStore) (now : Instant) : StoreRequest → Nat
  | .purge cutoff replayedOnly =>
    (serve now (.purge cutoff replayedOnly) s : Nat × MemoryStore).1
  | _ => 0

/-- How many dead letters all purges of a run report as removed. -/
def purgedCount (s : MemoryStore) : StoreRun → Nat
  | [] => 0
  | q :: rest => s.removed q.1 q.2 + purgedCount (serve q.1 q.2 s).2 rest

theorem purgedCount_concat (s : MemoryStore) (run : StoreRun) (q : Instant × StoreRequest) :
    s.purgedCount (run ++ [q]) = s.purgedCount run + (s.after run).removed q.1 q.2 := by
  induction run generalizing s with
  | nil =>
    simp only [List.nil_append, purgedCount, Nat.add_zero, Nat.zero_add]
    rfl
  | cons first rest ih =>
    rw [List.cons_append, purgedCount, ih, purgedCount, Nat.add_assoc]
    rfl

end MemoryStore

/-! ### Stores in order -/

/-- The replay flag and time go together, and what is replayed is not claimed. -/
structure Slot.Consistent (slot : Slot) : Prop where
  together : slot.entry.replayed = slot.entry.replayedAt.isSome
  unclaimed : slot.entry.replayed = true → slot.claimedAt = none

theorem Slot.Consistent.markReplayed {slot : Slot} (h : slot.Consistent) (time : Timestamp) :
    (slot.markReplayed time).Consistent := by
  refine ⟨?_, fun _ => rfl⟩
  unfold Slot.markReplayed
  split
  · exact h.together
  · rfl

namespace MemoryStore

theorem find?_of_mem {s : MemoryStore} (hnodup : (s.slots.map (·.entry.id)).Nodup) {slot : Slot}
    (hslot : slot ∈ s.slots) : s.find? slot.entry.id = some slot := by
  cases hfind : s.find? slot.entry.id with
  | none =>
    have hno := List.find?_eq_none.mp hfind slot hslot
    simp at hno
  | some other =>
    have hid : other.entry.id = slot.entry.id := id_of_find? hfind
    have hother : other ∈ s.slots := List.mem_of_find?_eq_some hfind
    rw [List.inj_on_of_nodup_map hnodup hother hslot hid]

/-- No two dead letters have one id, all ids are among the given ones, and every slot is
consistent. -/
structure Orderly (s : MemoryStore) (ids : List EntryId) : Prop where
  nodup : (s.slots.map (·.entry.id)).Nodup
  known : ∀ slot ∈ s.slots, slot.entry.id ∈ ids
  consistent : ∀ slot ∈ s.slots, slot.Consistent

namespace Orderly

variable {s : MemoryStore} {ids : List EntryId} {id : EntryId} {now : Instant}

theorem find?_eq (h : Orderly s ids) {slot : Slot} (hslot : slot ∈ s.slots) :
    s.find? slot.entry.id = some slot :=
  find?_of_mem h.nodup hslot

theorem update {change : Slot → Slot} (h : Orderly s ids)
    (hid : ∀ slot, (change slot).entry.id = slot.entry.id)
    (hchange : ∀ slot ∈ s.slots, slot.entry.id = id → (change slot).Consistent) :
    Orderly (s.update id change) ids := by
  have hsame : (s.update id change).slots.map (·.entry.id) = s.slots.map (·.entry.id) :=
    ids_update hid
  refine ⟨hsame ▸ h.nodup, ?_, ?_⟩
  · intro slot hslot
    have hmem : slot.entry.id ∈ s.slots.map (·.entry.id) := hsame ▸ List.mem_map_of_mem hslot
    obtain ⟨old, hold, heq⟩ := List.mem_map.mp hmem
    exact heq ▸ h.known old hold
  · intro slot hslot
    obtain ⟨old, hold, rfl⟩ := List.mem_map.mp hslot
    split
    · rename_i heq
      exact hchange old hold heq
    · exact h.consistent old hold

theorem insert (h : Orderly s ids) (now : Instant) {e : Entry} (hnew : e.id ∉ ids)
    (hplain : e.replayed = false) (hnever : e.replayedAt = none) :
    (serve now (.insert e) s).2.slots = s.slots ++ [⟨e, none⟩] ∧
      Orderly (serve now (.insert e) s).2 (ids ++ [e.id]) := by
  have hslots : (serve now (.insert e) s).2.slots = s.slots ++ [⟨e, none⟩] := by
    apply insertSlot_eq_append
    intro slot hslot heq
    exact hnew (heq ▸ h.known slot hslot)
  refine ⟨hslots, ?_, ?_, ?_⟩
  · rw [hslots, List.map_append, List.map_singleton, List.nodup_append]
    refine ⟨h.nodup, List.nodup_singleton _, ?_⟩
    intro a ha b hb hab
    obtain ⟨slot, hslot, rfl⟩ := List.mem_map.mp ha
    rw [List.mem_singleton.mp hb] at hab
    exact hnew (hab ▸ h.known slot hslot)
  · intro slot hslot
    rw [hslots] at hslot
    rcases List.mem_append.mp hslot with hslot | hslot
    · exact List.mem_append_left _ (h.known slot hslot)
    · rw [List.mem_singleton.mp hslot]
      exact List.mem_append_right _ List.mem_cons_self
  · intro slot hslot
    rw [hslots] at hslot
    rcases List.mem_append.mp hslot with hslot | hslot
    · exact h.consistent slot hslot
    · rw [List.mem_singleton.mp hslot]
      exact ⟨by rw [hplain, hnever]; rfl, fun _ => rfl⟩

theorem purge (h : Orderly s ids) (now : Instant) (cutoff : Timestamp) (replayedOnly : Bool) :
    Orderly (serve now (.purge cutoff replayedOnly) s).2 ids := by
  have hsub : (s.slots.filter (!·.isDue cutoff replayedOnly)).Sublist s.slots :=
    List.filter_sublist
  exact ⟨h.nodup.sublist (hsub.map _), fun slot hslot => h.known slot (hsub.subset hslot),
    fun slot hslot => h.consistent slot (hsub.subset hslot)⟩

theorem tryClaim (h : Orderly s ids) : Orderly (serve now (.tryClaim id) s).2 ids := by
  rw [serve_tryClaim]
  split
  · rename_i hfree
    have hwon : s.Won id now := by rw [Won, serve_tryClaim, if_pos hfree]
    obtain ⟨free, hfind, hplain, -⟩ := won_iff.mp hwon
    refine h.update (fun _ => rfl) ?_
    intro slot hslot heq
    rw [← heq, h.find?_eq hslot] at hfind
    obtain rfl := Option.some.inj hfind
    refine ⟨(h.consistent slot hslot).together, ?_⟩
    intro hyes
    cases hplain.symm.trans hyes
  · exact h

theorem serve_other (h : Orderly s ids) {request : StoreRequest}
    (hno : request.insertedId? = none) : Orderly (serve now request s).2 ids := by
  cases request with
  | insert e => cases hno
  | markReplayed id time =>
    exact h.update (id_markReplayed time) fun slot hslot _ =>
      (h.consistent slot hslot).markReplayed time
  | release id =>
    exact h.update (fun _ => rfl) fun slot hslot _ =>
      ⟨(h.consistent slot hslot).together, fun _ => rfl⟩
  | tryClaim id => exact h.tryClaim
  | purge cutoff replayedOnly => exact h.purge now cutoff replayedOnly
  | get id => exact h
  | query f => exact h
  | count f => exact h

end Orderly

theorem orderly_after (lease : Duration) (run : StoreRun) (honce : InsertsOnce run) :
    Orderly (({ lease } : MemoryStore).after run) (insertedIds run) := by
  induction run using List.reverseRecOn with
  | nil =>
    have hnone : (({ lease } : MemoryStore).after []).slots = [] := rfl
    exact ⟨by simp [hnone], by simp [hnone], by simp [hnone]⟩
  | append_singleton run q ih =>
    have h := ih honce.of_append
    obtain ⟨now, request⟩ := q
    rw [after_concat]
    cases request with
    | insert e =>
      obtain ⟨hnew, hplain, hnever⟩ := honce.fresh
      rw [insertedIds_insert]
      exact (h.insert now hnew hplain hnever).2
    | _ =>
      rw [insertedIds_other run rfl]
      exact h.serve_other rfl

/-! ### What can be got under an id -/

def stored? (s : MemoryStore) (id : EntryId) : Option Entry := (s.find? id).map (·.entry)

section Entries

variable {s : MemoryStore} {ids : List EntryId} {now : Instant}

theorem find?_purge (hnodup : (s.slots.map (·.entry.id)).Nodup) (cutoff : Timestamp)
    (replayedOnly : Bool) (id : EntryId) :
    (serve now (.purge cutoff replayedOnly) s).2.find? id =
      (s.find? id).filter (!·.isDue cutoff replayedOnly) := by
  have hleft : ((serve now (.purge cutoff replayedOnly) s).2.slots.map (·.entry.id)).Nodup :=
    hnodup.sublist (List.filter_sublist.map _)
  cases hfind : s.find? id with
  | none =>
    have hno := List.find?_eq_none.mp hfind
    apply List.find?_eq_none.mpr
    intro slot hslot
    exact hno slot (List.mem_filter.mp hslot).1
  | some slot =>
    have hid : slot.entry.id = id := id_of_find? hfind
    have hslot : slot ∈ s.slots := List.mem_of_find?_eq_some hfind
    cases hdue : slot.isDue cutoff replayedOnly with
    | false =>
      have hkept : slot ∈ (serve now (.purge cutoff replayedOnly) s).2.slots :=
        List.mem_filter.mpr ⟨hslot, by simp [hdue]⟩
      rw [← hid, find?_of_mem hleft hkept]
      simp [Option.filter, hdue]
    | true =>
      have hgone : (some slot).filter (!·.isDue cutoff replayedOnly) = none := by simp [hdue]
      rw [hgone]
      apply List.find?_eq_none.mpr
      intro other hother
      obtain ⟨hmem, hkept⟩ := List.mem_filter.mp hother
      intro heq
      have hsame : other = slot :=
        List.inj_on_of_nodup_map hnodup hmem hslot ((by simpa using heq : _ = id).trans hid.symm)
      rw [hsame, hdue] at hkept
      cases hkept

/-- What one request makes of what can be got under an id. -/
theorem Orderly.stored?_serve (h : Orderly s ids) (now : Instant) (request : StoreRequest)
    (id : EntryId) :
    (serve now request s).2.stored? id = match request with
      | .insert e => if id = e.id then some e else s.stored? id
      | .markReplayed other time =>
        if id = other then (s.stored? id).map (·.markOnce time) else s.stored? id
      | .purge cutoff replayedOnly => (s.stored? id).filter (!·.isDue cutoff replayedOnly)
      | _ => s.stored? id := by
  cases request with
  | insert e =>
    simp only [stored?, find?_insert]
    split <;> rfl
  | markReplayed other time =>
    simp only [stored?, find?_markReplayed]
    split
    · rw [Option.map_map, Option.map_map]
      rfl
    · rfl
  | purge cutoff replayedOnly =>
    simp only [stored?, find?_purge h.nodup]
    cases s.find? id with
    | none => rfl
    | some slot =>
      have hsame : slot.isDue cutoff replayedOnly = slot.entry.isDue cutoff replayedOnly := rfl
      cases hdue : slot.entry.isDue cutoff replayedOnly with
      | true => simp [Option.filter, hsame, hdue]
      | false => simp [Option.filter, hsame, hdue]
  | tryClaim other =>
    by_cases hid : id = other
    · simp only [stored?, serve_tryClaim]
      split
      · rw [find?_claim, if_pos hid, Option.map_map]
        rfl
      · rfl
    · simp only [stored?, find?_tryClaim_of_ne hid]
  | release other =>
    simp only [stored?, find?_release]
    split
    · rw [Option.map_map]
      rfl
    · rfl
  | get other => rfl
  | query f => rfl
  | count f => rfl

/-! ### From its insertion on -/

/-- What can be got under the id of a dead letter is what is left of it since its insertion. -/
theorem stored?_since (lease : Duration) (before since : StoreRun) (now : Instant) (e : Entry)
    (honce : InsertsOnce (before ++ (now, .insert e) :: since)) :
    (({ lease } : MemoryStore).after (before ++ (now, .insert e) :: since)).stored? e.id =
      e.left? since := by
  induction since using List.reverseRecOn with
  | nil =>
    have hbefore := orderly_after lease before honce.of_append
    have hnever : ¬ Purged e [] := by
      rintro ⟨first, q, last, heq, -⟩
      simp at heq
    rw [after_concat, hbefore.stored?_serve, Entry.left?, if_neg hnever]
    exact if_pos rfl
  | append_singleton since q ih =>
    obtain ⟨later, request⟩ := q
    have hsplit : before ++ (now, .insert e) :: (since ++ [(later, request)]) =
        (before ++ (now, .insert e) :: since) ++ [(later, request)] := by simp
    rw [hsplit] at honce ⊢
    have horderly := orderly_after lease _ honce.of_append
    have hplain := (honce.unreplayed now e (by simp)).1
    rw [after_concat, horderly.stored?_serve, ih honce.of_append]
    -- a request that neither marks nor purges this dead letter leaves of it what there was
    have hidle : ¬ SelectedBy e since request → request.markOf? e.id = none →
        e.left? since = e.left? (since ++ [(later, request)]) :=
      fun hsel hmark => (Entry.left?_of_idle hsel hmark).symm
    cases request with
    | insert other =>
      have hne : e.id ≠ other.id := by
        intro heq
        have hin : e.id ∈ insertedIds (before ++ (now, .insert e) :: since) := by
          simp [insertedIds, StoreRequest.insertedId?]
        exact honce.fresh.1 (heq ▸ hin)
      simp only [if_neg hne]
      exact hidle id rfl
    | markReplayed other time =>
      by_cases hid : e.id = other
      · subst hid
        simp only [if_true]
        exact (Entry.left?_markReplayed hplain since later time).symm
      · have hmark : (StoreRequest.markReplayed other time).markOf? e.id = none :=
          if_neg (Ne.symm hid)
        simp only [if_neg hid]
        exact hidle id hmark
    | purge cutoff replayedOnly =>
      exact (Entry.left?_purge hplain since later cutoff replayedOnly).symm
    | tryClaim other => exact hidle id rfl
    | release other => exact hidle id rfl
    | get other => exact hidle id rfl
    | query f => exact hidle id rfl
    | count f => exact hidle id rfl

/-! ### How many there are -/

theorem size_other (s : MemoryStore) (now : Instant) {request : StoreRequest}
    (hno : request.insertedId? = none) :
    (serve now request s).2.size + s.removed now request = s.size := by
  cases request with
  | insert e => cases hno
  | purge cutoff replayedOnly =>
    show (s.slots.filter (!·.isDue cutoff replayedOnly)).length +
      (s.slots.filter (·.isDue cutoff replayedOnly)).length = s.slots.length
    rw [Nat.add_comm]
    exact (List.length_eq_length_filter_add _).symm
  | tryClaim id =>
    rw [serve_tryClaim]
    split
    · exact List.length_map _
    · rfl
  | markReplayed id time => exact List.length_map _
  | release id => exact List.length_map _
  | get id => rfl
  | query f => rfl
  | count f => rfl

theorem size_after (lease : Duration) (run : StoreRun) (honce : InsertsOnce run) :
    (({ lease } : MemoryStore).after run).size + ({ lease } : MemoryStore).purgedCount run =
      (insertedIds run).length := by
  induction run using List.reverseRecOn with
  | nil => rfl
  | append_singleton run q ih =>
    have horderly := orderly_after lease run honce.of_append
    have hcount := ih honce.of_append
    obtain ⟨now, request⟩ := q
    rw [after_concat, purgedCount_concat]
    have hother : request.insertedId? = none →
        (serve now request (({ lease } : MemoryStore).after run)).2.size +
            (({ lease } : MemoryStore).purgedCount run +
              (({ lease } : MemoryStore).after run).removed now request) =
          (insertedIds (run ++ [(now, request)])).length := by
      intro hno
      have hsize := size_other (({ lease } : MemoryStore).after run) now hno
      rw [insertedIds_other run hno]
      omega
    cases request with
    | insert e =>
      obtain ⟨hnew, hplain, hnever⟩ := honce.fresh
      have hslots := (horderly.insert now hnew hplain hnever).1
      rw [insertedIds_insert, List.length_append, ← hcount]
      simp only [size, hslots, List.length_append, List.length_singleton, removed]
      omega
    | _ => exact hother rfl

/-! ### The whole account -/

/-- What is true of a store that was empty before a run. -/
structure KeepsAll (s : MemoryStore) (run : StoreRun) : Prop where
  -- Until a purge falls on it a dead letter can be got, with nothing changed but by its first mark.
  kept : ∀ before now e since, run = before ++ (now, .insert e) :: since → ¬ Purged e since →
    ∀ later, (serve later (.get e.id) s : Option Entry × MemoryStore).1 = some (e.asStored since)
  gone : ∀ before now e since, run = before ++ (now, .insert e) :: since → Purged e since →
    ∀ later, (serve later (.get e.id) s : Option Entry × MemoryStore).1 = none
  unknown : ∀ id, id ∉ insertedIds run →
    ∀ later, (serve later (.get id) s : Option Entry × MemoryStore).1 = none
  -- The next mark of an id succeeds exactly if it is the first one of a dead letter still there.
  marked : ∀ id later time,
    (serve later (.markReplayed id time) s : Bool × MemoryStore).1 = true ↔
      ∃ before now e since, run = before ++ (now, .insert e) :: since ∧ e.id = id ∧
        ¬ Purged e since ∧ firstMark id since = none
  together : ∀ slot ∈ s.slots, slot.entry.replayed = slot.entry.replayedAt.isSome
  unclaimed : ∀ slot ∈ s.slots, slot.entry.replayed = true → slot.claimedAt = none ∧
    ∀ later, (serve later (.tryClaim slot.entry.id) s : Bool × MemoryStore).1 = false

theorem mem_insertedIds {run : StoreRun} {id : EntryId} (h : id ∈ insertedIds run) :
    ∃ before now e since, run = before ++ (now, .insert e) :: since ∧ e.id = id := by
  obtain ⟨⟨now, request⟩, hq, hid⟩ := List.mem_filterMap.mp h
  cases request with
  | insert e =>
    obtain ⟨before, since, heq⟩ := List.append_of_mem hq
    exact ⟨before, now, e, since, heq, Option.some.inj hid⟩
  | _ => cases hid

theorem stored?_eq_none {lease : Duration} {run : StoreRun} (honce : InsertsOnce run) {id : EntryId}
    (hno : id ∉ insertedIds run) : (({ lease } : MemoryStore).after run).stored? id = none := by
  rw [stored?, Option.map_eq_none_iff]
  apply List.find?_eq_none.mpr
  intro slot hslot heq
  have hid : slot.entry.id = id := by simpa using heq
  exact hno (hid ▸ (orderly_after lease run honce).known slot hslot)

theorem markReplayed_eq_true_iff {lease : Duration} {run : StoreRun} (honce : InsertsOnce run)
    {id : EntryId} (later : Instant) (time : Timestamp) :
    (serve later (.markReplayed id time) (({ lease } : MemoryStore).after run) :
      Bool × MemoryStore).1 = true ↔
      ∃ before now e since, run = before ++ (now, .insert e) :: since ∧ e.id = id ∧
        ¬ Purged e since ∧ firstMark id since = none := by
  have hanswer : (serve later (.markReplayed id time) (({ lease } : MemoryStore).after run) :
      Bool × MemoryStore).1 =
      (((({ lease } : MemoryStore).after run).stored? id).map (!·.replayed)).getD false := by
    rw [stored?, Option.map_map]
    rfl
  rw [hanswer]
  constructor
  · intro hyes
    by_cases hin : id ∈ insertedIds run
    · obtain ⟨before, now, e, since, rfl, rfl⟩ := mem_insertedIds hin
      have hplain := (honce.unreplayed now e (by simp)).1
      rw [stored?_since lease before since now e honce, Entry.left?] at hyes
      by_cases hp : Purged e since
      · rw [if_pos hp] at hyes
        cases hyes
      · rw [if_neg hp, Option.map_some, Option.getD_some, Entry.replayed_asStored hplain] at hyes
        exact ⟨before, now, e, since, rfl, rfl, hp, by simpa using hyes⟩
    · rw [stored?_eq_none honce hin] at hyes
      cases hyes
  · rintro ⟨before, now, e, since, rfl, rfl, hno, hfirst⟩
    have hplain := (honce.unreplayed now e (by simp)).1
    rw [stored?_since lease before since now e honce, Entry.left?, if_neg hno, Option.map_some,
      Option.getD_some, Entry.replayed_asStored hplain, hfirst]
    rfl

/-- In a store in memory, whatever its lease and whatever is done with it, no dead letter is lost,
altered or replayed twice, and there are as many as were inserted less those that were purged. -/
theorem after_keepsAll (lease : Duration) (run : StoreRun) (honce : InsertsOnce run) :
    KeepsAll (({ lease } : MemoryStore).after run) run ∧
      (({ lease } : MemoryStore).after run).size + ({ lease } : MemoryStore).purgedCount run =
        (insertedIds run).length := by
  have horderly := orderly_after lease run honce
  refine ⟨⟨?_, ?_, ?_, ?_, ?_, ?_⟩, size_after lease run honce⟩
  · rintro before now e since rfl hno later
    exact (stored?_since lease before since now e honce).trans (if_neg hno)
  · rintro before now e since rfl hp later
    exact (stored?_since lease before since now e honce).trans (if_pos hp)
  · intro id hno later
    exact stored?_eq_none honce hno
  · intro id later time
    exact markReplayed_eq_true_iff honce later time
  · intro slot hslot
    exact (horderly.consistent slot hslot).together
  · intro slot hslot hyes
    refine ⟨(horderly.consistent slot hslot).unclaimed hyes, ?_⟩
    intro later
    rw [serve_tryClaim, horderly.find?_eq hslot]
    simp [Slot.isFree, hyes]

/-- A dead letter of an id and a time of its own. -/
def letter (id : Nat) (nanos : Int) : Entry :=
  .ofMessage ⟨id⟩ { messageType := "order" } .poisonMessage none [] ⟨nanos, false⟩

/-- The first dead letter is marked before it is there, is marked twice while it is claimed, and is
removed by a purge of what has been replayed. The second one is marked after that purge. -/
def twoLives : StoreRun :=
  [(0, .markReplayed ⟨1⟩ ⟨5, false⟩), (0, .insert (letter 1 10)), (1, .tryClaim ⟨1⟩),
   (2, .insert (letter 2 20)), (3, .markReplayed ⟨1⟩ ⟨50, false⟩),
   (3, .markReplayed ⟨1⟩ ⟨60, false⟩), (2, .tryClaim ⟨2⟩), (1, .purge ⟨40, false⟩ true),
   (4, .markReplayed ⟨2⟩ ⟨70, false⟩)]

theorem after_keepsAll_twoLives :
    InsertsOnce twoLives ∧ KeepsAll (({ lease := 5 } : MemoryStore).after twoLives) twoLives ∧
      (({ lease := 5 } : MemoryStore).after (twoLives.take 7)).slots =
        [⟨(letter 1 10).markReplayed ⟨50, false⟩, none⟩, ⟨letter 2 20, some 2⟩] ∧
      (serve 9 (.get ⟨1⟩) (({ lease := 5 } : MemoryStore).after twoLives) :
        Option Entry × MemoryStore).1 = none ∧
      (serve 9 (.get ⟨2⟩) (({ lease := 5 } : MemoryStore).after twoLives) :
        Option Entry × MemoryStore).1 = some ((letter 2 20).markReplayed ⟨70, false⟩) ∧
      (({ lease := 5 } : MemoryStore).after twoLives).size = 1 ∧
      ({ lease := 5 } : MemoryStore).purgedCount twoLives = 1 := by
  have honce : InsertsOnce twoLives := by
    refine ⟨by decide, ?_⟩
    intro now e he
    have hcases : now = 0 ∧ e = letter 1 10 ∨ now = 2 ∧ e = letter 2 20 := by
      simpa [twoLives] using he
    rcases hcases with ⟨-, rfl⟩ | ⟨-, rfl⟩
    · exact ⟨rfl, rfl⟩
    · exact ⟨rfl, rfl⟩
  obtain ⟨hkeeps, -⟩ := after_keepsAll 5 twoLives honce
  refine ⟨honce, hkeeps, by decide, ?_, ?_, by decide, by decide⟩
  · exact hkeeps.gone (twoLives.take 1) 0 (letter 1 10) (twoLives.drop 2) rfl (by decide) 9
  · exact hkeeps.kept (twoLives.take 3) 2 (letter 2 20) (twoLives.drop 4) rfl (by decide) 9

end Entries

end MemoryStore

end Delivery
