import Mathlib.Algebra.BigOperators.Group.List.Basic
import Mathlib.Algebra.GroupWithZero.Nat
import Mathlib.Data.List.Sort
import Delivery.Opening
import Delivery.Proofs.DeadLetter.Lifetime

/-!
# Queries, pages and counts

All dead letters that a filter accepts, in the order of their ids, are one list. A query returns a
window of this list, in whatever order the store keeps its slots. So a walk through pages, each of
which begins behind the one before, goes through this list, and a count is its length. Main
statement: `queries_agree`.
-/

namespace Delivery

namespace MemoryStore

variable {s other : MemoryStore} {f : Filter} {now : Instant}

/-! ### One slot for each id -/

/-- No two dead letters have one id. -/
def Distinct (s : MemoryStore) : Prop := (s.slots.map (·.entry.id)).Nodup

instance (s : MemoryStore) : Decidable s.Distinct := inferInstanceAs (Decidable (List.Nodup _))

theorem mem_insertSlot {new slot : Slot} {slots : List Slot} (h : slot ∈ insertSlot new slots) :
    slot = new ∨ slot ∈ slots := by
  induction slots with
  | nil => exact .inl (List.mem_singleton.mp h)
  | cons first rest ih =>
    rw [insertSlot] at h
    split at h
    · rcases List.mem_cons.mp h with rfl | h
      · exact .inl rfl
      · exact .inr (List.mem_cons_of_mem _ h)
    · rcases List.mem_cons.mp h with rfl | h
      · exact .inr List.mem_cons_self
      · exact (ih h).imp_right (List.mem_cons_of_mem _)

theorem nodup_insertSlot {new : Slot} {slots : List Slot}
    (h : (slots.map (·.entry.id)).Nodup) : ((insertSlot new slots).map (·.entry.id)).Nodup := by
  induction slots with
  | nil => exact List.nodup_singleton _
  | cons slot rest ih =>
    rw [List.map_cons, List.nodup_cons] at h
    rw [insertSlot]
    split
    · rename_i hid
      rw [List.map_cons, ← hid, List.nodup_cons]
      exact h
    · rename_i hid
      rw [List.map_cons, List.nodup_cons]
      refine ⟨fun hmem => ?_, ih h.2⟩
      obtain ⟨x, hx, hsame⟩ := List.mem_map.mp hmem
      rcases mem_insertSlot hx with rfl | hx
      · exact hid hsame.symm
      · exact h.1 (List.mem_map.mpr ⟨x, hx, hsame⟩)

theorem Distinct.update (h : s.Distinct) {id : EntryId} {change : Slot → Slot}
    (hid : ∀ slot, (change slot).entry.id = slot.entry.id) : (s.update id change).Distinct := by
  unfold Distinct
  rw [ids_update hid]
  exact h

theorem Distinct.serve (h : s.Distinct) (now : Instant) (request : StoreRequest) :
    (serve now request s).2.Distinct := by
  cases request with
  | insert e => exact nodup_insertSlot h
  | tryClaim id =>
    rw [serve_tryClaim]
    split
    · exact h.update fun _ => rfl
    · exact h
  | markReplayed id time => exact h.update (id_markReplayed time)
  | release id => exact h.update fun _ => rfl
  | purge cutoff replayedOnly => exact h.sublist (List.filter_sublist.map _)
  | get id => exact h
  | query f => exact h
  | count f => exact h

theorem distinct_after (lease : Duration) (run : StoreRun) :
    (({ lease } : MemoryStore).after run).Distinct := by
  induction run using List.reverseRecOn with
  | nil => exact List.nodup_nil
  | append_singleton run q ih =>
    rw [after_concat]
    exact ih.serve q.1 q.2

/-! ### The list behind all answers -/

/-- All dead letters that the filter accepts, by their ids. -/
def listing (s : MemoryStore) (f : Filter) : List Entry := inOrder (s.selected f)

theorem mem_listing {e : Entry} :
    e ∈ s.listing f ↔ f.accepts e = true ∧ ∃ slot ∈ s.slots, slot.entry = e := by
  unfold listing inOrder selected
  rw [List.mem_mergeSort, List.mem_filter, List.mem_map, and_comm]

theorem nodup_selected (h : s.Distinct) (f : Filter) : ((s.selected f).map (·.id)).Nodup := by
  have hsub : (s.selected f).Sublist (s.slots.map (·.entry)) := List.filter_sublist
  have hall : ((s.slots.map (·.entry)).map (·.id)).Nodup := by
    rw [List.map_map]
    exact h
  exact hall.sublist (hsub.map _)

theorem nodup_listing (h : s.Distinct) (f : Filter) : ((s.listing f).map (·.id)).Nodup :=
  ((List.mergeSort_perm _ _).map _).nodup_iff.mpr (nodup_selected h f)

theorem pairwise_listing (h : s.Distinct) (f : Filter) :
    (s.listing f).Pairwise fun a b => a.id.value < b.id.value := by
  have hle : (s.listing f).Pairwise fun a b => a.id.value ≤ b.id.value := by
    have hsorted := @List.pairwise_mergeSort Entry (fun a b => decide (a.id.value ≤ b.id.value))
      (by simpa using fun a b c => Nat.le_trans) (by simpa using fun a b => Nat.le_total _ _)
      (s.selected f)
    exact hsorted.imp of_decide_eq_true
  refine (hle.and (List.pairwise_map.mp (nodup_listing h f))).imp ?_
  rintro a b ⟨hab, hne⟩
  refine Nat.lt_of_le_of_ne hab fun heq => hne ?_
  cases ha : a.id
  cases hb : b.id
  simp_all

theorem listing_of_perm (h : s.Distinct) (hperm : other.slots.Perm s.slots) (f : Filter) :
    other.listing f = s.listing f := by
  have hother : other.Distinct := (hperm.map _).nodup_iff.mpr h
  have hselected : (other.selected f).Perm (s.selected f) := (hperm.map _).filter _
  have hlisting : (other.listing f).Perm (s.listing f) :=
    (List.mergeSort_perm _ _).trans (hselected.trans (List.mergeSort_perm _ _).symm)
  refine hlisting.eq_of_pairwise ?_ (pairwise_listing hother f) (pairwise_listing h f)
  intro a b _ _ hab hba
  exact absurd hab (Nat.lt_asymm hba)

theorem length_listing : (s.listing f).length = (s.selected f).length := List.length_mergeSort _

theorem window_eq {α : Type} (f : Filter) (xs : List α) :
    f.window xs = (xs.drop f.skip).take (f.limit.getD xs.length) := by
  unfold Filter.window
  cases f.limit with
  | some n => rfl
  | none =>
    have hshort : (xs.drop f.skip).length ≤ xs.length := by simp
    exact (List.take_of_length_le hshort).symm

theorem query_eq (now : Instant) (s : MemoryStore) (f : Filter) :
    (serve now (.query f) s : List Entry × MemoryStore).1 =
      ((s.listing f).drop f.skip).take (f.limit.getD (s.listing f).length) :=
  window_eq f (s.listing f)

/-! ### Pages -/

/-- A walk through the pages of a filter, which come to at most so many dead letters each. A page
begins behind what has been shown, and the walk ends with the first one that is empty. The queries
come one after the other upon these stores at these readings. -/
def walk (f : Filter) (k : Nat) : List (Instant × MemoryStore) → (shown : Nat) →
    Option (List (List Entry))
  | [], _ => none
  | (now, s) :: later, shown =>
    match (serve now (.query { f with skip := shown, limit := some k }) s :
        List Entry × MemoryStore).1 with
    | [] => some []
    | e :: rest => (walk f k later (shown + (e :: rest).length)).map ((e :: rest) :: ·)

theorem fewer_pages {k left n : Nat} (hk : 0 < k) (hleft : 0 < left)
    (h : (left + (k - 1)) / k < n + 1) : (left - min k left + (k - 1)) / k < n := by
  by_cases hfull : k ≤ left
  · have hsplit : left + (k - 1) = left - k + (k - 1) + k := by omega
    rw [hsplit, Nat.add_div_right _ hk] at h
    rw [Nat.min_eq_left hfull]
    omega
  · have hlast : left + (k - 1) = left - 1 + k := by omega
    rw [hlast, Nat.add_div_right _ hk] at h
    rw [Nat.min_eq_right (Nat.le_of_not_le hfull), Nat.sub_self, Nat.zero_add,
      Nat.div_eq_of_lt (Nat.sub_one_lt_of_lt hk)]
    exact Nat.zero_lt_of_lt (Nat.lt_of_succ_lt_succ h)

/-- From what has been shown on, a walk shows the rest of a list in its order and ends. -/
theorem walk_shows {all : List Entry} {k : Nat} (hk : 0 < k) {views : List (Instant × MemoryStore)}
    (hviews : ∀ v ∈ views, v.2.listing f = all) {shown : Nat}
    (henough : (all.length - shown + (k - 1)) / k < views.length) :
    ∃ pages, walk f k views shown = some pages ∧ pages.flatten = all.drop shown ∧
      ∀ page ∈ pages, page ≠ [] ∧ page.length ≤ k := by
  -- on the queries that are left; with every page that is not empty one fewer is needed
  induction views generalizing shown with
  | nil => exact absurd henough (Nat.not_lt_zero _)
  | cons v later ih =>
    obtain ⟨now, s⟩ := v
    have hpage : (serve now (.query { f with skip := shown, limit := some k }) s :
        List Entry × MemoryStore).1 = (all.drop shown).take k := by
      rw [← hviews _ List.mem_cons_self]
      rfl
    rw [walk, hpage]
    cases hcut : (all.drop shown).take k with
    | nil =>
      have hrest : all.drop shown = [] := by
        rcases List.take_eq_nil_iff.mp hcut with h | h
        · omega
        · exact h
      exact ⟨[], rfl, by rw [hrest]; rfl, by simp⟩
    | cons e rest =>
      have hlength : (e :: rest).length = min k (all.length - shown) := by
        rw [← hcut, List.length_take, List.length_drop]
      have hfewer : (all.length - (shown + (e :: rest).length) + (k - 1)) / k < later.length := by
        rw [Nat.sub_add_eq, hlength]
        refine fewer_pages hk ?_ henough
        rw [List.length_cons] at hlength
        omega
      have hprefix : e :: rest <+: all.drop shown := hcut ▸ List.take_prefix k _
      obtain ⟨pages, hpages, hflat, hsizes⟩ :=
        ih (fun v hv => hviews v (List.mem_cons_of_mem _ hv)) hfewer
      refine ⟨(e :: rest) :: pages, ?_, ?_, ?_⟩
      · show (walk f k later (shown + (e :: rest).length)).map ((e :: rest) :: ·) = _
        rw [hpages]
        rfl
      · rw [List.flatten_cons, hflat, ← List.drop_drop, List.prefix_iff_eq_append.mp hprefix]
      · intro page hpage
        rcases List.mem_cons.mp hpage with rfl | hpage
        · exact ⟨nofun, by omega⟩
        · exact hsizes page hpage

/-! ### Counts by reason -/

theorem selected_reason (s : MemoryStore) (r : Reason) :
    (s.selected { reason := some r }).length =
      (s.slots.map (·.entry)).countP (·.reason == r) := by
  rw [selected, ← List.countP_eq_length_filter]
  refine List.countP_congr fun e _ => ?_
  simp [Filter.accepts]

theorem sum_countP_reason (entries : List Entry) :
    (Reason.all.map fun r => entries.countP (·.reason == r)).sum = entries.length := by
  -- every dead letter is counted for its own reason only
  induction entries with
  | nil => rfl
  | cons e rest ih =>
    have hone : (Reason.all.map fun r => if e.reason == r then 1 else 0).sum = 1 := by
      cases e.reason <;> rfl
    simp only [List.countP_cons, List.sum_map_add, ih, hone, List.length_cons]

theorem selected_all (s : MemoryStore) : s.selected {} = s.slots.map (·.entry) :=
  List.filter_eq_self.mpr fun _ _ => rfl

/-- What a queue over the store says of each reason. -/
def reasonCounts (now : Instant) (s : MemoryStore) : List (Reason × Nat) :=
  Reason.all.map fun r =>
    (r, (serve now (.count { reason := some r }) s : Nat × MemoryStore).1)

theorem countByReason_run {q : DeadLetterQueue (StateM MemoryStore)} (hq : q.store = keeping now)
    (s : MemoryStore) : q.countByReason.run s = (.ok (reasonCounts now s), s) := by
  unfold DeadLetterQueue.countByReason
  rw [hq]
  rfl

theorem sum_reasonCounts (now : Instant) (s : MemoryStore) :
    ((reasonCounts now s).map (·.2)).sum = (serve now (.count {}) s : Nat × MemoryStore).1 := by
  have hcount : (reasonCounts now s).map (·.2) =
      Reason.all.map fun r => (s.slots.map (·.entry)).countP (·.reason == r) := by
    rw [reasonCounts, List.map_map]
    exact List.map_congr_left fun r _ => selected_reason s r
  rw [hcount, sum_countP_reason]
  exact (congrArg List.length (selected_all s)).symm

/-! ### All answers -/

/-- What a store answers by a filter, in whatever order it keeps its slots, comes of one list. -/
structure Agree (s : MemoryStore) (f : Filter) (all : List Entry) : Prop where
  ascending : all.Pairwise fun a b => a.id.value < b.id.value
  accepted : ∀ e, e ∈ all ↔ f.accepts e = true ∧ ∃ slot ∈ s.slots, slot.entry = e
  query : ∀ other : MemoryStore, other.slots.Perm s.slots → ∀ now,
    (serve now (.query f) other : List Entry × MemoryStore).1 =
      (all.drop f.skip).take (f.limit.getD all.length)
  -- One query more than there are pages is enough, and each may find the slots in another order.
  walk : ∀ k views, 0 < k → (∀ v ∈ views, v.2.slots.Perm s.slots) →
    (all.length + (k - 1)) / k < views.length →
    ∃ pages, walk f k views 0 = some pages ∧ pages.flatten = all ∧
      ∀ page ∈ pages, page ≠ [] ∧ page.length ≤ k
  -- The window has no bearing on a count.
  count : ∀ other : MemoryStore, other.slots.Perm s.slots → ∀ now skip limit,
    (serve now (.count { f with skip, limit }) other : Nat × MemoryStore).1 =
      (serve now (.query f.unpaginated) other : List Entry × MemoryStore).1.length

theorem agree_listing (hs : s.Distinct) (f : Filter) : Agree s f (s.listing f) where
  ascending := pairwise_listing hs f
  accepted _ := mem_listing
  query other hperm now := by
    rw [query_eq, listing_of_perm hs hperm]
  walk k views hk hviews henough :=
    walk_shows hk (fun v hv => listing_of_perm hs (hviews v hv) f) henough
  count other hperm now skip limit := by
    have hall : (serve now (.query f.unpaginated) other : List Entry × MemoryStore).1 =
        other.listing f := rfl
    rw [hall, length_listing]
    rfl

/-- A store that keeps each id once answers every query with a window of one list, in which all that
the filter accepts stands by id. Pages go through this list and come to an end, its length is the
count, and the counts by reason add up to the count of everything. -/
theorem queries_agree (s : MemoryStore) (hs : s.Distinct) (f : Filter) :
    (∃ all, Agree s f all) ∧
      ∀ (now : Instant) (q : DeadLetterQueue (StateM MemoryStore)), q.store = keeping now →
        ∃ counts : List (Reason × Nat), q.countByReason.run s = (.ok counts, s) ∧
          counts.map (·.1) = Reason.all ∧
          (counts.map (·.2)).sum = (serve now (.count {}) s : Nat × MemoryStore).1 := by
  refine ⟨⟨s.listing f, agree_listing hs f⟩, fun now q hq => ?_⟩
  exact ⟨reasonCounts now s, countByReason_run hq s, rfl, sum_reasonCounts now s⟩

/-- Four dead letters, not in the order of their ids. -/
def fourLetters : MemoryStore where
  slots := [⟨letter 9 30, some 5⟩, ⟨(letter 4 10).markReplayed ⟨80, false⟩, none⟩,
    ⟨{ letter 7 20 with reason := .messageExpired }, none⟩, ⟨letter 2 40, none⟩]

def early : Filter := { enqueuedTo := some ⟨30, false⟩ }

theorem queries_agree_fourLetters : fourLetters.Distinct ∧
    (∃ all, Agree fourLetters early all ∧ all.map (·.id.value) = [4, 7, 9]) ∧
    ∃ counts : List (Reason × Nat),
      (DeadLetterQueue.inMemory ⟨0, false⟩).countByReason.run fourLetters =
        (.ok counts, fourLetters) ∧ (counts.map (·.2)).sum = 4 := by
  have hs : fourLetters.Distinct := by decide
  obtain ⟨⟨all, hall⟩, hcounts⟩ := queries_agree fourLetters hs early
  obtain ⟨counts, hrun, -, hsum⟩ := hcounts 0 (DeadLetterQueue.inMemory ⟨0, false⟩) rfl
  refine ⟨hs, ⟨all, hall, ?_⟩, counts, hrun, hsum⟩
  have hanswer : (serve 0 (.query early) fourLetters : List Entry × MemoryStore).1 = all := by
    rw [hall.query fourLetters (.refl _) 0]
    exact List.take_length
  have hselected : fourLetters.selected early = [letter 9 30,
      (letter 4 10).markReplayed ⟨80, false⟩, { letter 7 20 with reason := .messageExpired }] := by
    decide
  have hsorted : (serve 0 (.query early) fourLetters : List Entry × MemoryStore).1 =
      [(letter 4 10).markReplayed ⟨80, false⟩, { letter 7 20 with reason := .messageExpired },
        letter 9 30] := by
    show inOrder (fourLetters.selected early) = _
    rw [hselected]
    simp [inOrder, List.mergeSort, List.MergeSort.Internal.splitInTwo, letter, Entry.ofMessage,
      Entry.markReplayed]
  rw [← hanswer, hsorted]
  rfl

end MemoryStore

end Delivery
