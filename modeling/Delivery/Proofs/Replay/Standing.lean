import Delivery.Proofs.Replay.Sound

/-!
# Claims that stand

A claim stands until it is released, and nobody else wins the dead letter as long as it is young.
The store does not ask who releases a claim. So a claim is safe from everybody but its call and
those that had won the same dead letter before and were not told since that their claim has ended.
-/

namespace Delivery

namespace MemoryStore

variable {s : MemoryStore} {id : EntryId} {t now : Instant}

/-- The dead letter is under the claim taken at this reading, or it has been replayed. -/
def Standing (s : MemoryStore) (id : EntryId) (t : Instant) : Prop :=
  s.IsReplayed id ∨ s.IsClaimed id t

theorem standing_congr {s' : MemoryStore} (h : s'.find? id = s.find? id) :
    s'.Standing id t ↔ s.Standing id t :=
  or_congr (isReplayed_congr h) (isClaimed_congr h)

theorem Standing.refused (h : s.Standing id t) (hyoung : now - t < s.lease) :
    (serve now (.tryClaim id) s).1 = false := by
  cases hwon : (serve now (.tryClaim id) s).1 with
  | false => rfl
  | true =>
    obtain ⟨-, hno, hfree⟩ := free_of_won hwon
    rcases h with hyes | hclaimed
    · exact absurd hyes hno
    · exact absurd hyoung (hfree t hclaimed)

theorem replayed_of_markReplayed {time : Timestamp} (h : s.Standing id t) :
    (serve now (.markReplayed id time) s).2.IsReplayed id := by
  rcases h with ⟨slot, hslot, hyes⟩ | hclaimed
  · refine ⟨slot.markReplayed time, ?_, ?_⟩
    · rw [find?_markReplayed, if_pos rfl, hslot]
      rfl
    · unfold Slot.markReplayed
      rw [if_pos hyes]
      exact hyes
  · exact (marked_of_isClaimed now time hclaimed).2

/-- What stands is not touched by any request but its release, as long as it is young. -/
theorem Standing.serve (h : s.Standing id t) (hyoung : now - t < s.lease) {r : StoreRequest}
    (hpurge : r.isPurge = false) (hnew : QueueCall.isNewFor s r = true)
    (hr : r ≠ .release id) : (MemoryStore.serve now r s).2.Standing id t := by
  cases r with
  | get _ | query _ | count _ => exact h
  | purge _ _ => cases hpurge
  | insert e =>
    have hne : id ≠ e.id := by
      rintro rfl
      have hfresh : s.find? e.id = none := by simpa [QueueCall.isNewFor] using hnew
      rcases h with ⟨slot, hslot, -⟩ | ⟨slot, hslot, -⟩ <;> rw [hfresh] at hslot <;> cases hslot
    exact (standing_congr (find?_insert.trans (if_neg hne))).mpr h
  | tryClaim other =>
    by_cases ho : id = other
    · subst ho
      rw [lost_eq (h.refused hyoung)]
      exact h
    · exact (standing_congr (find?_tryClaim_of_ne ho)).mpr h
  | markReplayed other time =>
    by_cases ho : id = other
    · subst ho
      exact .inl (replayed_of_markReplayed h)
    · exact (standing_congr (find?_markReplayed.trans (if_neg ho))).mpr h
  | release other =>
    have ho : id ≠ other := by
      rintro rfl
      exact hr rfl
    exact (standing_congr (find?_release.trans (if_neg ho))).mpr h

theorem Standing.not_won (h : s.Standing id t) (hyoung : now - t < s.lease) (r : StoreRequest) :
    r.deed (MemoryStore.serve now r s).1 ≠ some (.won id) := by
  intro hwon
  obtain rfl := StoreRequest.eq_tryClaim_of_deed hwon
  rw [h.refused hyoung] at hwon
  cases hwon

end MemoryStore

namespace ReplaySystem

/-- Every call has come to some phase, and a stray request releases a claim only for a call that has
it and does no more. -/
structure Sound (s : ReplaySystem) : Prop where
  calls : ∀ c ∈ s.calls, ∃ phase, c.On phase
  stray : ∀ p ∈ s.stray, p.2.isPurge = false ∧ ∀ id, p.2 = .release id →
    ∃ c, s.calls[p.1]? = some c ∧ c.claims id = true ∧ c.Finished

inductive Happens (s : ReplaySystem) : ReplaySystem → Option (Nat × Deed) → Prop where
  | nothing : Happens s s none
  | tick (d : Duration) : Happens s { s with now := s.now + d } none
  | call (request : QueueRequest) (handled : Bool) :
      Happens s { s with calls := s.calls ++ [{ program := request.program handled }] } none
  | act {number : Nat} {c : QueueCall} {o : Outcome} (hc : s.calls[number]? = some c)
      (h : c.Acts s.now s.store o) :
      Happens s { s with
        store := o.store, calls := s.calls.set number o.call
        stray := s.stray ++ o.stray.map (number, ·) } (o.deed.map (number, ·))
  | arrive {index number : Nat} {r : StoreRequest} (hr : s.stray[index]? = some (number, r))
      (hnew : QueueCall.isNewFor s.store r = true) :
      Happens s { s with
        store := (MemoryStore.serve s.now r s.store).2, stray := s.stray.eraseIdx index }
        ((strayDeed r).map (number, ·))

theorem happens_of_turn? {s s' : ReplaySystem} {t : Turn} {d : Option (Nat × Deed)}
    (h : s.turn? t = some (s', d)) : s.Happens s' d := by
  cases t with
  | tick passed =>
    cases h
    exact .tick passed
  | call request handled =>
    cases h
    exact .call request handled
  | act number a =>
    obtain ⟨c, hc, h⟩ := Option.bind_eq_some_iff.mp h
    obtain ⟨o, ho, h⟩ := Option.bind_eq_some_iff.mp h
    cases h
    exact .act hc (QueueCall.acts_of_act ho)
  | arrive index =>
    obtain ⟨⟨number, r⟩, hr, h⟩ := Option.bind_eq_some_iff.mp h
    replace h : (if QueueCall.isNewFor s.store r = true then _ else none) = some (s', d) := h
    split at h
    · cases h
      exact .arrive hr ‹_›
    · cases h

theorem happens (s : ReplaySystem) (t : Turn) : s.Happens (s.turn t) (s.deed t) := by
  unfold turn deed
  cases h : s.turn? t with
  | none => exact .nothing
  | some r => exact happens_of_turn? h

variable {s s' : ReplaySystem} {d : Option (Nat × Deed)} {id : EntryId} {t : Instant} {n : Nat}

theorem claims_iff : s.claims n id = true ↔ ∃ c, s.calls[n]? = some c ∧ c.claims id = true :=
  Option.any_eq_true _ _

theorem release_of_strayDeed {r : StoreRequest} {e : Deed} (h : strayDeed r = some e) :
    ∃ id, r = .release id ∧ e = .released id := by
  unfold strayDeed at h
  split at h
  · cases h
    exact ⟨_, rfl, rfl⟩
  · cases h

namespace Happens

theorem now_le (h : s.Happens s' d) : s.now ≤ s'.now := by
  cases h with
  | tick passed => exact Nat.le_add_right _ _
  | _ => exact Nat.le_refl _

theorem lease_eq (h : s.Happens s' d) (hs : s.Sound) : s'.store.lease = s.store.lease := by
  cases h with
  | act hc h =>
    obtain ⟨phase, hon⟩ := hs.calls _ (List.mem_of_getElem? hc)
    rcases h.store_eq hon with ⟨hstore, -⟩ | ⟨r, -, -, hstore, -⟩
    · exact congrArg _ hstore
    · exact (congrArg _ hstore).trans (MemoryStore.lease_serve _ _ _)
  | arrive hr hnew => exact MemoryStore.lease_serve _ _ _
  | _ => rfl

theorem finished (h : s.Happens s' d) {c : QueueCall} (hc : s.calls[n]? = some c)
    (hend : c.Finished) : s'.calls[n]? = some c := by
  cases h with
  | call request handled =>
    rw [List.getElem?_append_left (List.getElem?_eq_some_iff.mp hc).1]
    exact hc
  | @act number c₀ o hc₀ h =>
    have hne : number ≠ n := by
      rintro rfl
      rw [hc₀] at hc
      cases hc
      exact h.not_finished hend
    rw [List.getElem?_set_ne hne]
    exact hc
  | _ => exact hc

theorem sound (h : s.Happens s' d) (hs : s.Sound) : s'.Sound := by
  have hold : ∀ p ∈ s.stray, p.2.isPurge = false ∧ ∀ id, p.2 = .release id →
      ∃ c, s'.calls[p.1]? = some c ∧ c.claims id = true ∧ c.Finished := by
    intro p hp
    refine ⟨(hs.stray p hp).1, fun id hid => ?_⟩
    obtain ⟨c, hc, hclaim, hend⟩ := (hs.stray p hp).2 id hid
    exact ⟨c, h.finished hc hend, hclaim, hend⟩
  cases h with
  | nothing | tick _ => exact ⟨hs.calls, hold⟩
  | call request handled =>
    refine ⟨fun c hc => ?_, hold⟩
    rcases List.mem_append.mp hc with hc | hc
    · exact hs.calls c hc
    · cases List.mem_singleton.mp hc
      exact ⟨.idle, QueueCall.on_program request handled⟩
  | @act number c o hc h =>
    obtain ⟨phase, hon⟩ := hs.calls c (List.mem_of_getElem? hc)
    constructor
    · intro c' hc'
      rcases List.mem_or_eq_of_mem_set hc' with hc' | rfl
      · exact hs.calls c' hc'
      · obtain ⟨after, -, hafter⟩ := h.on hon
        exact ⟨after, hafter⟩
    · intro p hp
      rcases List.mem_append.mp hp with hp | hp
      · exact hold p hp
      · obtain ⟨r, hr, rfl⟩ := List.mem_map.mp hp
        refine ⟨(h.stray hon hr).1, fun id hid => ⟨o.call, ?_, (h.stray hon hr).2 id hid⟩⟩
        exact List.getElem?_set_self (List.getElem?_eq_some_iff.mp hc).1
  | arrive hr hnew => exact ⟨hs.calls, fun p hp => hold p (List.mem_of_mem_eraseIdx hp)⟩

theorem claims_of (h : s.Happens s' d) (hid : s'.claims n id = true) :
    s.claims n id = true ∨ d = some (n, .won id) := by
  obtain ⟨c', hc', hid'⟩ := claims_iff.mp hid
  cases h with
  | call request handled =>
    by_cases hn : n < s.calls.length
    · rw [List.getElem?_append_left hn] at hc'
      exact .inl (claims_iff.mpr ⟨c', hc', hid'⟩)
    · rw [List.getElem?_append_right (Nat.le_of_not_lt hn)] at hc'
      cases List.mem_singleton.mp (List.mem_of_getElem? hc')
      cases hid'
  | @act number c o hc h =>
    by_cases hn : number = n
    · subst hn
      rw [List.getElem?_set_self (List.getElem?_eq_some_iff.mp hc).1] at hc'
      cases hc'
      rcases h.claims_of hid' with hid | hwon
      · exact .inl (claims_iff.mpr ⟨c, hc, hid⟩)
      · exact .inr (by rw [hwon]; rfl)
    · rw [List.getElem?_set_ne hn] at hc'
      exact .inl (claims_iff.mpr ⟨c', hc', hid'⟩)
  | _ => exact .inl hid

theorem claims_of_released (h : s.Happens s' d) (hs : s.Sound)
    (hd : d = some (n, .released id)) : s.claims n id = true := by
  cases h with
  | act hc h =>
    obtain ⟨deed, hdeed, heq⟩ := Option.map_eq_some_iff.mp hd
    cases heq
    obtain ⟨phase, hon⟩ := hs.calls _ (List.mem_of_getElem? hc)
    exact claims_iff.mpr ⟨_, hc, h.claims_of_released hon hdeed⟩
  | @arrive index number r hr hnew =>
    obtain ⟨deed, hdeed, heq⟩ := Option.map_eq_some_iff.mp hd
    cases heq
    obtain ⟨other, hother, hid⟩ := release_of_strayDeed hdeed
    cases hid
    obtain ⟨c, hc, hclaim, -⟩ := (hs.stray _ (List.mem_of_getElem? hr)).2 id hother
    exact claims_iff.mpr ⟨c, hc, hclaim⟩
  | _ => cases hd

end Happens

/-! ### Under guard -/

/-- A claim stands, and none but these calls may release it. -/
structure Guard (s : ReplaySystem) (may : Nat → Prop) (id : EntryId) (t : Instant) : Prop where
  sound : s.Sound
  claims : ∀ n, s.claims n id = true → may n
  standing : s.store.Standing id t

variable {may : Nat → Prop}

/-- The claim stands after the turn, and nobody has won it, if none of those calls released it. -/
theorem Guard.turn (hg : s.Guard may id t) (hyoung : s.now - t < s.store.lease)
    (h : s.Happens s' d) (hno : ∀ n, may n → d ≠ some (n, .released id)) :
    s'.Guard may id t ∧ ∀ n, d ≠ some (n, .won id) := by
  -- Whoever releases the claim has it.
  have hreleased : ∀ n, d ≠ some (n, .released id) := by
    intro n hn
    exact hno n (hg.claims n (h.claims_of_released hg.sound hn)) hn
  have hstand : s'.store.Standing id t ∧ ∀ n, d ≠ some (n, .won id) := by
    cases h with
    | act hc h =>
      obtain ⟨phase, hon⟩ := hg.sound.calls _ (List.mem_of_getElem? hc)
      rcases h.store_eq hon with ⟨hstore, hwon⟩ | ⟨r, hpurge, hnew, hstore, hdeed⟩
      · refine ⟨?_, fun n hn => ?_⟩
        · show MemoryStore.Standing _ id t
          rw [hstore]
          exact hg.standing
        · obtain ⟨deed, hdeed, heq⟩ := Option.map_eq_some_iff.mp hn
          cases heq
          exact hwon id hdeed
      · have hr : r ≠ .release id := by
          rintro rfl
          exact hreleased _ (congrArg _ hdeed)
        refine ⟨?_, fun n hn => ?_⟩
        · show MemoryStore.Standing _ id t
          rw [hstore]
          exact hg.standing.serve hyoung hpurge hnew hr
        · obtain ⟨deed, hdeed', heq⟩ := Option.map_eq_some_iff.mp hn
          cases heq
          exact hg.standing.not_won hyoung r (hdeed.symm.trans hdeed')
    | @arrive index number r hr hnew =>
      have hne : r ≠ .release id := by
        rintro rfl
        exact hreleased number rfl
      have hpurge := (hg.sound.stray _ (List.mem_of_getElem? hr)).1
      refine ⟨hg.standing.serve hyoung hpurge hnew hne, fun n hn => ?_⟩
      obtain ⟨deed, hdeed, heq⟩ := Option.map_eq_some_iff.mp hn
      cases heq
      obtain ⟨other, -, hother⟩ := release_of_strayDeed hdeed
      cases hother
    | _ => exact ⟨hg.standing, nofun⟩
  refine ⟨⟨h.sound hg.sound, fun n hn => ?_, hstand.1⟩, hstand.2⟩
  rcases h.claims_of hn with hold | hwon
  · exact hg.claims n hold
  · exact absurd hwon (hstand.2 n)

/-! ### Along turns -/

theorem now_le_after (s : ReplaySystem) (ts : List Turn) : s.now ≤ (s.after ts).now := by
  induction ts generalizing s with
  | nil => exact Nat.le_refl _
  | cons t rest ih => exact Nat.le_trans (s.happens t).now_le (ih _)

theorem Sound.after (hs : s.Sound) (ts : List Turn) :
    (s.after ts).Sound ∧ (s.after ts).store.lease = s.store.lease := by
  induction ts generalizing s with
  | nil => exact ⟨hs, rfl⟩
  | cons t rest ih =>
    have h := s.happens t
    obtain ⟨hsound, hlease⟩ := ih (h.sound hs)
    exact ⟨hsound, hlease.trans (h.lease_eq hs)⟩

/-- What calls come to over a store in any state, while requests fail and arrive late. -/
def Reachable (s : ReplaySystem) : Prop :=
  ∃ store before, ({ store } : ReplaySystem).after before = s

theorem Reachable.sound (h : s.Reachable) : s.Sound := by
  obtain ⟨store, before, rfl⟩ := h
  have hstart : Sound { store } := ⟨by simp, by simp⟩
  exact (hstart.after before).1

theorem mem_log_cons {t : Turn} {ts : List Turn} {e : Nat × Deed} :
    e ∈ s.log (t :: ts) ↔ s.deed t = some e ∨ e ∈ (s.turn t).log ts := by
  rw [log, List.mem_append, Option.mem_toList]

theorem Guard.after (hg : s.Guard may id t) (ts : List Turn)
    (hyoung : (s.after ts).now - t < s.store.lease)
    (hno : ∀ n, may n → (n, .released id) ∉ s.log ts) :
    (s.after ts).Guard may id t ∧ ∀ n, (n, .won id) ∉ s.log ts := by
  -- on the turns; at each the claim is no older than at the end
  induction ts generalizing s with
  | nil => exact ⟨hg, fun n => List.not_mem_nil⟩
  | cons first rest ih =>
    have h := s.happens first
    have hnow : s.now ≤ (s.after (first :: rest)).now := now_le_after s (first :: rest)
    obtain ⟨hnext, hwon⟩ := hg.turn
      (Nat.lt_of_le_of_lt (Nat.sub_le_sub_right hnow t) hyoung) h
      fun n hn hd => hno n hn (mem_log_cons.mpr (.inl hd))
    rw [← h.lease_eq hg.sound] at hyoung
    obtain ⟨hlast, hnone⟩ := ih hnext hyoung
      fun n hn hin => hno n hn (mem_log_cons.mpr (.inr hin))
    refine ⟨hlast, fun n hin => ?_⟩
    rcases mem_log_cons.mp hin with hd | hin
    · exact hwon n hd
    · exact hnone n hin

theorem Happens.standing_of_won (h : s.Happens s' d) (hs : s.Sound)
    (hd : d = some (n, .won id)) : s'.store.Standing id s'.now := by
  cases h with
  | act hc h =>
    obtain ⟨deed, hdeed, heq⟩ := Option.map_eq_some_iff.mp hd
    cases heq
    obtain ⟨phase, hon⟩ := hs.calls _ (List.mem_of_getElem? hc)
    rcases h.store_eq hon with ⟨-, hwon⟩ | ⟨r, -, -, hstore, hr⟩
    · exact absurd hdeed (hwon id)
    · rw [hdeed] at hr
      obtain rfl := StoreRequest.eq_tryClaim_of_deed hr.symm
      show MemoryStore.Standing _ id s.now
      rw [hstore]
      exact .inr (MemoryStore.free_of_won (StoreRequest.eq_true_of_deed hr.symm)).1
  | arrive hr hnew =>
    obtain ⟨deed, hdeed, heq⟩ := Option.map_eq_some_iff.mp hd
    cases heq
    obtain ⟨other, -, hother⟩ := release_of_strayDeed hdeed
    cases hother
  | _ => cases hd

/-- A call that wins a claim has it guarded by itself and by those that have a claim already. -/
theorem Happens.guard (h : s.Happens s' d) (hs : s.Sound) (hd : d = some (n, .won id)) :
    s'.Guard (fun m => m = n ∨ s.claims m id = true) id s'.now where
  sound := h.sound hs
  claims m hm := by
    rcases h.claims_of hm with hold | hwon
    · exact .inr hold
    · rw [hd] at hwon
      cases hwon
      exact .inl rfl
  standing := h.standing_of_won hs hd

/-- If two calls win the same dead letter within the lease, then the claim was released in between,
by the call that won it first or by one that already had a claim. -/
theorem released_of_won_twice (hs : s.Reachable) {first second : Turn} {between : List Turn}
    {winner other : Nat} (hfirst : s.deed first = some (winner, .won id))
    (hbetween : (s.turn first).after between = s')
    (hsecond : s'.deed second = some (other, .won id)) (hyoung : s'.now < s.now + s.store.lease) :
    ∃ n, (n, .released id) ∈ (s.turn first).log between ∧
      (n = winner ∨ s.claims n id = true) := by
  refine Classical.byContradiction fun hno => ?_
  subst hbetween
  have hwins := s.happens first
  have hage : ((s.turn first).after between).now - (s.turn first).now <
      (s.turn first).store.lease := by
    rw [hwins.lease_eq hs.sound]
    have hbefore := Nat.le_trans hwins.now_le (now_le_after (s.turn first) between)
    exact Nat.lt_of_le_of_lt (Nat.sub_le_sub_left hwins.now_le _)
      (Nat.sub_lt_left_of_lt_add hbefore hyoung)
  have hg := ((hwins.guard hs.sound hfirst).after between hage fun n hn hin => hno ⟨n, hin, hn⟩).1
  rw [← ((hwins.sound hs.sound).after between).2] at hage
  refine (hg.turn hage (happens _ second) fun n _ hn => ?_).2 other hsecond
  rw [hsecond] at hn
  cases hn

/-! ### A claim that is lost -/

/-- One dead letter, and claims that are young for ten nanoseconds. -/
def letterStore : MemoryStore where
  slots := [⟨.ofMessage ⟨7⟩ { messageType := "order.placed" } .unhandledException none []
    { nanos := 0 }, none⟩]
  lease := 10

/-- The handler of the first call runs for as long as the lease, and the second call is about to
claim the dead letter. -/
def overdue : ReplaySystem :=
  ({ store := letterStore } : ReplaySystem).after
    [.call (.replay ⟨7⟩) true, .call (.replay ⟨7⟩) true, .call (.replay ⟨7⟩) true,
     .act 0 .answer, .act 0 .answer, .act 0 (.goOn { nanos := 0 } ⟨0⟩), .act 0 .begin, .tick 10,
     .act 1 .answer]

def lateRelease : List Turn :=
  [.act 0 (.finish false), .act 0 (.goOn { nanos := 0 } ⟨0⟩), .act 0 .answer, .act 2 .answer]

def bereft : ReplaySystem := (overdue.turn (.act 1 .answer)).after lateRelease

/-- It is not always the call that won a claim, by which the claim is released. -/
theorem released_by_another : ¬ ∀ (s s' : ReplaySystem) (first second : Turn)
    (between : List Turn) (winner other : Nat) (id : EntryId), s.Reachable →
    s.deed first = some (winner, .won id) → (s.turn first).after between = s' →
    s'.deed second = some (other, .won id) → s'.now < s.now + s.store.lease →
    (winner, .released id) ∈ (s.turn first).log between ∨
      (winner, .marked id) ∈ (s.turn first).log between := by
  intro h
  have hlost := h overdue bereft (.act 1 .answer) (.act 2 .answer) lateRelease 1 2 ⟨7⟩ ⟨_, _, rfl⟩
    rfl rfl rfl (by decide)
  exact absurd hlost (by decide)

theorem released_of_won_twice_late : overdue.Reachable ∧
    overdue.deed (.act 1 .answer) = some (1, .won ⟨7⟩) ∧
    bereft.deed (.act 2 .answer) = some (2, .won ⟨7⟩) ∧
    bereft.now < overdue.now + overdue.store.lease ∧
    ∃ n, (n, .released ⟨7⟩) ∈ (overdue.turn (.act 1 .answer)).log lateRelease ∧
      (n = 1 ∨ overdue.claims n ⟨7⟩ = true) := by
  have hreach : overdue.Reachable := ⟨_, _, rfl⟩
  have hfirst : overdue.deed (.act 1 .answer) = some (1, .won ⟨7⟩) := rfl
  have hsecond : bereft.deed (.act 2 .answer) = some (2, .won ⟨7⟩) := rfl
  have hyoung : bereft.now < overdue.now + overdue.store.lease := by decide
  exact ⟨hreach, hfirst, hsecond, hyoung,
    released_of_won_twice hreach hfirst rfl hsecond hyoung⟩

end ReplaySystem

end Delivery
