import Delivery.Proofs.Replay.Ledger

/-!
# Single replay

What the ledger of claims says of the handlers, the store and the counts at any time. Main statement
(`Reachable.single_replay`): a handler has a dead letter to itself, and receives it well at most
once.
-/

namespace Delivery

/-! ### What the account says -/

namespace QueueCall.Lawful

variable {c : QueueCall} {id : EntryId}

theorem marked_subset (h : c.Lawful) (hid : id ∈ c.marked) : id ∈ c.delivered := by
  rcases h with ⟨stage, hat⟩ | hg
  · rw [hat.delivered]
    exact List.mem_append_left _ hid
  · rw [hg.delivered]
    exact hid

/-- A dead letter that went well is marked, or still claimed and not handed out any more. -/
theorem count_le (h : c.Lawful) (id : EntryId) :
    (c.runs id).toNat + c.delivered.count id ≤ c.share id := by
  have hruns : (c.runs id).toNat ≤ (c.claims id).toNat := by
    unfold runs
    cases c.running <;> simp
  rcases h with ⟨stage, hat⟩ | hg
  · rw [hat.delivered, List.count_append]
    unfold share
    cases stage with
    | delivered id' =>
      have hno : c.running = false := by
        cases hr : c.running with
        | false => rfl
        | true => cases hat.running hr
      have hclaim : (c.claims id).toNat = List.count id [id'] := by
        obtain ⟨t, ht⟩ := map_claim_eq_some_iff.mp hat.claim
        unfold claims
        rw [ht]
        by_cases hid : id' = id <;> simp [hid]
      simp only [runs, hno, Bool.false_and, Bool.toNat_false, Stage.unmarked]
      omega
    | _ =>
      simp only [Stage.unmarked, List.count_nil]
      omega
  · rw [hg.delivered]
    unfold share
    omega

theorem claimedCount_eq (h : c.Lawful) {r : Except DeadLetterError Nat} (hr : c.result? = some r) :
    claimedCount r = c.marked.length := by
  rcases h with ⟨stage, hat⟩ | hg
  · have hsession := hat.session
    unfold result? at hr
    split at hr
    · rename_i r' hp
      cases hr
      rw [hp] at hsession
      cases hsession with
      | done hpost => exact hpost.2.symm
    · cases hr
  · rw [hg.result] at hr
    cases hr

end QueueCall.Lawful

namespace Ledger

variable {store : MemoryStore} {c : QueueCall} {calls : List QueueCall} {id : EntryId} {t : Instant}

theorem total_le (h : ∀ c ∈ calls, c.Lawful) (id : EntryId) :
    calls.countP (·.runs id) + (calls.flatMap (·.delivered)).count id ≤
      (calls.map (·.share id)).sum := by
  -- on the calls; each contributes its own share
  induction calls with
  | nil => exact Nat.le_refl 0
  | cons c rest ih =>
    have hc := (h c List.mem_cons_self).count_le id
    have hrest := ih fun c₀ hc₀ => h c₀ (List.mem_cons_of_mem c hc₀)
    simp only [List.countP_cons, List.flatMap_cons, List.count_append, List.map_cons, List.sum_cons]
    cases hr : c.runs id <;> simp only [hr, Bool.toNat_true, Bool.toNat_false] at hc ⊢ <;> simp <;>
      omega

theorem counted (h : ∀ c ∈ calls, c.Lawful) :
    ((calls.filterMap (·.result?)).map claimedCount).sum =
      ((calls.filter (·.result?.isSome)).flatMap (·.marked)).length := by
  -- on the calls; one that has not ended counts on neither side
  induction calls with
  | nil => rfl
  | cons c rest ih =>
    have hrest := ih fun c₀ hc₀ => h c₀ (List.mem_cons_of_mem c hc₀)
    cases hr : c.result? with
    | none => simpa [hr] using hrest
    | some r =>
      have hc := (h c List.mem_cons_self).claimedCount_eq hr
      simp [hr, hc, hrest]

theorem count_marked_le (p : QueueCall → Bool) (id : EntryId) :
    ((calls.filter p).flatMap (·.marked)).count id ≤ (calls.map (·.share id)).sum := by
  induction calls with
  | nil => exact Nat.le_refl 0
  | cons c rest ih =>
    have hc : c.marked.count id ≤ c.share id := Nat.le_add_left _ _
    rw [List.map_cons, List.sum_cons, List.filter_cons]
    split
    · rw [List.flatMap_cons, List.count_append]
      omega
    · omega

end Ledger

namespace QueueSystem

variable {s : QueueSystem}

/-- What can be said of the handlers, the store and the counts at any time. -/
structure SingleReplay (s : QueueSystem) : Prop where
  running : ∀ id, s.calls.countP (·.runs id) ≤ 1
  attended : ∀ c ∈ s.calls, c.running = true → ∃ message next id,
    c.program = .ask (.handle message) next ∧ c.runs id = true
  succeeded : ∀ id, (s.calls.flatMap (·.delivered)).count id ≤ 1
  -- When a handler is to begin, or runs, its message is that of a stored dead letter that the call
  -- has a claim on and that is not replayed.
  not_replayed : ∀ c ∈ s.calls, ∀ message next, c.dropped = false →
    c.program = .ask (.handle message) next → ∃ slot ∈ s.store.slots,
      slot.entry.toMessage = message ∧ c.claims slot.entry.id = true ∧
      ¬ s.store.IsReplayed slot.entry.id
  replayed_iff : ∀ id, s.store.IsReplayed id ↔ ∃ c ∈ s.calls, id ∈ c.delivered ∧ id ∈ c.marked
  counted : ((s.calls.filterMap (·.result?)).map claimedCount).sum =
    ((s.calls.filter (·.result?.isSome)).flatMap (·.marked)).length
  once : ((s.calls.filter (·.result?.isSome)).flatMap (·.marked)).Nodup

/-- Of all calls that share a store, whatever their order, their handlers and what becomes of them,
one at a time hands a dead letter out, and one at most succeeds and is counted for it, as long as no
claim outlives the lease. -/
theorem Reachable.single_replay (h : Reachable s) : s.SingleReplay := by
  have hl := h.ledger
  have htotal (id : EntryId) := Nat.le_trans (Ledger.total_le hl.lawful id) (hl.share_le id)
  refine ⟨?_, ?_, ?_, ?_, ?_, Ledger.counted hl.lawful, ?_⟩
  · intro id
    have := htotal id
    omega
  · intro c hc hr
    rcases hl.lawful c hc with ⟨stage, hat⟩ | hg
    · obtain ⟨e, next, rfl, hp⟩ := hat.handling hr
      refine ⟨e.toMessage, next, e.id, hp, ?_⟩
      rw [QueueCall.runs, hr, Bool.true_and]
      exact QueueCall.claims_iff.mpr (QueueCall.map_claim_eq_some_iff.mp hat.claim)
    · rw [hg.running] at hr
      cases hr
  · intro id
    have := htotal id
    omega
  · intro c hc message next hd hp
    rcases hl.lawful c hc with ⟨stage, hat⟩ | hg
    · have hsession := hat.session
      rw [hp] at hsession
      cases hsession with
      | handle he went failed =>
        obtain ⟨t, ht⟩ := QueueCall.map_claim_eq_some_iff.mp hat.claim
        obtain ⟨slot, hslot, hid, hmessage⟩ := hl.kept c hc _ he
        refine ⟨slot, hslot, hmessage, ?_, ?_⟩
        · rw [hid]
          exact QueueCall.claims_iff.mpr ⟨t, ht⟩
        · rw [hid]
          exact (hl.claimed c hc _ t ht).not_replayed
    · rw [hg.dropped] at hd
      cases hd
  · intro id
    rw [hl.replayed_iff]
    refine ⟨?_, ?_⟩
    · rintro ⟨c, hc, hid⟩
      exact ⟨c, hc, (hl.lawful c hc).marked_subset hid, hid⟩
    · rintro ⟨c, hc, -, hid⟩
      exact ⟨c, hc, hid⟩
  · refine List.nodup_iff_count.mpr fun id => ?_
    exact Nat.le_trans (Ledger.count_marked_le _ id) (hl.share_le id)

def oneLetter : QueueSystem where
  store.slots := [⟨.ofMessage ⟨7⟩ { messageType := "order.placed" } .unhandledException none []
    { nanos := 0 }, none⟩]

/-- A replay is dropped while its handler runs, and a second call succeeds when the claim has been
released; a third call has read the dead letter before and comes too late. -/
def contention : List Move :=
  [.call (.replay ⟨7⟩), .call (.replayBatch {}), .call (.replay ⟨7⟩),
   .goOn 0 true, .goOn 1 true, .goOn 2 true,
   .goOn 0 true, .goOn 0 true, .goOn 0 true, .tick 1000, .drop 0, .release 0,
   .goOn 1 true, .goOn 1 true, .goOn 1 true, .goOn 1 true, .goOn 1 true, .goOn 1 true,
   .goOn 2 true, .goOn 1 true]

theorem single_replay_contended : ∃ s : QueueSystem, s.Reachable ∧ s.SingleReplay ∧
    s.calls.map (·.result?.map claimedCount) = [none, some 1, some 0] := by
  obtain ⟨s, hs⟩ := Option.isSome_iff_exists.mp
    (show (carryOut contention oneLetter).isSome = true by decide +kernel)
  have hr : s.Reachable := Reachable.carryOut (.start (by decide)) hs
  have hends : (carryOut contention oneLetter).map
      (fun s => s.calls.map (·.result?.map claimedCount)) = some [none, some 1, some 0] := by
    decide +kernel
  rw [hs] at hends
  exact ⟨s, hr, hr.single_replay, by simpa using hends⟩

end QueueSystem

end Delivery
