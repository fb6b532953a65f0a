import Mathlib.Algebra.GroupWithZero.Nat
import Delivery.Proofs.DeadLetter.Memory
import Delivery.Proofs.Replay.System

/-!
# The ledger of claims

A claim that is taken stays in the store, on a dead letter that is not replayed, until its call
marks it or gives it back; as long as it does not outlive the lease nobody else can claim the same
dead letter. So every dead letter is under one claim at most, or it has been marked once, and never
both. `Ledger` says so of a store and all calls over it, and every step keeps it.
-/

namespace Delivery

/-! ### Calls that keep to their session -/

namespace Stage

/-- The dead letter that is under a claim at a stage. -/
def entry? : Stage → Option EntryId
  | idle | marked _ => none
  | claimed e | held e => some e.id
  | delivered id | failed id | settled id => some id

def unmarked : Stage → List EntryId
  | delivered id => [id]
  | _ => []

end Stage

namespace QueueCall

/-- The call goes on from a stage of its session, and its account says so. -/
structure At (c : QueueCall) (stage : Stage) : Prop where
  dropped : c.dropped = false
  releasing : c.releasing = none
  claim : c.claim.map (·.1) = stage.entry?
  running : c.running = true → stage.held?.isSome = true
  held : ∀ e, stage.held? = some e → c.held = some e.id
  delivered : c.delivered = c.marked ++ stage.unmarked
  session : Session (fun r stage n => stage = .idle ∧ n = claimedCount r) c.read stage
    c.marked.length c.program

/-- The call was dropped, and only its claim may be left. -/
structure Gone (c : QueueCall) : Prop where
  dropped : c.dropped = true
  claim : c.claim.map (·.1) = c.releasing
  running : c.running = false
  delivered : c.delivered = c.marked
  result : c.result? = none

/-- A running handler has the message of the dead letter that is held. -/
theorem At.handling {c : QueueCall} {stage : Stage} (h : c.At stage) (hr : c.running = true) :
    ∃ e next, stage = .held e ∧ c.program = .ask (.handle e.toMessage) next := by
  have hheld := h.running hr
  have hsession := h.session
  cases stage with
  | held e =>
    generalize c.program = p at hsession ⊢
    cases hsession with
    | done hpost => cases hpost.1
    | wallClock hs _ => cases hs
    | handle _ _ _ => exact ⟨e, _, rfl, rfl⟩
  | _ => cases hheld

def Lawful (c : QueueCall) : Prop := (∃ stage, c.At stage) ∨ c.Gone

/-- How often the dead letter is under a claim of the call or marked by it. -/
def share (c : QueueCall) (id : EntryId) : Nat := (c.claims id).toNat + c.marked.count id

variable {c : QueueCall} {id : EntryId} {t : Instant}

theorem claims_iff : c.claims id = true ↔ ∃ t, c.claim = some (id, t) := by
  unfold claims
  cases h : c.claim with
  | none => simp
  | some p =>
    obtain ⟨id', t⟩ := p
    simp [eq_comm]

theorem claims_eq_false (h : ∀ t, c.claim ≠ some (id, t)) : c.claims id = false := by
  cases hc : c.claims id with
  | false => rfl
  | true =>
    obtain ⟨t, ht⟩ := claims_iff.mp hc
    exact absurd ht (h t)

theorem share_of_none (h : c.claim = none) : c.share id = c.marked.count id := by
  unfold share claims
  rw [h]
  exact Nat.zero_add _

theorem share_of_some {other : EntryId} (h : c.claim = some (other, t)) :
    c.share id = (if other = id then 1 else 0) + c.marked.count id := by
  unfold share claims
  rw [h]
  by_cases ho : other = id <;> simp [ho]

theorem map_claim_eq_some_iff : c.claim.map (·.1) = some id ↔ ∃ t, c.claim = some (id, t) := by
  cases h : c.claim with
  | none => simp
  | some p =>
    obtain ⟨id', t⟩ := p
    simp

theorem share_congr {c' : QueueCall} (hclaim : c'.claim = c.claim)
    (hmarked : c'.marked = c.marked) : c'.share = c.share := by
  funext id
  unfold share claims
  rw [hclaim, hmarked]

theorem endClaim_eq_none (h : c.claim = some (id, t)) : c.endClaim id = none := by
  unfold endClaim
  rw [h]
  simp

end QueueCall

/-! ### The account of all claims -/

/-- Every call keeps to its session, what it has read and claimed is in the store, a dead letter is
replayed if and only if a call has marked it, and no dead letter is claimed or marked twice. -/
structure Ledger (store : MemoryStore) (calls : List QueueCall) : Prop where
  lawful : ∀ c ∈ calls, c.Lawful
  kept : ∀ c ∈ calls, ∀ e ∈ c.read, store.Keeps e
  claimed : ∀ c ∈ calls, ∀ id t, c.claim = some (id, t) → store.IsClaimed id t
  replayed_iff : ∀ id, store.IsReplayed id ↔ ∃ c ∈ calls, id ∈ c.marked
  share_le : ∀ id, (calls.map (·.share id)).sum ≤ 1

namespace Ledger

variable {store store' : MemoryStore} {c c' : QueueCall} {calls calls' rest : List QueueCall}
  {id : EntryId} {t now : Instant}

theorem perm (h : Ledger store calls) (hp : calls.Perm calls') : Ledger store calls' where
  lawful c hc := h.lawful c (hp.mem_iff.mpr hc)
  kept c hc := h.kept c (hp.mem_iff.mpr hc)
  claimed c hc := h.claimed c (hp.mem_iff.mpr hc)
  replayed_iff id := by
    rw [h.replayed_iff id]
    simp only [hp.mem_iff]
  share_le id := by
    rw [← (hp.map (·.share id)).sum_nat]
    exact h.share_le id

theorem share_cons (h : Ledger store (c :: rest)) (other : EntryId) :
    c.share other + (rest.map (·.share other)).sum ≤ 1 := by
  have := h.share_le other
  rwa [List.map_cons, List.sum_cons] at this

theorem not_marked (h : Ledger store calls) (hno : ¬ store.IsReplayed id) :
    ∀ c ∈ calls, id ∉ c.marked := by
  intro c hc hid
  exact hno ((h.replayed_iff id).mpr ⟨c, hc, hid⟩)

/-- A dead letter under a claim of one call is under no other claim, and nobody has marked it. -/
theorem alone (h : Ledger store (c :: rest)) (hc : c.claims id = true) :
    id ∉ c.marked ∧ ∀ c₀ ∈ rest, c₀.claims id = false ∧ id ∉ c₀.marked := by
  have hle := h.share_cons id
  rw [QueueCall.share, hc, Bool.toNat_true] at hle
  have hself : c.marked.count id = 0 := by omega
  have hrest : (rest.map (·.share id)).sum = 0 := by omega
  refine ⟨List.count_eq_zero.mp hself, fun c₀ hc₀ => ?_⟩
  have hzero := List.sum_eq_zero_iff_forall_eq_nat.mp hrest _ (List.mem_map_of_mem hc₀)
  simp only [QueueCall.share, Nat.add_eq_zero_iff, List.count_eq_zero] at hzero
  exact ⟨by simpa using hzero.1, hzero.2⟩

/-- What has to be seen to when one call and the slot of one dead letter change. -/
theorem replace (h : Ledger store (c :: rest)) (hc : c'.Lawful) (hread : c'.read = c.read)
    (hkeep : ∀ e, store.Keeps e → store'.Keeps e)
    (hstore : ∀ other, other ≠ id → store'.find? other = store.find? other)
    (hclaim : ∀ other t, c'.claim = some (other, t) → store'.IsClaimed other t)
    (hrest : ∀ c₀ ∈ rest, c₀.claims id = false)
    (hmarked : ∀ other, other ≠ id → (other ∈ c'.marked ↔ other ∈ c.marked))
    (hreplayed : store'.IsReplayed id ↔ ∃ c₀ ∈ c' :: rest, id ∈ c₀.marked)
    (hshare : ∀ other, c'.share other + (rest.map (·.share other)).sum ≤ 1) :
    Ledger store' (c' :: rest) where
  lawful c₀ hc₀ := by
    rcases List.mem_cons.mp hc₀ with rfl | hc₀
    · exact hc
    · exact h.lawful c₀ (List.mem_cons_of_mem c hc₀)
  kept c₀ hc₀ e he := by
    rcases List.mem_cons.mp hc₀ with rfl | hc₀
    · rw [hread] at he
      exact hkeep e (h.kept c List.mem_cons_self e he)
    · exact hkeep e (h.kept c₀ (List.mem_cons_of_mem c hc₀) e he)
  claimed c₀ hc₀ other t ht := by
    rcases List.mem_cons.mp hc₀ with rfl | hc₀
    · exact hclaim other t ht
    · have hne : other ≠ id := by
        rintro rfl
        have := QueueCall.claims_iff.mpr ⟨t, ht⟩
        rw [hrest c₀ hc₀] at this
        cases this
      rw [MemoryStore.isClaimed_congr (hstore other hne)]
      exact h.claimed c₀ (List.mem_cons_of_mem c hc₀) other t ht
  replayed_iff other := by
    by_cases ho : other = id
    · rw [ho]
      exact hreplayed
    · rw [MemoryStore.isReplayed_congr (hstore other ho), h.replayed_iff]
      simp only [List.mem_cons, exists_eq_or_imp, hmarked other ho]
  share_le other := by
    rw [List.map_cons, List.sum_cons]
    exact hshare other

theorem quiet (h : Ledger store (c :: rest)) (hc : c'.Lawful)
    (hread : ∀ e ∈ c'.read, store.Keeps e) (hclaim : c'.claim = c.claim)
    (hmarked : c'.marked = c.marked) : Ledger store (c' :: rest) where
  lawful c₀ hc₀ := by
    rcases List.mem_cons.mp hc₀ with rfl | hc₀
    · exact hc
    · exact h.lawful c₀ (List.mem_cons_of_mem c hc₀)
  kept c₀ hc₀ e he := by
    rcases List.mem_cons.mp hc₀ with rfl | hc₀
    · exact hread e he
    · exact h.kept c₀ (List.mem_cons_of_mem c hc₀) e he
  claimed c₀ hc₀ other t ht := by
    rcases List.mem_cons.mp hc₀ with rfl | hc₀
    · exact h.claimed c List.mem_cons_self other t (hclaim ▸ ht)
    · exact h.claimed c₀ (List.mem_cons_of_mem c hc₀) other t ht
  replayed_iff other := by
    rw [h.replayed_iff]
    simp only [List.mem_cons, exists_eq_or_imp, hmarked]
  share_le other := by
    rw [List.map_cons, List.sum_cons, QueueCall.share_congr hclaim hmarked]
    exact h.share_cons other

theorem insert (h : Ledger store (c :: rest)) (hc : c'.Lawful) (hread : c'.read = c.read)
    (hclaim : c'.claim = c.claim) (hmarked : c'.marked = c.marked) {e : Entry}
    (hfresh : store.find? e.id = none) (he : e.replayed = false) :
    Ledger (MemoryStore.serve now (.insert e) store).2 (c' :: rest) := by
  have hstore (other : EntryId) (ho : other ≠ e.id) :
      (MemoryStore.serve now (.insert e) store).2.find? other = store.find? other := by
    rw [MemoryStore.find?_insert, if_neg ho]
  have hunknown (c₀ : QueueCall) (hc₀ : c₀ ∈ c :: rest) (t : Instant) :
      c₀.claim ≠ some (e.id, t) := by
    intro ht
    obtain ⟨slot, hslot, -⟩ := h.claimed c₀ hc₀ e.id t ht
    rw [hfresh] at hslot
    cases hslot
  have hnever : ¬ store.IsReplayed e.id := by
    rintro ⟨slot, hslot, -⟩
    rw [hfresh] at hslot
    cases hslot
  refine h.replace hc hread (fun _ hk => hk.insert hfresh) hstore ?_ ?_
    (fun other _ => by rw [hmarked]) ?_ ?_
  · intro other t ht
    rw [hclaim] at ht
    have hne : other ≠ e.id := by
      rintro rfl
      exact hunknown c List.mem_cons_self t ht
    rw [MemoryStore.isClaimed_congr (hstore other hne)]
    exact h.claimed c List.mem_cons_self other t ht
  · intro c₀ hc₀
    exact QueueCall.claims_eq_false (hunknown c₀ (List.mem_cons_of_mem c hc₀))
  · refine ⟨?_, ?_⟩
    · rintro ⟨slot, hslot, hyes⟩
      rw [MemoryStore.find?_insert, if_pos rfl] at hslot
      cases hslot
      rw [he] at hyes
      cases hyes
    · simp only [List.mem_cons, exists_eq_or_imp, hmarked]
      intro hyes
      refine absurd ((h.replayed_iff e.id).mpr ?_) hnever
      simpa only [List.mem_cons, exists_eq_or_imp] using hyes
  · intro other
    rw [QueueCall.share_congr hclaim hmarked]
    exact h.share_cons other

theorem claim (h : Ledger store (c :: rest)) (hc : c'.Lawful) (hread : c'.read = c.read)
    (hclaim : c'.claim = some (id, now)) (hmarked : c'.marked = c.marked)
    (hwon : (MemoryStore.serve now (.tryClaim id) store).1 = true)
    (htimely : ∀ c₀ ∈ c :: rest, ∀ t, c₀.claim = some (id, t) → now - t < store.lease) :
    Ledger (MemoryStore.serve now (.tryClaim id) store).2 (c' :: rest) := by
  obtain ⟨hnew, hno, hfree⟩ := MemoryStore.free_of_won hwon
  have hunmarked := h.not_marked hno
  have hunclaimed (c₀ : QueueCall) (hc₀ : c₀ ∈ c :: rest) : c₀.claims id = false := by
    refine QueueCall.claims_eq_false fun t ht => ?_
    exact hfree t (h.claimed c₀ hc₀ id t ht) (htimely c₀ hc₀ t ht)
  refine h.replace hc hread (fun _ hk => hk.tryClaim)
    (fun other ho => MemoryStore.find?_tryClaim_of_ne ho) ?_
    (fun c₀ hc₀ => hunclaimed c₀ (List.mem_cons_of_mem c hc₀)) (fun other _ => by rw [hmarked])
    ?_ ?_
  · intro other t ht
    rw [hclaim] at ht
    cases ht
    exact hnew
  · refine ⟨fun hyes => absurd hyes hnew.not_replayed, ?_⟩
    simp only [List.mem_cons, exists_eq_or_imp, hmarked]
    rintro (hyes | ⟨c₀, hc₀, hyes⟩)
    · exact absurd hyes (hunmarked c List.mem_cons_self)
    · exact absurd hyes (hunmarked c₀ (List.mem_cons_of_mem c hc₀))
  · intro other
    rw [QueueCall.share_of_some hclaim, hmarked]
    by_cases ho : id = other
    · subst ho
      have hself : c.marked.count id = 0 := List.count_eq_zero.mpr (hunmarked c List.mem_cons_self)
      have hrest : (rest.map (·.share id)).sum = 0 := by
        refine List.sum_eq_zero_iff_forall_eq_nat.mpr fun k hk => ?_
        obtain ⟨c₀, hc₀, rfl⟩ := List.mem_map.mp hk
        have hin := List.mem_cons_of_mem c hc₀
        simp [QueueCall.share, hunclaimed c₀ hin, List.count_eq_zero.mpr (hunmarked c₀ hin)]
      rw [if_pos rfl]
      omega
    · have hle := h.share_cons other
      unfold QueueCall.share at hle
      rw [if_neg ho]
      unfold QueueCall.share
      omega

theorem mark (h : Ledger store (c :: rest)) (hc : c'.Lawful) (hread : c'.read = c.read)
    (hold : c.claim = some (id, t)) (hclaim : c'.claim = none)
    (hmarked : c'.marked = c.marked ++ [id]) {time : Timestamp} :
    Ledger (MemoryStore.serve now (.markReplayed id time) store).2 (c' :: rest) := by
  obtain ⟨hunmarked, hrest⟩ := h.alone (QueueCall.claims_iff.mpr ⟨t, hold⟩)
  have hyes := MemoryStore.marked_of_isClaimed now time
    (h.claimed c List.mem_cons_self id t hold)
  refine h.replace hc hread (fun _ hk => hk.markReplayed) ?_ ?_
    (fun c₀ hc₀ => (hrest c₀ hc₀).1) ?_ ?_ ?_
  · intro other ho
    rw [MemoryStore.find?_markReplayed, if_neg ho]
  · intro other t ht
    rw [hclaim] at ht
    cases ht
  · intro other ho
    rw [hmarked, List.mem_append, List.mem_singleton]
    exact or_iff_left ho
  · refine ⟨fun _ => ⟨c', List.mem_cons_self, ?_⟩, fun _ => hyes.2⟩
    rw [hmarked]
    exact List.mem_append_right _ List.mem_cons_self
  · intro other
    have hle := h.share_cons other
    rw [QueueCall.share_of_some hold] at hle
    rw [QueueCall.share_of_none hclaim, hmarked, List.count_append, List.count_singleton]
    simp only [beq_iff_eq]
    omega

theorem release (h : Ledger store (c :: rest)) (hc : c'.Lawful) (hread : c'.read = c.read)
    (hold : c.claim = some (id, t)) (hclaim : c'.claim = none) (hmarked : c'.marked = c.marked) :
    Ledger (MemoryStore.serve now (.release id) store).2 (c' :: rest) := by
  obtain ⟨hunmarked, hrest⟩ := h.alone (QueueCall.claims_iff.mpr ⟨t, hold⟩)
  obtain ⟨slot, hslot, hno, -⟩ := h.claimed c List.mem_cons_self id t hold
  refine h.replace hc hread (fun _ hk => hk.release) ?_ ?_
    (fun c₀ hc₀ => (hrest c₀ hc₀).1) (fun other _ => by rw [hmarked]) ?_ ?_
  · intro other ho
    rw [MemoryStore.find?_release, if_neg ho]
  · intro other t ht
    rw [hclaim] at ht
    cases ht
  · refine ⟨?_, ?_⟩
    · rintro ⟨slot', hslot', hyes⟩
      rw [MemoryStore.find?_release, if_pos rfl, hslot] at hslot'
      cases hslot'
      exact absurd hyes (by simp [hno])
    · simp only [List.mem_cons, exists_eq_or_imp, hmarked]
      rintro (hyes | ⟨c₀, hc₀, hyes⟩)
      · exact absurd hyes hunmarked
      · exact absurd hyes (hrest c₀ hc₀).2
  · intro other
    have hle := h.share_cons other
    rw [QueueCall.share_of_some hold] at hle
    rw [QueueCall.share_of_none hclaim, hmarked]
    omega

/-! ### Steps -/

theorem asked {r : StoreRequest}
    {next : Except DeadLetterError r.Reply → ReplayProgram (Except DeadLetterError Nat)}
    {stage : Stage} (h : Ledger store (c :: rest)) (hat : c.At stage)
    (htimely : ∀ c₀ ∈ c :: rest, ∀ id t, c₀.claim = some (id, t) → now - t < store.lease)
    (hp : c.program = .ask (.store r) next)
    (hfresh : ∀ e, r = .insert e → store.find? e.id = none) :
    Ledger (MemoryStore.serve now r store).2
      (c.replied now (next (.ok (MemoryStore.serve now r store).1)) r
        (MemoryStore.serve now r store).1 :: rest) := by
  have hsession := hat.session
  have hkept := h.kept c List.mem_cons_self
  rw [hp] at hsession
  cases hsession with
  | get hnext =>
    refine h.quiet (.inl ⟨_, { hat with session := hnext _ }⟩) ?_ rfl rfl
    intro e he
    rcases List.mem_append.mp he with he | he
    · exact hkept e he
    · exact MemoryStore.keeps_of_get (Option.mem_toList.mp he)
  | query hnext =>
    refine h.quiet (.inl ⟨_, { hat with session := hnext _ }⟩) ?_ rfl rfl
    intro e he
    rcases List.mem_append.mp he with he | he
    · exact hkept e he
    · exact MemoryStore.keeps_of_query he
  | insert he hnext =>
    rename_i e next
    have hc' : (c.replied now (next (.ok ())) (.insert e) ()).Lawful :=
      .inl ⟨.idle, { hat with session := hnext }⟩
    exact h.insert hc' rfl rfl rfl (hfresh e rfl) he
  | tryClaim he won lost =>
    rename_i e next
    cases hw : (MemoryStore.serve now (.tryClaim e.id) store).1 with
    | true =>
      have hc' : (c.replied now (next (.ok true)) (.tryClaim e.id) true).Lawful :=
        .inl ⟨.claimed e, { hat with
          claim := rfl
          session := won }⟩
      exact h.claim hc' rfl rfl rfl hw fun c₀ hc₀ t => htimely c₀ hc₀ e.id t
    | false =>
      have hc' : (c.replied now (next (.ok false)) (.tryClaim e.id) false).Lawful :=
        .inl ⟨.idle, { hat with session := lost }⟩
      rw [MemoryStore.lost_eq hw]
      exact h.quiet hc' hkept rfl rfl
  | markReplayed marked missed =>
    rename_i id time next
    obtain ⟨t, ht⟩ := QueueCall.map_claim_eq_some_iff.mp hat.claim
    have hyes := (MemoryStore.marked_of_isClaimed now time
      (h.claimed c List.mem_cons_self id t ht)).1
    have hc' : (c.replied now (next (.ok true)) (.markReplayed id time) true).Lawful := by
      refine .inl ⟨.marked id, { hat with
        claim := ?_
        delivered := ?_
        session := ?_ }⟩
      · exact congrArg _ (QueueCall.endClaim_eq_none ht)
      · exact hat.delivered.trans (List.append_nil _).symm
      · show Session _ _ _ (c.marked ++ [id]).length _
        rw [List.length_append]
        exact marked
    rw [hyes]
    exact h.mark hc' rfl ht (QueueCall.endClaim_eq_none ht) rfl
  | release hnext =>
    rename_i id next
    obtain ⟨t, ht⟩ := QueueCall.map_claim_eq_some_iff.mp hat.claim
    have hc' : (c.replied now (next (.ok ())) (.release id) ()).Lawful :=
      .inl ⟨.idle, { hat with
        claim := congrArg _ (QueueCall.endClaim_eq_none ht)
        session := hnext }⟩
    exact h.release hc' rfl ht (QueueCall.endClaim_eq_none ht) rfl

theorem released (h : Ledger store (c :: rest)) (hg : c.Gone) (hr : c.releasing = some id) :
    Ledger (MemoryStore.serve now (.release id) store).2
      ({ c with releasing := none, claim := c.endClaim id } :: rest) := by
  obtain ⟨t, ht⟩ := QueueCall.map_claim_eq_some_iff.mp (hg.claim.trans hr)
  have hc' : QueueCall.Lawful { c with releasing := none, claim := c.endClaim id } :=
    .inr { hg with claim := congrArg _ (QueueCall.endClaim_eq_none ht) }
  exact h.release hc' rfl ht (QueueCall.endClaim_eq_none ht) rfl

/-- The account is kept by every step of a call, by cases on the step. -/
theorem step (h : Ledger store (c :: rest))
    (htimely : ∀ c₀ ∈ c :: rest, ∀ id t, c₀.claim = some (id, t) → now - t < store.lease)
    (hs : QueueCall.Step now store c store' c') : Ledger store' (c' :: rest) := by
  have hkept := h.kept c List.mem_cons_self
  rcases h.lawful c List.mem_cons_self with ⟨stage, hat⟩ | hg
  · have hsession := hat.session
    cases hs with
    | asked hp hd hfresh => exact h.asked hat htimely hp hfresh
    | began hp hd hr =>
      rw [hp] at hsession
      cases hsession with
      | handle he went failed =>
        exact h.quiet (.inl ⟨_, { hat with running := fun _ => rfl }⟩) hkept rfl rfl
    | ended well hp hr =>
      rw [hp] at hsession
      cases hsession with
      | handle he went failed =>
        rename_i e
        have hclaim : c.claim.map (·.1) = some e.id := hat.claim
        have hsame : c.delivered = c.marked := hat.delivered.trans (List.append_nil _)
        cases well with
        | true =>
          exact h.quiet (.inl ⟨.delivered e.id, { hat with
            running := fun hr => by cases hr
            held := fun _ hs => by cases hs
            delivered := by simp [hsame, hclaim, Stage.unmarked]
            session := went }⟩) hkept rfl rfl
        | false =>
          exact h.quiet (.inl ⟨.failed e.id, { hat with
            running := fun hr => by cases hr
            held := fun _ hs => by cases hs
            delivered := by simp [hsame, Stage.unmarked]
            session := failed }⟩) hkept rfl rfl
    | droppedOut hr =>
      obtain ⟨e, next, rfl, hp⟩ := hat.handling hr
      have hsame : c.delivered = c.marked := hat.delivered.trans (List.append_nil _)
      refine h.quiet (.inr ⟨rfl, ?_, rfl, hsame, ?_⟩) hkept rfl rfl
      · exact hat.claim.trans (hat.held e rfl).symm
      · show c.result? = none
        unfold QueueCall.result?
        rw [hp]
    | released hr =>
      rw [hat.releasing] at hr
      cases hr
    | hold hp hd =>
      rw [hp] at hsession
      cases hsession with
      | hold hnext =>
        exact h.quiet (.inl ⟨.held _, { hat with
          running := fun _ => rfl
          held := fun _ hs => by cases hs; rfl
          session := hnext }⟩) hkept rfl rfl
    | settle hp hd =>
      rw [hp] at hsession
      cases hsession with
      | settle hnext =>
        exact h.quiet (.inl ⟨.idle, { hat with
          held := fun _ hs => by cases hs
          session := hnext }⟩) hkept rfl rfl
      | settleFailed hnext =>
        exact h.quiet (.inl ⟨.settled _, { hat with
          held := fun _ hs => by cases hs
          session := hnext }⟩) hkept rfl rfl
    | abandon hp hd =>
      rw [hp] at hsession
      cases hsession
    | wallClock time hp hd =>
      rw [hp] at hsession
      cases hsession with
      | wallClock hs hnext =>
        exact h.quiet (.inl ⟨_, { hat with session := hnext time }⟩) hkept rfl rfl
    | newId id hp hd =>
      rw [hp] at hsession
      cases hsession with
      | newId hnext =>
        exact h.quiet (.inl ⟨_, { hat with session := hnext id }⟩) hkept rfl rfl
  · cases hs with
    | released hr => exact h.released hg hr
    | ended well hp hr =>
      rw [hg.running] at hr
      cases hr
    | droppedOut hr =>
      rw [hg.running] at hr
      cases hr
    | asked _ hd | began _ hd | hold _ hd | settle _ hd | abandon _ hd | wallClock _ _ hd
    | newId _ _ hd =>
      rw [hg.dropped] at hd
      cases hd

theorem begin (h : Ledger store calls) (request : QueueRequest) (handled : Bool) :
    Ledger store (calls ++ [{ program := request.program handled }]) := by
  have hc : QueueCall.Lawful { program := request.program handled } := by
    refine .inl ⟨.idle, rfl, rfl, rfl, ?_, ?_, rfl, Session.program request⟩
    · intro hr
      cases hr
    · intro _ hs
      cases hs
  constructor
  · intro c hc₀
    rcases List.mem_append.mp hc₀ with hc₀ | hc₀
    · exact h.lawful c hc₀
    · cases List.mem_singleton.mp hc₀
      exact hc
  · intro c hc₀ e he
    rcases List.mem_append.mp hc₀ with hc₀ | hc₀
    · exact h.kept c hc₀ e he
    · cases List.mem_singleton.mp hc₀
      cases he
  · intro c hc₀ id t ht
    rcases List.mem_append.mp hc₀ with hc₀ | hc₀
    · exact h.claimed c hc₀ id t ht
    · cases List.mem_singleton.mp hc₀
      cases ht
  · intro id
    rw [h.replayed_iff]
    simp [List.mem_append, or_and_right, exists_or]
  · intro id
    rw [List.map_append, List.sum_append]
    exact h.share_le id

end Ledger

namespace QueueSystem

variable {s s' : QueueSystem}

theorem Step.ledger (hs : Step s s') (ht : s.Timely) (h : Ledger s.store s.calls) :
    Ledger s'.store s'.calls := by
  cases hs with
  | tick _ d => exact h
  | call _ request handled => exact h.begin request handled
  | goOn before after hs =>
    have hstep := (h.perm List.perm_middle).step ?_ hs
    · exact hstep.perm List.perm_middle.symm
    · intro c hc
      exact ht c (List.perm_middle.mem_iff.mpr hc)

theorem Reachable.ledger (h : Reachable s) : Ledger s.store s.calls := by
  induction h with
  | @start now store h =>
    refine ⟨by simp, by simp, by simp, fun id => ?_, fun id => Nat.zero_le 1⟩
    simp only [List.not_mem_nil, false_and, exists_false, iff_false]
    rintro ⟨slot, hslot, hyes⟩
    rw [(h slot (List.mem_of_find?_eq_some hslot)).1] at hyes
    cases hyes
  | step _ ht hs ih => exact hs.ledger ht ih

end QueueSystem

end Delivery
