import Delivery.Proofs.Replay.Standing

/-!
# After a handler went well

A call whose handler has gone well has a claim until the dead letter is marked, and then the dead
letter has been replayed. So it is not handed out again while the claim is young, unless the claim
is released; and the call releases it only if it was told that the store failed to mark the dead
letter, or if it is dropped.
-/

namespace Delivery.ReplaySystem

variable {s s' : ReplaySystem} {d : Option (Nat × Deed)} {id : EntryId} {t : Instant} {n : Nat}
  {phase : Phase}

def At (s : ReplaySystem) (n : Nat) (phase : Phase) : Prop :=
  ∃ c, s.calls[n]? = some c ∧ c.On phase

/-- The call has won the dead letter and hands it out, or is going to. -/
def Engaged (s : ReplaySystem) (n : Nat) (id : EntryId) : Prop :=
  s.At n (.claimed id) ∨ s.At n (.held id)

def Away (s : ReplaySystem) (n : Nat) (id : EntryId) : Prop :=
  ∃ phase, s.At n phase ∧ phase ≠ .claimed id ∧ phase ≠ .held id

theorem At.claims_of (h : s.At n phase) (hid : phase.claim? = some id) :
    s.claims n id = true := by
  obtain ⟨c, hc, hon⟩ := h
  exact claims_iff.mpr ⟨c, hc, hon.claims_of hid⟩

theorem At.not_claims (h : s.At n phase) (hphase : phase ≠ .stopped)
    (hid : phase.claim? ≠ some id) : s.claims n id = false := by
  obtain ⟨c, hc, hon⟩ := h
  unfold claims
  rw [hc]
  exact hon.not_claims hphase hid

namespace Happens

/-- A call has nothing to do with the turn, or it comes to the next phase. -/
theorem at_next (h : s.Happens s' d) (hs : s.Sound) (hat : s.At n phase) :
    (s'.At n phase ∧ ∀ e, d ≠ some (n, e)) ∨
      ∃ e after, phase.Step e after ∧ s'.At n after ∧ d = e.map (n, ·) := by
  obtain ⟨c, hc, hon⟩ := hat
  cases h with
  | nothing | tick _ => exact .inl ⟨⟨c, hc, hon⟩, nofun⟩
  | call request handled =>
    refine .inl ⟨⟨c, ?_, hon⟩, nofun⟩
    rw [List.getElem?_append_left (List.getElem?_eq_some_iff.mp hc).1]
    exact hc
  | @act number c₀ o hc₀ h =>
    by_cases hn : number = n
    · subst hn
      rw [hc₀] at hc
      cases hc
      obtain ⟨after, hstep, hafter⟩ := h.on hon
      refine .inr ⟨o.deed, after, hstep, ⟨o.call, ?_, hafter⟩, rfl⟩
      exact List.getElem?_set_self (List.getElem?_eq_some_iff.mp hc₀).1
    · refine .inl ⟨⟨c, ?_, hon⟩, fun e he => ?_⟩
      · rw [List.getElem?_set_ne hn]
        exact hc
      · obtain ⟨deed, -, heq⟩ := Option.map_eq_some_iff.mp he
        cases heq
        exact hn rfl
  | @arrive index number r hr hnew =>
    by_cases hd : ∃ e, (strayDeed r).map (number, ·) = some (n, e)
    · obtain ⟨e, he⟩ := hd
      obtain ⟨deed, hdeed, heq⟩ := Option.map_eq_some_iff.mp he
      cases heq
      obtain ⟨id, rfl, rfl⟩ := release_of_strayDeed hdeed
      obtain ⟨c', hc', hclaim, hend⟩ := (hs.stray _ (List.mem_of_getElem? hr)).2 id rfl
      obtain rfl : c = c' := Option.some.inj (hc.symm.trans hc')
      obtain rfl := hon.stopped_of_finished hend hclaim
      exact .inr ⟨some (.released id), .stopped, .releasedLater id, ⟨c, hc, hon⟩, rfl⟩
    · exact .inl ⟨⟨c, hc, hon⟩, fun e he => hd ⟨e, he⟩⟩

theorem step_of_deed (h : s.Happens s' d) (hs : s.Sound) {e : Deed} (hd : d = some (n, e)) :
    ∃ phase after, s.At n phase ∧ phase.Step (some e) after ∧ s'.At n after := by
  have hphase : ∃ phase, s.At n phase := by
    cases h with
    | act hc _ =>
      obtain ⟨deed, -, heq⟩ := Option.map_eq_some_iff.mp hd
      cases heq
      obtain ⟨phase, hon⟩ := hs.calls _ (List.mem_of_getElem? hc)
      exact ⟨phase, _, hc, hon⟩
    | arrive hr hnew =>
      obtain ⟨deed, hdeed, heq⟩ := Option.map_eq_some_iff.mp hd
      cases heq
      obtain ⟨id, rfl, rfl⟩ := release_of_strayDeed hdeed
      obtain ⟨c, hc, -, -⟩ := (hs.stray _ (List.mem_of_getElem? hr)).2 id rfl
      obtain ⟨phase, hon⟩ := hs.calls c (List.mem_of_getElem? hc)
      exact ⟨phase, c, hc, hon⟩
    | _ => cases hd
  obtain ⟨phase, hat⟩ := hphase
  rcases h.at_next hs hat with ⟨-, hnone⟩ | ⟨e', after, hstep, hafter, hd'⟩
  · exact absurd hd (hnone e)
  · rw [hd] at hd'
    obtain ⟨e'', rfl, heq⟩ := Option.map_eq_some_iff.mp hd'.symm
    cases heq
    exact ⟨phase, after, hat, hstep, hafter⟩

theorem at_of_won (h : s.Happens s' d) (hs : s.Sound) (hd : d = some (n, .won id)) :
    s'.At n (.claimed id) := by
  obtain ⟨phase, after, -, hstep, hafter⟩ := h.step_of_deed hs hd
  cases hstep
  exact hafter

theorem claims_of_began (h : s.Happens s' d) (hs : s.Sound) (hd : d = some (n, .began id)) :
    s.claims n id = true := by
  obtain ⟨phase, after, hat, hstep, -⟩ := h.step_of_deed hs hd
  cases hstep
  exact hat.claims_of rfl

/-- A call that hands the dead letter out goes on with it, and has not released it, or it is
through. -/
theorem engaged (h : s.Happens s' d) (hs : s.Sound) (he : s.Engaged n id) :
    (s'.Engaged n id ∧ d ≠ some (n, .released id)) ∨ s'.Away n id := by
  rcases he with hat | hat
  · rcases h.at_next hs hat with ⟨hat', hnone⟩ | ⟨e, after, hstep, hat', rfl⟩
    · exact .inl ⟨.inl hat', hnone _⟩
    · cases hstep with
      | hold => exact .inl ⟨.inr hat', nofun⟩
      | dropped => exact .inr ⟨.stopped, hat', nofun, nofun⟩
  · rcases h.at_next hs hat with ⟨hat', hnone⟩ | ⟨e, after, hstep, hat', rfl⟩
    · exact .inl ⟨.inr hat', hnone _⟩
    · cases hstep with
      | began => exact .inl ⟨.inr hat', nofun⟩
      | went => exact .inr ⟨.delivered id, hat', nofun, nofun⟩
      | failed => exact .inr ⟨.failed id, hat', nofun, nofun⟩
      | dropped => exact .inr ⟨.stopped, hat', nofun, nofun⟩

theorem away (h : s.Happens s' d) (hs : s.Sound) (ha : s.Away n id)
    (hd : d ≠ some (n, .won id)) : s'.Away n id := by
  obtain ⟨phase, hat, hclaimed, hheld⟩ := ha
  rcases h.at_next hs hat with ⟨hat', -⟩ | ⟨e, after, hstep, hat', rfl⟩
  · exact ⟨phase, hat', hclaimed, hheld⟩
  · refine ⟨after, hat', ?_, ?_⟩
    · rintro rfl
      cases hstep
      exact hd rfl
    · rintro rfl
      cases hstep with
      | hold => exact hclaimed rfl
      | began => exact hheld rfl

end Happens

theorem Away.idle (ha : s.Away n id) (hs : s.Sound) (h : s.Happens s' d) :
    d ≠ some (n, .began id) ∧ ∀ well, d ≠ some (n, .ended id well) := by
  obtain ⟨phase, hat, -, hheld⟩ := ha
  rcases h.at_next hs hat with ⟨-, hnone⟩ | ⟨e, after, hstep, -, rfl⟩
  · exact ⟨hnone _, fun _ => hnone _⟩
  · cases hstep with
    | began other | went other | failed other =>
      have hne : other ≠ id := by
        rintro rfl
        exact hheld rfl
      simp [hne]
    | _ => exact ⟨nofun, nofun⟩

theorem Away.after (hs : s.Sound) (ha : s.Away n id) (ts : List Turn)
    (hno : (n, .won id) ∉ s.log ts) : (s.after ts).Away n id := by
  induction ts generalizing s with
  | nil => exact ha
  | cons first rest ih =>
    have h := s.happens first
    refine ih (h.sound hs) (h.away hs ha fun hd => hno (mem_log_cons.mpr (.inl hd))) ?_
    exact fun hin => hno (mem_log_cons.mpr (.inr hin))

/-- As long as the call hands the dead letter out, its claim stands. -/
theorem Guard.engaged_after (hg : s.Guard (· = n) id t) (he : s.Engaged n id) (ts : List Turn)
    (hyoung : (s.after ts).now - t < s.store.lease) (honce : (n, .won id) ∉ s.log ts) :
    (s.after ts).Away n id ∨ (s.after ts).Guard (· = n) id t ∧ (s.after ts).Engaged n id := by
  -- on the turns, until the call is through
  induction ts generalizing s with
  | nil => exact .inr ⟨hg, he⟩
  | cons first rest ih =>
    have h := s.happens first
    have hrest : (n, .won id) ∉ (s.turn first).log rest :=
      fun hin => honce (mem_log_cons.mpr (.inr hin))
    rcases h.engaged hg.sound he with ⟨he', hd⟩ | ha
    · have hnow : s.now ≤ (s.after (first :: rest)).now := now_le_after s (first :: rest)
      have hg' := (hg.turn (Nat.lt_of_le_of_lt (Nat.sub_le_sub_right hnow t) hyoung) h
        fun m hm => hm ▸ hd).1
      rw [← h.lease_eq hg.sound] at hyoung
      exact ih hg' he' hyoung hrest
    · exact .inl (Away.after (h.sound hg.sound) ha rest hrest)

/-- The call is still to mark the dead letter after its handler went well, or has no claim on it. -/
def Through (s : ReplaySystem) (n : Nat) (id : EntryId) : Prop :=
  s.At n (.delivered id) ∨ s.claims n id = false

/-- The call does not release the claim, and it stays so unless the call fails to mark the dead
letter, is dropped or wins it again. -/
theorem Happens.through (h : s.Happens s' d) (hs : s.Sound) (ht : s.Through n id) :
    d ≠ some (n, .released id) ∧ (s'.Through n id ∨ d = some (n, .unmarked id) ∨
      d = some (n, .dropped) ∨ d = some (n, .won id)) := by
  rcases ht with hat | hno
  · rcases h.at_next hs hat with ⟨hat', hnone⟩ | ⟨e, after, hstep, hat', rfl⟩
    · exact ⟨hnone _, .inl (.inl hat')⟩
    · cases hstep with
      | markedAt => exact ⟨nofun, .inl (.inl hat')⟩
      | marked | missed => exact ⟨nofun, .inl (.inr (hat'.not_claims nofun nofun))⟩
      | unmarked => exact ⟨nofun, .inr (.inl rfl)⟩
      | dropped => exact ⟨nofun, .inr (.inr (.inl rfl))⟩
  · refine ⟨fun hd => ?_, ?_⟩
    · rw [h.claims_of_released hs hd] at hno
      cases hno
    · cases hclaim : s'.claims n id with
      | false => exact .inl (.inr hclaim)
      | true =>
        rcases h.claims_of hclaim with hold | hwon
        · rw [hold] at hno
          cases hno
        · exact .inr (.inr (.inr hwon))

theorem Guard.not_released (hg : s.Guard (· = n) id t) (ht : s.Through n id) (ts : List Turn)
    (hyoung : (s.after ts).now - t < s.store.lease) (hmark : (n, .unmarked id) ∉ s.log ts)
    (hdrop : (n, .dropped) ∉ s.log ts) : (n, .released id) ∉ s.log ts := by
  induction ts generalizing s with
  | nil => exact List.not_mem_nil
  | cons first rest ih =>
    have h := s.happens first
    have hnow : s.now ≤ (s.after (first :: rest)).now := now_le_after s (first :: rest)
    obtain ⟨hd, hnext⟩ := h.through hg.sound ht
    obtain ⟨hg', hwon⟩ := hg.turn (Nat.lt_of_le_of_lt (Nat.sub_le_sub_right hnow t) hyoung) h
      fun m hm => hm ▸ hd
    have ht' : (s.turn first).Through n id := by
      rcases hnext with ht' | hd | hd | hd
      · exact ht'
      · exact absurd (mem_log_cons.mpr (.inl hd)) hmark
      · exact absurd (mem_log_cons.mpr (.inl hd)) hdrop
      · exact absurd hd (hwon n)
    rw [← h.lease_eq hg.sound] at hyoung
    intro hin
    rcases mem_log_cons.mp hin with hin | hin
    · exact hd hin
    · exact ih hg' ht' hyoung (fun hin => hmark (mem_log_cons.mpr (.inr hin)))
        (fun hin => hdrop (mem_log_cons.mpr (.inr hin))) hin

/-- The handler went well while the claim was young, so the claim stands until then. -/
theorem Guard.through (hg : s.Guard (· = n) id t) (he : s.Engaged n id) {run : List Turn}
    {ends : Turn} (hyoung : (s.after run).now - t < s.store.lease)
    (honce : (n, .won id) ∉ s.log run)
    (hends : (s.after run).deed ends = some (n, .ended id true)) :
    ((s.after run).turn ends).Guard (· = n) id t ∧
      ((s.after run).turn ends).At n (.delivered id) := by
  have h := (s.after run).happens ends
  obtain ⟨hsound, hlease⟩ := hg.sound.after run
  rcases hg.engaged_after he run hyoung honce with ha | ⟨hg', -⟩
  · exact absurd hends ((ha.idle hsound h).2 true)
  · obtain ⟨phase, after, -, hstep, hat⟩ := h.step_of_deed hsound hends
    rw [← hlease] at hyoung
    refine ⟨(hg'.turn hyoung h fun m _ hd => ?_).1, ?_⟩
    · rw [hends] at hd
      cases hd
    · cases hstep
      exact hat

theorem Guard.not_began (hg : s.Guard (· = n) id t) (hat : s.At n (.delivered id))
    {since : List Turn} {again : Turn} {other : Nat}
    (hyoung : (s.after since).now - t < s.store.lease) (hkept : (n, .released id) ∉ s.log since) :
    (s.after since).deed again ≠ some (other, .began id) := by
  obtain ⟨hg', hwon⟩ := hg.after since hyoung fun m hm => hm ▸ hkept
  have haway := Away.after hg.sound ⟨_, hat, nofun, nofun⟩ since (hwon n)
  have h := (s.after since).happens again
  intro hagain
  obtain rfl := hg'.claims other (h.claims_of_began hg'.sound hagain)
  exact (haway.idle hg'.sound h).1 hagain

/-- A call has won a dead letter when nobody else had a claim on it, and its handler has gone well.
If a handler begins with the dead letter again within the lease, then the call has released its
claim, since it failed to mark the dead letter or was dropped. -/
theorem released_of_began_again (hs : s.Reachable) {take ends again : Turn}
    {run since : List Turn} {s₁ s₂ : ReplaySystem} {other : Nat}
    (htake : s.deed take = some (n, .won id)) (halone : ∀ m, m ≠ n → s.claims m id = false)
    (hrun : (s.turn take).after run = s₁) (honce : (n, .won id) ∉ (s.turn take).log run)
    (hends : s₁.deed ends = some (n, .ended id true))
    (hsince : (s₁.turn ends).after since = s₂) (hagain : s₂.deed again = some (other, .began id))
    (hyoung : s₂.now < s.now + s.store.lease) :
    (n, .released id) ∈ (s₁.turn ends).log since ∧
      ((n, .unmarked id) ∈ (s₁.turn ends).log since ∨
        (n, .dropped) ∈ (s₁.turn ends).log since) := by
  subst hrun hsince
  have htakes := s.happens take
  have hends' := ((s.turn take).after run).happens ends
  have hrun := now_le_after (s.turn take) run
  have hsince := Nat.le_trans hends'.now_le
    (now_le_after (((s.turn take).after run).turn ends) since)
  have hlast : (((s.turn take).after run).turn ends |>.after since).now - (s.turn take).now <
      (s.turn take).store.lease := by
    rw [htakes.lease_eq hs.sound]
    refine Nat.lt_of_le_of_lt (Nat.sub_le_sub_left htakes.now_le _)
      (Nat.sub_lt_left_of_lt_add ?_ hyoung)
    exact Nat.le_trans (Nat.le_trans htakes.now_le hrun) hsince
  have hg : (s.turn take).Guard (· = n) id (s.turn take).now :=
    { htakes.guard hs.sound htake with
      claims := fun m hm => by
        rcases (htakes.guard hs.sound htake).claims m hm with rfl | hm
        · rfl
        · refine Classical.byContradiction fun hne => ?_
          rw [halone m hne] at hm
          cases hm }
  obtain ⟨hg', hat⟩ := hg.through (.inl (htakes.at_of_won hs.sound htake))
    (Nat.lt_of_le_of_lt (Nat.sub_le_sub_right hsince _) hlast) honce hends
  obtain ⟨hsound, hlease⟩ := hg.sound.after run
  rw [← hlease, ← hends'.lease_eq hsound] at hlast
  have hreleased : (n, .released id) ∈ (((s.turn take).after run).turn ends).log since :=
    Classical.byContradiction fun hkept => hg'.not_began hat hlast hkept hagain
  refine ⟨hreleased, Classical.byContradiction fun hno => ?_⟩
  obtain ⟨hmark, hdrop⟩ := not_or.mp hno
  exact hg'.not_released (.inl hat) since hlast hmark hdrop hreleased

/-! ### Handed out twice -/

/-- Two calls want the same dead letter, and the first is about to claim it. -/
def claiming : ReplaySystem :=
  ({ store := letterStore } : ReplaySystem).after
    [.call (.replay ⟨7⟩) true, .call (.replay ⟨7⟩) true, .act 0 .answer]

def handing : List Turn := [.act 0 (.goOn { nanos := 0 } ⟨0⟩), .act 0 .begin]

def handled : ReplaySystem := (claiming.turn (.act 0 .answer)).after handing

/-- The store fails to mark the dead letter, and the second call claims it after the release. -/
def unmarking : List Turn :=
  [.act 0 (.goOn { nanos := 5 } ⟨0⟩), .act 0 (.fail (.timeout "mark" "letters" 3)), .tick 3,
   .act 0 (.goOn { nanos := 5 } ⟨0⟩), .act 0 .release, .act 1 .answer, .act 1 .answer,
   .act 1 (.goOn { nanos := 5 } ⟨0⟩)]

def forgotten : ReplaySystem := (handled.turn (.act 0 (.finish true))).after unmarking

/-- After a handler went well, the dead letter can be handed out again before the lease is over. -/
theorem began_again_unmarked : ¬ ∀ (s s₁ s₂ : ReplaySystem) (take ends again : Turn)
    (run since : List Turn) (n other : Nat) (id : EntryId), s.Reachable →
    s.deed take = some (n, .won id) → (s.turn take).after run = s₁ →
    (n, .won id) ∉ (s.turn take).log run → s₁.deed ends = some (n, .ended id true) →
    (s₁.turn ends).after since = s₂ → s₂.deed again = some (other, .began id) →
    s.now + s.store.lease ≤ s₂.now := by
  intro h
  have hlate := h claiming handled forgotten (.act 0 .answer) (.act 0 (.finish true))
    (.act 1 .begin) handing unmarking 0 1 ⟨7⟩ ⟨_, _, rfl⟩ rfl rfl (by decide) rfl rfl rfl
  exact absurd hlate (by decide)

theorem released_of_began_again_unmarked : claiming.Reachable ∧
    claiming.deed (.act 0 .answer) = some (0, .won ⟨7⟩) ∧
    (∀ m, m ≠ 0 → claiming.claims m ⟨7⟩ = false) ∧
    (0, .won ⟨7⟩) ∉ (claiming.turn (.act 0 .answer)).log handing ∧
    handled.deed (.act 0 (.finish true)) = some (0, .ended ⟨7⟩ true) ∧
    forgotten.deed (.act 1 .begin) = some (1, .began ⟨7⟩) ∧
    forgotten.now < claiming.now + claiming.store.lease ∧
    (0, .released ⟨7⟩) ∈ (handled.turn (.act 0 (.finish true))).log unmarking ∧
    ((0, .unmarked ⟨7⟩) ∈ (handled.turn (.act 0 (.finish true))).log unmarking ∨
      (0, .dropped) ∈ (handled.turn (.act 0 (.finish true))).log unmarking) := by
  have hreach : claiming.Reachable := ⟨_, _, rfl⟩
  have htake : claiming.deed (.act 0 .answer) = some (0, .won ⟨7⟩) := rfl
  have hlength : claiming.calls.length = 2 := by decide
  have halone : ∀ m, m ≠ 0 → claiming.claims m ⟨7⟩ = false := by
    intro m hm
    by_cases hone : m = 1
    · rw [hone]
      decide
    · unfold claims
      rw [List.getElem?_eq_none (by omega)]
      rfl
  have honce : (0, .won ⟨7⟩) ∉ (claiming.turn (.act 0 .answer)).log handing := by decide
  have hends : handled.deed (.act 0 (.finish true)) = some (0, .ended ⟨7⟩ true) := rfl
  have hagain : forgotten.deed (.act 1 .begin) = some (1, .began ⟨7⟩) := rfl
  have hyoung : forgotten.now < claiming.now + claiming.store.lease := by decide
  exact ⟨hreach, htake, halone, honce, hends, hagain, hyoung,
    released_of_began_again hreach htake halone rfl honce hends rfl hagain hyoung⟩

end Delivery.ReplaySystem
