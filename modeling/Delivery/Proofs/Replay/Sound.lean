import Delivery.Proofs.Replay.Ledger
import Delivery.Proofs.Replay.Turns

/-!
# What every act keeps

Every call has come to some phase of its course, and with every act it goes on to the next one; one
that is dropped has stopped. A claim is released only by a call that has it, or by a stray request
of such a call, which does nothing else any more.
-/

namespace Delivery

def StoreRequest.isPurge : StoreRequest → Bool
  | .purge _ _ => true
  | _ => false

namespace StoreRequest

variable {r : StoreRequest}

theorem not_purge_of_plain (h : r.isPlain = true) : r.isPurge = false := by
  cases r with
  | purge _ _ => cases h
  | _ => rfl

theorem deed_of_plain (h : r.isPlain = true) (x : r.Reply) : r.deed x = none := by
  cases r with
  | tryClaim _ | markReplayed _ _ | release _ => cases h
  | _ => rfl

theorem failure_of_plain (h : r.isPlain = true) : r.failure = none := by
  cases r with
  | markReplayed _ _ => cases h
  | _ => rfl

theorem eq_release_of_deed {x : r.Reply} {id : EntryId} (h : r.deed x = some (.released id)) :
    r = .release id := by
  cases r with
  | release other =>
    cases h
    rfl
  | tryClaim _ | markReplayed _ _ => simp [deed] at h
  | _ => cases h

theorem eq_tryClaim_of_deed {x : r.Reply} {id : EntryId} (h : r.deed x = some (.won id)) :
    r = .tryClaim id := by
  cases r with
  | tryClaim other =>
    simp only [deed, Option.ite_none_right_eq_some, Option.some.injEq, Deed.won.injEq] at h
    rw [h.2]
  | markReplayed _ _ => simp [deed] at h
  | _ => cases h

theorem eq_true_of_deed {id other : EntryId} {won : Bool}
    (h : (tryClaim id).deed won = some (.won other)) : won = true := by
  cases won with
  | true => rfl
  | false => cases h

theorem eq_unmarked_of_failure {d : Deed} (h : r.failure = some d) : ∃ id, d = .unmarked id := by
  cases r with
  | markReplayed id _ =>
    cases h
    exact ⟨id, rfl⟩
  | _ => cases h

end StoreRequest

/-- The phases that follow on one another, with what is done in between. -/
inductive Phase.Step : Phase → Option Deed → Phase → Prop where
  | asked : Step .idle none .idle
  | won (id : EntryId) : Step .idle (some (.won id)) (.claimed id)
  | refused : Step .idle none .stopped
  | hold (id : EntryId) : Step (.claimed id) none (.held id)
  | began (id : EntryId) : Step (.held id) (some (.began id)) (.held id)
  | went (id : EntryId) : Step (.held id) (some (.ended id true)) (.delivered id)
  | failed (id : EntryId) : Step (.held id) (some (.ended id false)) (.failed id)
  | markedAt (id : EntryId) : Step (.delivered id) none (.delivered id)
  | marked (id : EntryId) : Step (.delivered id) (some (.marked id)) (.marked id)
  | missed (id : EntryId) : Step (.delivered id) none (.marked id)
  | unmarked (id : EntryId) : Step (.delivered id) (some (.unmarked id)) (.unmarked id)
  | settle (id : EntryId) : Step (.marked id) none .idle
  | abandon (id : EntryId) : Step (.unmarked id) none .stopped
  | settleFailed (id : EntryId) : Step (.failed id) none (.settled id)
  | released (id : EntryId) : Step (.settled id) (some (.released id)) .idle
  | notReleased (id : EntryId) : Step (.settled id) none .stopped
  | dropped (phase : Phase) : Step phase (some .dropped) .stopped
  -- What the call has left behind is released.
  | releasedLater (id : EntryId) : Step .stopped (some (.released id)) .stopped
  | keptLater : Step .stopped none .stopped

namespace QueueCall

/-- The call has come to a phase of its course, and has what it should have then. A call that was
dropped has stopped. -/
structure On (c : QueueCall) (phase : Phase) : Prop where
  going : phase ≠ .stopped → c.dropped = false
  claim : phase ≠ .stopped → c.claim.map (·.1) = phase.claim?
  quiet : phase ≠ .stopped → c.releasing = none
  left : ∀ id, c.releasing = some id → c.claims id = true
  held : c.dropped = false → c.held = phase.held?
  course : c.dropped = false → ∃ read, Course Course.Ends read phase c.program

/-- Nothing more comes of the call. -/
def Finished (c : QueueCall) : Prop :=
  c.releasing = none ∧ (c.dropped = true ∨ ∃ a, c.program = .done a)

variable {now : Instant} {store : MemoryStore} {c : QueueCall} {o : Outcome} {phase : Phase}
  {read : List Entry} {id : EntryId}

theorem On.stopped_of_dropped (h : c.On phase) (hd : c.dropped = true) : phase = .stopped := by
  cases phase with
  | stopped => rfl
  | _ =>
    rw [h.going nofun] at hd
    cases hd

theorem On.claims_of (h : c.On phase) (hid : phase.claim? = some id) : c.claims id = true := by
  have hclaim := h.claim (by rintro rfl; cases hid)
  rw [hid] at hclaim
  exact claims_iff.mpr (map_claim_eq_some_iff.mp hclaim)

theorem On.not_claims (h : c.On phase) (hphase : phase ≠ .stopped) (hid : phase.claim? ≠ some id) :
    c.claims id = false := by
  refine claims_eq_false fun t ht => hid ?_
  rw [← h.claim hphase, ht]
  rfl

theorem On.stopped_of_releasing (h : c.On phase) (hid : c.releasing = some id) :
    phase = .stopped := by
  cases phase with
  | stopped => rfl
  | _ =>
    rw [h.quiet nofun] at hid
    cases hid

theorem On.stopped_of_finished (h : c.On phase) (hend : c.Finished) (hclaim : c.claims id = true) :
    phase = .stopped := by
  rcases hend.2 with hd | ⟨a, ha⟩
  · exact h.stopped_of_dropped hd
  · cases phase with
    | stopped => rfl
    | idle =>
      rw [h.not_claims nofun nofun] at hclaim
      cases hclaim
    | _ =>
      obtain ⟨read, hcourse⟩ := h.course (h.going nofun)
      rw [ha] at hcourse
      cases hcourse with
      | done hpost => cases a with
        | ok _ => cases hpost
        | error _ => rcases hpost with hpost | hpost <;> cases hpost

theorem on_program (request : QueueRequest) (handled : Bool) :
    On { program := request.program handled } .idle where
  going _ := rfl
  claim _ := rfl
  quiet _ := rfl
  left _ hid := by cases hid
  held _ := rfl
  course _ := ⟨[], Course.program request⟩

/-! ### Replies -/

section

variable (now : Instant) (c : QueueCall) (p : ReplayProgram (Except DeadLetterError Nat))
  (r : StoreRequest) (x : r.Reply)

@[simp] theorem program_replied : (c.replied now p r x).program = p := by cases r <;> rfl

@[simp] theorem held_replied : (c.replied now p r x).held = c.held := by cases r <;> rfl

@[simp] theorem releasing_replied : (c.replied now p r x).releasing = c.releasing := by
  cases r <;> rfl

@[simp] theorem dropped_replied : (c.replied now p r x).dropped = c.dropped := by cases r <;> rfl

end

theorem claim_replied_of_plain {p : ReplayProgram (Except DeadLetterError Nat)} {r : StoreRequest}
    {x : r.Reply} (hr : r.isPlain = true) : (c.replied now p r x).claim = c.claim := by
  cases r with
  | tryClaim _ | markReplayed _ _ | release _ => cases hr
  | _ => rfl

theorem claims_of_endClaim {other : EntryId} {c' : QueueCall} (h : c'.claim = c.endClaim other)
    (hid : c'.claims id = true) : c.claims id = true := by
  obtain ⟨t, ht⟩ := claims_iff.mp hid
  rw [h] at ht
  exact claims_iff.mpr ⟨t, Option.eq_some_of_filter_eq_some ht⟩

theorem claims_of_replied {p : ReplayProgram (Except DeadLetterError Nat)} {r : StoreRequest}
    {x : r.Reply} (hid : (c.replied now p r x).claims id = true) :
    c.claims id = true ∨ r.deed x = some (.won id) := by
  cases r with
  | tryClaim other =>
    have hwon : x = true ∨ x = false := by cases x <;> simp
    rcases hwon with rfl | rfl
    · right
      obtain ⟨t, ht⟩ := claims_iff.mp hid
      cases ht
      rfl
    · exact .inl hid
  | markReplayed other time => exact .inl (claims_of_endClaim rfl hid)
  | release other => exact .inl (claims_of_endClaim rfl hid)
  | _ => exact .inl hid

/-! ### From phase to phase -/

theorem On.replied {next : Phase} {p : ReplayProgram (Except DeadLetterError Nat)}
    {r : StoreRequest} {x : r.Reply} (h : c.On phase) (hcourse : Course Course.Ends read next p)
    (hphase : phase ≠ .stopped) (hheld : next.held? = phase.held?)
    (hclaim : (c.replied now p r x).claim.map (·.1) = next.claim?) :
    (c.replied now p r x).On next where
  going _ := by rw [dropped_replied, h.going hphase]
  claim _ := hclaim
  quiet _ := by rw [releasing_replied, h.quiet hphase]
  left id hid := by
    rw [releasing_replied, h.quiet hphase] at hid
    cases hid
  held _ := by rw [held_replied, hheld, h.held (h.going hphase)]
  course _ := ⟨read, by rwa [program_replied]⟩

theorem On.goOn {next : Phase} {p : ReplayProgram (Except DeadLetterError Nat)}
    {held : Option EntryId} {running : Bool} (h : c.On phase)
    (hcourse : Course Course.Ends read next p) (hphase : phase ≠ .stopped)
    (hclaim : next ≠ .stopped → next.claim? = phase.claim?) (hheld : held = next.held?) :
    On { c with program := p, held, running } next where
  going _ := h.going hphase
  claim hnext := (h.claim hphase).trans (hclaim hnext).symm
  quiet _ := h.quiet hphase
  left := h.left
  held _ := hheld
  course _ := ⟨read, hcourse⟩

theorem endClaim_of_map (h : c.claim.map (·.1) = some id) : (c.endClaim id).map (·.1) = none := by
  obtain ⟨t, ht⟩ := map_claim_eq_some_iff.mp h
  rw [endClaim_eq_none ht]
  rfl

theorem On.answered {r : StoreRequest}
    {next : Except DeadLetterError r.Reply → ReplayProgram (Except DeadLetterError Nat)}
    (hon : c.On phase) (hd : c.dropped = false) (hp : c.program = .ask (.store r) next)
    (x : r.Reply) :
    ∃ after, phase.Step (r.deed x) after ∧ (c.replied now (next (.ok x)) r x).On after := by
  obtain ⟨read, hcourse⟩ := hon.course hd
  have hclaim := hon.claim
  rw [hp] at hcourse
  cases hcourse with
  | plain hr answered failed =>
    refine ⟨.idle, ?_, hon.replied (answered x) nofun rfl ?_⟩
    · rw [StoreRequest.deed_of_plain hr]
      exact .asked
    · rw [claim_replied_of_plain hr, hclaim nofun]
  | @tryClaim _ id _ won lost failed =>
    have hx : x = true ∨ x = false := by cases x <;> simp
    rcases hx with rfl | rfl
    · exact ⟨.claimed id, .won id, hon.replied won nofun rfl rfl⟩
    · exact ⟨.idle, .asked, hon.replied lost nofun rfl (hclaim nofun)⟩
  | @markReplayed _ id time _ answered failed =>
    refine ⟨.marked id, ?_, hon.replied (answered x) nofun rfl (endClaim_of_map (hclaim nofun))⟩
    have hx : x = true ∨ x = false := by cases x <;> simp
    rcases hx with rfl | rfl
    · exact .marked id
    · exact .missed id
  | @release _ id _ answered failed =>
    exact ⟨.idle, .released id,
      hon.replied answered nofun rfl (endClaim_of_map (hclaim nofun))⟩

theorem On.refused {r : StoreRequest}
    {next : Except DeadLetterError r.Reply → ReplayProgram (Except DeadLetterError Nat)}
    (hon : c.On phase) (hd : c.dropped = false) (hp : c.program = .ask (.store r) next)
    (e : DeadLetterError) :
    ∃ after, phase.Step r.failure after ∧ On { c with program := next (.error e) } after := by
  obtain ⟨read, hcourse⟩ := hon.course hd
  rw [hp] at hcourse
  cases hcourse with
  | plain hr answered failed =>
    refine ⟨.stopped, ?_, hon.goOn (failed e) nofun (absurd rfl) (hon.held hd)⟩
    rw [StoreRequest.failure_of_plain hr]
    exact .refused
  | tryClaim won lost failed =>
    exact ⟨.stopped, .refused, hon.goOn (failed e) nofun (absurd rfl) (hon.held hd)⟩
  | markReplayed answered failed =>
    exact ⟨.unmarked _, .unmarked _, hon.goOn (failed e) nofun (fun _ => rfl) (hon.held hd)⟩
  | release answered failed =>
    exact ⟨.stopped, .notReleased _, hon.goOn (failed e) nofun (absurd rfl) (hon.held hd)⟩

/-- A call that is dropped leaves its own claim behind. -/
theorem On.leave (hon : c.On phase) (hd : c.dropped = false)
    (h : phase.held? = none ∨ phase.held? = phase.claim?) : c.leave.On .stopped where
  going := (absurd rfl ·)
  claim := (absurd rfl ·)
  quiet := (absurd rfl ·)
  left id hid := by
    have hheld : phase.held? = some id := (hon.held hd).symm.trans hid
    rcases h with h | h
    · rw [h] at hheld
      cases hheld
    · exact hon.claims_of (h.symm.trans hheld)
  held hno := by cases hno
  course hno := by cases hno

theorem On.stopped (hon : c.On .stopped) {claim : Option (EntryId × Instant)} :
    On { c with releasing := none, claim } .stopped where
  going := (absurd rfl ·)
  claim := (absurd rfl ·)
  quiet := (absurd rfl ·)
  left _ hid := by cases hid
  held := hon.held
  course := hon.course

/-- With every act a call comes to the next phase. -/
theorem Acts.on (h : Acts now store c o) (hon : c.On phase) :
    ∃ after, phase.Step o.deed after ∧ o.call.On after := by
  -- by the act; what the program asks for tells the phase
  cases h with
  | answered hd hp hnew => exact hon.answered hd hp _
  | failed e hd hp => exact hon.refused hd hp e
  | began hd hp =>
    obtain ⟨read, hcourse⟩ := hon.course hd
    rw [hp] at hcourse
    cases hcourse with
    | @handle _ e _ he went failed =>
      refine ⟨.held e.id, ?_,
        { hon with course := fun _ => ⟨read, by rw [hp]; exact .handle he went failed⟩ }⟩
      rw [hon.held hd]
      exact .began e.id
  | ended well hd hr hp =>
    obtain ⟨read, hcourse⟩ := hon.course hd
    rw [hp] at hcourse
    cases hcourse with
    | @handle _ e _ _ went failed =>
      cases well with
      | true =>
        refine ⟨.delivered e.id, ?_, hon.goOn went nofun (fun _ => rfl) (hon.held hd)⟩
        rw [hon.held hd]
        exact .went e.id
      | false =>
        refine ⟨.failed e.id, ?_, hon.goOn failed nofun (fun _ => rfl) (hon.held hd)⟩
        rw [hon.held hd]
        exact .failed e.id
  | hold hd hp =>
    obtain ⟨read, hcourse⟩ := hon.course hd
    rw [hp] at hcourse
    cases hcourse with
    | hold h => exact ⟨_, .hold _, hon.goOn h nofun (fun _ => rfl) rfl⟩
  | settle hd hp =>
    obtain ⟨read, hcourse⟩ := hon.course hd
    rw [hp] at hcourse
    cases hcourse with
    | settle h => exact ⟨_, .settle _, hon.goOn h nofun (fun _ => rfl) rfl⟩
    | settleFailed h => exact ⟨_, .settleFailed _, hon.goOn h nofun (fun _ => rfl) rfl⟩
  | abandon hd hp =>
    obtain ⟨read, hcourse⟩ := hon.course hd
    rw [hp] at hcourse
    cases hcourse with
    | abandon h =>
      refine ⟨.stopped, .abandon _, (absurd rfl ·), (absurd rfl ·), (absurd rfl ·), ?_,
        fun _ => rfl, fun _ => ⟨read, h⟩⟩
      intro other hother
      cases hother
      exact hon.claims_of rfl
  | wallClock time hd hp =>
    obtain ⟨read, hcourse⟩ := hon.course hd
    rw [hp] at hcourse
    cases hcourse with
    | enqueuedAt h => exact ⟨_, .asked, hon.goOn (h time) nofun (fun _ => rfl) (hon.held hd)⟩
    | markedAt h => exact ⟨_, .markedAt _, hon.goOn (h time) nofun (fun _ => rfl) (hon.held hd)⟩
  | newId id hd hp =>
    obtain ⟨read, hcourse⟩ := hon.course hd
    rw [hp] at hcourse
    cases hcourse with
    | newId h => exact ⟨_, .asked, hon.goOn (h id) nofun (fun _ => rfl) (hon.held hd)⟩
  | droppedAsking hd hp =>
    refine ⟨.stopped, .dropped phase, hon.leave hd ?_⟩
    obtain ⟨read, hcourse⟩ := hon.course hd
    rw [hp] at hcourse
    cases hcourse with
    | plain _ _ _ | tryClaim _ _ _ | release _ _ => exact .inl rfl
    | markReplayed _ _ => exact .inr rfl
  | droppedHandling hd hp =>
    refine ⟨.stopped, .dropped phase, hon.leave hd ?_⟩
    obtain ⟨read, hcourse⟩ := hon.course hd
    rw [hp] at hcourse
    cases hcourse with
    | handle _ _ _ => exact .inr rfl
  | @released id hid =>
    cases hon.stopped_of_releasing hid
    exact ⟨.stopped, .releasedLater id, hon.stopped⟩
  | releaseFailed hid =>
    cases hon.stopped_of_releasing hid
    exact ⟨.stopped, .keptLater, hon.stopped⟩

/-! ### Claims -/

/-- A call has a claim only after it has won it. -/
theorem Acts.claims_of (h : Acts now store c o) (hid : o.call.claims id = true) :
    c.claims id = true ∨ o.deed = some (.won id) := by
  cases h with
  | answered _ _ _ => exact claims_of_replied hid
  | released _ => exact .inl (claims_of_endClaim rfl hid)
  | _ => exact .inl hid

end QueueCall

/-- A call asks for no purge, and what it releases is settled. Should this fail, it ends. -/
theorem Course.of_store {read : List Entry} {phase : Phase} {r : StoreRequest}
    {next : Except DeadLetterError r.Reply → ReplayProgram (Except DeadLetterError Nat)}
    (h : Course Course.Ends read phase (.ask (.store r) next)) :
    r.isPurge = false ∧ ∀ id, r = .release id →
      phase = .settled id ∧ ∀ e, ∃ a, next (.error e) = .done a := by
  cases h with
  | plain hr _ _ =>
    refine ⟨StoreRequest.not_purge_of_plain hr, ?_⟩
    rintro id rfl
    cases hr
  | tryClaim _ _ _ | markReplayed _ _ => exact ⟨rfl, fun id hr => by cases hr⟩
  | release _ failed =>
    refine ⟨rfl, fun id hr => ?_⟩
    cases hr
    exact ⟨rfl, fun e => (failed e).done_of_stopped⟩

namespace QueueCall

variable {now : Instant} {store : MemoryStore} {c : QueueCall} {o : Outcome} {phase : Phase}
  {id : EntryId}

theorem Acts.claims_of_released (h : Acts now store c o) (hon : c.On phase)
    (hdeed : o.deed = some (.released id)) : c.claims id = true := by
  cases h with
  | released hid =>
    cases hdeed
    exact hon.left _ hid
  | answered hd hp _ =>
    obtain ⟨read, hcourse⟩ := hon.course hd
    rw [hp] at hcourse
    obtain ⟨rfl, -⟩ := hcourse.of_store.2 id (StoreRequest.eq_release_of_deed hdeed)
    exact hon.claims_of rfl
  | failed _ _ _ =>
    obtain ⟨other, hother⟩ := StoreRequest.eq_unmarked_of_failure hdeed
    cases hother
  | began _ _ | ended _ _ _ _ => simp at hdeed
  | _ => cases hdeed

/-- A stray request to release a claim comes from a call that still has it and does no more. -/
theorem Acts.stray (h : Acts now store c o) (hon : c.On phase) {r : StoreRequest}
    (hr : r ∈ o.stray) : r.isPurge = false ∧
      ∀ id, r = .release id → o.call.claims id = true ∧ o.call.Finished := by
  cases h with
  | failed e hd hp =>
    cases List.mem_singleton.mp hr
    obtain ⟨read, hcourse⟩ := hon.course hd
    rw [hp] at hcourse
    refine ⟨hcourse.of_store.1, fun id hid => ?_⟩
    obtain ⟨rfl, hdone⟩ := hcourse.of_store.2 id hid
    exact ⟨hon.claims_of rfl, hon.quiet nofun, .inr (hdone e)⟩
  | droppedAsking hd hp =>
    cases List.mem_singleton.mp hr
    obtain ⟨read, hcourse⟩ := hon.course hd
    rw [hp] at hcourse
    refine ⟨hcourse.of_store.1, fun id hid => ?_⟩
    obtain ⟨rfl, -⟩ := hcourse.of_store.2 id hid
    exact ⟨hon.claims_of rfl, hon.held hd, .inl rfl⟩
  | releaseFailed hid =>
    cases List.mem_singleton.mp hr
    refine ⟨rfl, fun other hother => ?_⟩
    cases hother
    -- A call that was not dropped has stopped, so its program is done.
    refine ⟨hon.left _ hid, rfl, Classical.or_iff_not_imp_left.mpr fun hd => ?_⟩
    cases hon.stopped_of_releasing hid
    obtain ⟨read, hcourse⟩ := hon.course (Bool.not_eq_true _ |>.mp hd)
    exact hcourse.done_of_stopped
  | _ => cases hr

theorem Acts.not_finished (h : Acts now store c o) : ¬ c.Finished := by
  rintro ⟨hquiet, hend⟩
  cases h with
  | released hid | releaseFailed hid =>
    rw [hquiet] at hid
    cases hid
  | answered hd hp _ | failed _ hd hp | began hd hp | ended _ hd _ hp | hold hd hp | settle hd hp
  | abandon hd hp | wallClock _ hd hp | newId _ hd hp | droppedAsking hd hp
  | droppedHandling hd hp =>
    rcases hend with hdropped | ⟨a, hdone⟩
    · rw [hd] at hdropped
      cases hdropped
    · rw [hp] at hdone
      cases hdone

/-- The store stays as it is, or it serves one request, which is no purge. -/
theorem Acts.store_eq (h : Acts now store c o) (hon : c.On phase) :
    (o.store = store ∧ ∀ id, o.deed ≠ some (.won id)) ∨
      ∃ r, r.isPurge = false ∧ isNewFor store r = true ∧
        o.store = (MemoryStore.serve now r store).2 ∧
        o.deed = r.deed (MemoryStore.serve now r store).1 := by
  cases h with
  | answered hd hp hnew =>
    obtain ⟨read, hcourse⟩ := hon.course hd
    rw [hp] at hcourse
    exact .inr ⟨_, hcourse.of_store.1, hnew, rfl, rfl⟩
  | released hid => exact .inr ⟨.release _, rfl, rfl, rfl, rfl⟩
  | failed _ _ _ =>
    refine .inl ⟨rfl, fun id hid => ?_⟩
    obtain ⟨other, hother⟩ := StoreRequest.eq_unmarked_of_failure hid
    cases hother
  | began _ _ | ended _ _ _ _ => exact .inl ⟨rfl, by simp⟩
  | _ => exact .inl ⟨rfl, nofun⟩

end QueueCall

end Delivery
