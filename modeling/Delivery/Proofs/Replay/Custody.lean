import Delivery.Proofs.Replay.Course

/-!
# Claims in custody

A call is followed through its questions, whatever is replied: the store may answer anything or
fail, the handler may do well or not, and the call may be dropped whenever it waits for one of them.
Dropped while it holds a claim, it leaves it to be released in the background. What comes of the
course of a replay (`Course.custody`) is that a claim once won is settled once, by a mark or by a
release, before the next one is tried, and that nothing else is marked, released or handed out. What
is handed out is the message that the call has found under the id it claimed.
-/

namespace Delivery

/-- What a call does and what it hears of it, which is nothing if it is dropped meanwhile. -/
inductive ReplayEvent where
  | asked (request : StoreRequest) (reply : Option (Except DeadLetterError request.Reply))
  | handed (message : Message) (wentWell : Option Bool)
  -- A claim is released in the background.
  | left (id : EntryId)

namespace ReplayEvent

abbrev won (id : EntryId) : ReplayEvent := .asked (.tryClaim id) (some (.ok true))

def isWon : ReplayEvent → Bool
  | asked (.tryClaim _) (some (.ok true)) => true
  | _ => false

/-- The claim on a dead letter ends, because the store has marked it or is asked to release it. -/
def settles (id : EntryId) : ReplayEvent → Bool
  | asked (.markReplayed other _) (some (.ok _)) => other = id
  | asked (.release other) _ => other = id
  | left other => other = id
  | _ => false

/-- The dead letter that is to be marked or released, whatever comes of it. -/
def disposed? : ReplayEvent → Option EntryId
  | asked (.markReplayed id _) _ => some id
  | asked (.release id) _ => some id
  | left id => some id
  | _ => none

/-- The dead letters that the call gets to see. -/
def shown : ReplayEvent → List Entry
  | asked r (some (.ok reply)) => r.shown reply
  | _ => []

def isFailure : ReplayEvent → Bool
  | asked _ (some (.error _)) => true
  | _ => false

end ReplayEvent

/-- What a call meets with. Its questions count from nought. -/
structure Surroundings where
  reply : Nat → (question : ReplayAsk) → question.Reply
  -- Whether the call is dropped while it waits for the reply.
  dropped : Nat → Bool

variable {α β : Type}

/-- What a call does and how it ends, unless it is dropped; while it holds a claim, the claim is
released when the call is dropped. -/
def Surroundings.conduct (w : Surroundings) :
    Nat → Option EntryId → ReplayProgram α → List ReplayEvent × Option α
  | _, _, .done a => ([], some a)
  | n, held, .ask (.store r) next =>
    if w.dropped n then (.asked r none :: held.toList.map .left, none)
    else
      let (events, ending) := w.conduct (n + 1) held (next (w.reply n (.store r)))
      (.asked r (some (w.reply n (.store r))) :: events, ending)
  | n, held, .ask (.handle m) next =>
    if w.dropped n then (.handed m none :: held.toList.map .left, none)
    else
      let (events, ending) := w.conduct (n + 1) held (next (w.reply n (.handle m)))
      (.handed m (some (w.reply n (.handle m))) :: events, ending)
  | n, _, .ask (.hold id) next => w.conduct (n + 1) (some id) (next ())
  | n, _, .ask (.settle _) next => w.conduct (n + 1) none (next ())
  | n, _, .ask (.abandon id) next =>
    let (events, ending) := w.conduct (n + 1) none (next ())
    (.left id :: events, ending)
  | n, held, .ask .wallClock next => w.conduct (n + 1) held (next (w.reply n .wallClock))
  | n, held, .ask .newId next => w.conduct (n + 1) held (next (w.reply n .newId))

/-! ### One claim at a time -/

/-- From when a call has read so much and has this claim, or none, it settles it before it tries the
next one, and at the end it has none. Meanwhile it hands out what it has read and claimed. -/
inductive Custody : List Entry → Option EntryId → List ReplayEvent → Prop where
  | nil {read : List Entry} : Custody read none []
  | plain {read : List Entry} {r : StoreRequest} {reply : Option (Except DeadLetterError r.Reply)}
      {rest : List ReplayEvent} (hr : r.isPlain = true)
      (h : Custody (read ++ (ReplayEvent.asked r reply).shown) none rest) :
      Custody read none (.asked r reply :: rest)
  | lost {read : List Entry} {id : EntryId} {reply : Option (Except DeadLetterError Bool)}
      {rest : List ReplayEvent} (hreply : reply ≠ some (.ok true)) (h : Custody read none rest) :
      Custody read none (.asked (.tryClaim id) reply :: rest)
  | won {read : List Entry} {id : EntryId} {rest : List ReplayEvent}
      (h : Custody read (some id) rest) : Custody read none (.won id :: rest)
  | handed {read : List Entry} {e : Entry} {wentWell : Option Bool} {rest : List ReplayEvent}
      (he : e ∈ read) (h : Custody read (some e.id) rest) :
      Custody read (some e.id) (.handed e.toMessage wentWell :: rest)
  | marked {read : List Entry} {id : EntryId} {time : Timestamp} {fresh : Bool}
      {rest : List ReplayEvent} (h : Custody read none rest) :
      Custody read (some id) (.asked (.markReplayed id time) (some (.ok fresh)) :: rest)
  | unmarked {read : List Entry} {id : EntryId} {time : Timestamp}
      {reply : Option (Except DeadLetterError Bool)} {rest : List ReplayEvent}
      (hreply : ∀ fresh, reply ≠ some (.ok fresh)) (h : Custody read (some id) rest) :
      Custody read (some id) (.asked (.markReplayed id time) reply :: rest)
  | released {read : List Entry} {id : EntryId} {reply : Option (Except DeadLetterError Unit)}
      {rest : List ReplayEvent} (h : Custody read none rest) :
      Custody read (some id) (.asked (.release id) reply :: rest)
  | left {read : List Entry} {id : EntryId} {rest : List ReplayEvent}
      (h : Custody read none rest) : Custody read (some id) (.left id :: rest)

namespace ReplayEvent

variable {id : EntryId}

theorem idle_of_plain {r : StoreRequest} (hr : r.isPlain = true)
    (reply : Option (Except DeadLetterError r.Reply)) :
    (asked r reply).isWon = false ∧ (asked r reply).settles id = false := by
  cases r <;> first | exact ⟨rfl, rfl⟩ | cases hr

theorem disposed?_of_plain {r : StoreRequest} (hr : r.isPlain = true)
    (reply : Option (Except DeadLetterError r.Reply)) : (asked r reply).disposed? = none := by
  cases r <;> first | rfl | cases hr

theorem idle_of_lost {other : EntryId} {reply : Option (Except DeadLetterError Bool)}
    (hreply : reply ≠ some (.ok true)) :
    (asked (.tryClaim other) reply).isWon = false ∧
      (asked (.tryClaim other) reply).settles id = false := by
  match reply with
  | none | some (.error _) | some (.ok false) => exact ⟨rfl, rfl⟩
  | some (.ok true) => exact absurd rfl hreply

theorem idle_of_unmarked {other : EntryId} {time : Timestamp}
    {reply : Option (Except DeadLetterError Bool)} (hreply : ∀ fresh, reply ≠ some (.ok fresh)) :
    (asked (.markReplayed other time) reply).isWon = false ∧
      (asked (.markReplayed other time) reply).settles id = false := by
  match reply with
  | none | some (.error _) => exact ⟨rfl, rfl⟩
  | some (.ok fresh) => exact absurd rfl (hreply fresh)

end ReplayEvent

/-- The call has won a claim on the dead letter that has not ended since. -/
def Holds (id : EntryId) (events : List ReplayEvent) : Prop :=
  ∃ earlier since, events = earlier ++ .won id :: since ∧
    ∀ e ∈ since, e.isWon = false ∧ e.settles id = false

theorem Holds.cons {id : EntryId} {events : List ReplayEvent} (h : Holds id events)
    (e : ReplayEvent) : Holds id (e :: events) := by
  obtain ⟨earlier, since, rfl, hsince⟩ := h
  exact ⟨e :: earlier, since, rfl, hsince⟩

namespace Custody

variable {read : List Entry} {claim : Option EntryId} {events before rest : List ReplayEvent}
  {e : ReplayEvent} {id : EntryId}

/-- Until the next claim is won, the claim that the call has is settled once, and no other one. -/
theorem countP_settles (h : Custody read claim events) (id : EntryId) :
    (events.takeWhile (!·.isWon)).countP (·.settles id) = if claim = some id then 1 else 0 := by
  have hidle : ∀ {e : ReplayEvent} {rest : List ReplayEvent},
      e.isWon = false ∧ e.settles id = false →
      ((e :: rest).takeWhile (!·.isWon)).countP (·.settles id) =
        (rest.takeWhile (!·.isWon)).countP (·.settles id) := by
    rintro e rest ⟨hwon, hsettles⟩
    simp [hwon, hsettles]
  -- an event that ends the claim on `other`, after which there is none
  have hsettled : ∀ {e : ReplayEvent} {rest : List ReplayEvent} {other : EntryId},
      e.isWon = false → e.settles id = decide (other = id) →
      (rest.takeWhile (!·.isWon)).countP (·.settles id) = 0 →
      ((e :: rest).takeWhile (!·.isWon)).countP (·.settles id) =
        if some other = some id then 1 else 0 := by
    intro e rest other hwon hsettles hrest
    simp [hwon, hsettles, hrest, List.countP_cons]
  induction h with
  | nil => rfl
  | plain hr _ ih => exact (hidle (ReplayEvent.idle_of_plain hr _)).trans ih
  | lost hreply _ ih => exact (hidle (ReplayEvent.idle_of_lost hreply)).trans ih
  | won _ _ => rfl
  | handed _ _ ih => exact (hidle ⟨rfl, rfl⟩).trans ih
  | marked _ ih => exact hsettled rfl rfl ih
  | unmarked hreply _ ih => exact (hidle (ReplayEvent.idle_of_unmarked hreply)).trans ih
  | released _ ih => exact hsettled rfl rfl ih
  | left _ ih => exact hsettled rfl rfl ih

theorem step (h : Custody read claim (e :: rest)) : ∃ read' next, read' ⊆ read ++ e.shown ∧
    Custody read' next rest ∧ ∀ id, next = some id → e = .won id ∨
      claim = some id ∧ e.isWon = false ∧ e.settles id = false := by
  have hsame : read ⊆ read ++ e.shown := List.subset_append_left _ _
  cases h with
  | plain _ h => exact ⟨_, none, List.Subset.refl _, h, nofun⟩
  | lost _ h | marked h | released h | left h => exact ⟨_, none, hsame, h, nofun⟩
  | won h =>
    refine ⟨_, _, hsame, h, ?_⟩
    rintro id ⟨⟩
    exact .inl rfl
  | handed _ h => exact ⟨_, _, hsame, h, fun id hid => .inr ⟨hid, rfl, rfl⟩⟩
  | unmarked hreply h =>
    exact ⟨_, _, hsame, h, fun id hid => .inr ⟨hid, ReplayEvent.idle_of_unmarked hreply⟩⟩

/-- In the middle of its events a call has the claim that it has won and not settled, and has read
what it was shown. -/
theorem resume (h : Custody read claim (before ++ rest)) : ∃ read' mid,
    read' ⊆ read ++ before.flatMap (·.shown) ∧ Custody read' mid rest ∧
    ∀ id, mid = some id → Holds id before ∨
      claim = some id ∧ ∀ e ∈ before, e.isWon = false ∧ e.settles id = false := by
  induction before generalizing read claim with
  | nil =>
    exact ⟨read, claim, List.subset_append_left _ _, h,
      fun id hid => .inr ⟨hid, List.forall_mem_nil _⟩⟩
  | cons e before ih =>
    obtain ⟨read', next, hread, hnext, hstep⟩ := step h
    obtain ⟨read'', mid, hread', hmid, hholds⟩ := ih hnext
    refine ⟨read'', mid, List.Subset.trans hread' ?_, hmid, fun id hid => ?_⟩
    · rw [List.flatMap_cons, ← List.append_assoc]
      exact List.append_subset.mpr ⟨List.subset_append_of_subset_left _ hread,
        List.subset_append_right _ _⟩
    · rcases hholds id hid with hbefore | ⟨hclaim, hbefore⟩
      · exact .inl (hbefore.cons e)
      · rcases hstep id hclaim with rfl | ⟨hsame, hidle⟩
        · exact .inl ⟨[], before, rfl, hbefore⟩
        · exact .inr ⟨hsame, List.forall_mem_cons.mpr ⟨hidle, hbefore⟩⟩

theorem of_disposed (h : Custody read claim (e :: rest)) (he : e.disposed? = some id) :
    claim = some id := by
  cases h with
  | plain hr _ => cases (ReplayEvent.disposed?_of_plain hr _).symm.trans he
  | lost _ _ => cases he
  | won _ => cases he
  | handed _ _ => cases he
  | marked _ => exact he
  | unmarked _ _ => exact he
  | released _ => exact he
  | left _ => exact he

theorem of_handed {m : Message} {wentWell : Option Bool}
    (h : Custody read claim (.handed m wentWell :: rest)) :
    ∃ e ∈ read, claim = some e.id ∧ m = e.toMessage := by
  cases h with
  | handed he _ => exact ⟨_, he, rfl, rfl⟩

theorem of_won (h : Custody read claim (.won id :: rest)) : Custody read (some id) rest := by
  cases h with
  | plain hr _ => cases hr
  | lost hreply _ => exact absurd rfl hreply
  | won h => exact h

end Custody

/-- A call that keeps to the course of a replay takes care of its claims, whatever it meets with. -/
theorem Course.custody {post : α → Phase → Prop} {read : List Entry} {phase : Phase}
    {p : ReplayProgram α} (h : Course post read phase p)
    (hpost : ∀ a phase, post a phase → phase.claim? = none) (w : Surroundings) (n : Nat) :
    Custody read phase.claim? (w.conduct n phase.held? p).1 := by
  induction h generalizing n with
  | done ha =>
    rw [hpost _ _ ha]
    exact .nil
  | @plain read r next hr _ _ answered failed =>
    unfold Surroundings.conduct
    split
    · exact .plain hr .nil
    · refine .plain hr ?_
      cases w.reply n (.store r) with
      | ok reply => exact answered reply (n + 1)
      | error e =>
        rw [show (ReplayEvent.asked r (some (.error e))).shown = [] from rfl, List.append_nil]
        exact failed e (n + 1)
  | newId _ ih => exact ih _ (n + 1)
  | enqueuedAt _ ih => exact ih _ (n + 1)
  | @tryClaim _ id next _ _ _ won lost failed =>
    unfold Surroundings.conduct
    split
    · exact .lost nofun .nil
    · generalize w.reply n (.store (.tryClaim id)) = reply
      match reply with
      | .ok true => exact .won (won (n + 1))
      | .ok false => exact .lost nofun (lost (n + 1))
      | .error e => exact .lost nofun (failed e (n + 1))
  | hold _ ih => exact ih (n + 1)
  | @handle _ e next he _ _ went failed =>
    unfold Surroundings.conduct
    split
    · exact .handed he (.left .nil)
    · refine .handed he ?_
      generalize w.reply n (.handle e.toMessage) = reply
      match reply with
      | true => exact went (n + 1)
      | false => exact failed (n + 1)
  | markedAt _ ih => exact ih _ (n + 1)
  | @markReplayed _ id time next _ _ answered failed =>
    unfold Surroundings.conduct
    split
    · exact .unmarked nofun (.left .nil)
    · generalize w.reply n (.store (.markReplayed id time)) = reply
      match reply with
      | .ok fresh => exact .marked (answered fresh (n + 1))
      | .error e => exact .unmarked nofun (failed e (n + 1))
  | settle _ ih => exact ih (n + 1)
  | abandon _ ih => exact .left (ih (n + 1))
  | settleFailed _ ih => exact ih (n + 1)
  | @release _ id next _ _ answered failed =>
    unfold Surroundings.conduct
    split
    · exact .released .nil
    · refine .released ?_
      generalize w.reply n (.store (.release id)) = reply
      match reply with
      | .ok () => exact answered (n + 1)
      | .error e => exact failed e (n + 1)

/-! ### The first failure is the last -/

/-- The program returns a failure, and does no more than to leave a claim behind. -/
inductive GivesUp (e : DeadLetterError) : ReplayProgram (Except DeadLetterError α) → Prop where
  | done : GivesUp e (.done (.error e))
  | abandon (id : EntryId) : GivesUp e (.ask (.abandon id) fun _ => .done (.error e))

/-- Wherever the store fails, the program gives up with that failure. -/
inductive FailsFast : ReplayProgram (Except DeadLetterError α) → Prop where
  | done (r : Except DeadLetterError α) : FailsFast (.done r)
  | store {r : StoreRequest}
      {next : Except DeadLetterError r.Reply → ReplayProgram (Except DeadLetterError α)}
      (answered : ∀ reply, FailsFast (next (.ok reply)))
      (failed : ∀ e, GivesUp e (next (.error e))) : FailsFast (.ask (.store r) next)
  | handle {m : Message} {next : Bool → ReplayProgram (Except DeadLetterError α)}
      (h : ∀ wentWell, FailsFast (next wentWell)) : FailsFast (.ask (.handle m) next)
  | hold {id : EntryId} {next : Unit → ReplayProgram (Except DeadLetterError α)}
      (h : FailsFast (next ())) : FailsFast (.ask (.hold id) next)
  | settle {id : EntryId} {next : Unit → ReplayProgram (Except DeadLetterError α)}
      (h : FailsFast (next ())) : FailsFast (.ask (.settle id) next)
  | wallClock {next : Timestamp → ReplayProgram (Except DeadLetterError α)}
      (h : ∀ time, FailsFast (next time)) : FailsFast (.ask .wallClock next)
  | newId {next : EntryId → ReplayProgram (Except DeadLetterError α)}
      (h : ∀ id, FailsFast (next id)) : FailsFast (.ask .newId next)

namespace FailsFast

theorem bind {p : ReplayProgram (Except DeadLetterError α)}
    {f : Except DeadLetterError α → ReplayProgram (Except DeadLetterError β)} (h : FailsFast p)
    (hok : ∀ a, FailsFast (f (.ok a))) (herror : ∀ e, f (.error e) = .done (.error e)) :
    FailsFast (p >>= f) := by
  have hgives : ∀ {e : DeadLetterError} {q : ReplayProgram (Except DeadLetterError α)},
      GivesUp e q → GivesUp e (q >>= f) := by
    intro e q hq
    cases hq with
    | done =>
      rw [Program.done_bind, herror]
      exact .done
    | abandon id =>
      rw [Program.ask_bind]
      simp only [Program.done_bind, herror]
      exact .abandon id
  induction h with
  | done r =>
    cases r with
    | ok a => exact hok a
    | error e =>
      rw [Program.done_bind, herror]
      exact .done _
  | store _ failed ih => exact .store ih fun e => hgives (failed e)
  | handle _ ih => exact .handle ih
  | hold _ ih => exact .hold ih
  | settle _ ih => exact .settle ih
  | wallClock _ ih => exact .wallClock ih
  | newId _ ih => exact .newId ih

theorem bindOk {p : ExceptT DeadLetterError ReplayProgram α}
    {f : α → ExceptT DeadLetterError ReplayProgram β} (h : FailsFast p.run)
    (hf : ∀ a, FailsFast (f a).run) : FailsFast (p >>= f).run :=
  h.bind hf fun _ => rfl

variable {handled : Bool}

theorem replayEntry (e : Entry) :
    FailsFast ((askingQueue handled).replayEntry askHandler e).run := by
  unfold DeadLetterQueue.replayEntry
  refine .store (fun won => ?_) fun _ => .done
  cases won with
  | false => exact .done _
  | true =>
    refine .hold (.handle fun wentWell => ?_)
    cases wentWell with
    | false => exact .settle (.store (fun _ => .done _) fun _ => .done)
    | true =>
      exact .wallClock fun time => .store (fun _ => .settle (.done _)) fun _ => .abandon e.id

theorem replayAll (entries : List Entry) :
    FailsFast ((askingQueue handled).replayAll askHandler entries).run := by
  induction entries with
  | nil => exact .done _
  | cons e rest ih =>
    unfold DeadLetterQueue.replayAll
    exact bindOk (replayEntry e) fun _ => bindOk ih fun _ => .done _

theorem replay (id : EntryId) : FailsFast ((askingQueue true).replay id).run := by
  refine .store (fun r => ?_) fun _ => .done
  cases r with
  | none => exact .done _
  | some e =>
    show FailsFast (ExceptT.run (if e.replayed = true then _ else _))
    split
    · exact .done _
    · exact replayEntry e

theorem replayBatch (f : Filter) : FailsFast ((askingQueue true).replayBatch f).run := by
  show FailsFast (ExceptT.run (if f.replayed = some true then _ else _))
  split
  · exact .done _
  · exact .store (fun entries => replayAll entries) fun _ => .done

theorem program (request : QueueRequest) : FailsFast (request.program handled) := by
  cases request with
  | replay id =>
    cases handled with
    | false => exact .done _
    | true => exact (replay id).bind (fun _ => .done _) fun _ => rfl
  | replayBatch f =>
    cases handled with
    | false => exact .done _
    | true => exact replayBatch f
  | enqueue message reason failure metadata =>
    exact .newId fun id => .wallClock fun time => .store (fun _ => .done _) fun _ => .done

end FailsFast

/-- After a failure of the store, which is returned, a claim may be left behind but nothing else
happens. -/
def StopsAtFailure (events : List ReplayEvent) (ending : Option (Except DeadLetterError α)) :
    Prop :=
  ∀ before r e after, events = before ++ .asked r (some (.error e)) :: after →
    ending = some (.error e) ∧ (after = [] ∨ ∃ id, after = [.left id])

namespace StopsAtFailure

variable {events : List ReplayEvent} {ending : Option (Except DeadLetterError α)}

theorem nil : StopsAtFailure [] ending := by
  intro before r e after h
  simp at h

theorem cons {event : ReplayEvent} (h : StopsAtFailure events ending)
    (hevent : event.isFailure = false) : StopsAtFailure (event :: events) ending := by
  intro before r e after heq
  cases before with
  | nil =>
    obtain ⟨rfl, -⟩ := List.cons.inj heq
    cases hevent
  | cons _ before => exact h before r e after (List.cons.inj heq).2

theorem dropped {event : ReplayEvent} (hevent : event.isFailure = false)
    (held : Option EntryId) : StopsAtFailure (event :: held.toList.map .left) ending := by
  cases held with
  | none => exact nil.cons hevent
  | some id => exact (nil.cons rfl).cons hevent

end StopsAtFailure

theorem GivesUp.conduct_eq {e : DeadLetterError} {p : ReplayProgram (Except DeadLetterError α)}
    (h : GivesUp e p) (w : Surroundings) (n : Nat) (held : Option EntryId) :
    (w.conduct n held p).2 = some (.error e) ∧
      ((w.conduct n held p).1 = [] ∨ ∃ id, (w.conduct n held p).1 = [.left id]) := by
  cases h with
  | done => exact ⟨rfl, .inl rfl⟩
  | abandon id => exact ⟨rfl, .inr ⟨id, rfl⟩⟩

theorem FailsFast.stops {p : ReplayProgram (Except DeadLetterError α)} (h : FailsFast p)
    (w : Surroundings) (n : Nat) (held : Option EntryId) :
    StopsAtFailure (w.conduct n held p).1 (w.conduct n held p).2 := by
  induction h generalizing n held with
  | done r => exact .nil
  | @store r next _ failed ih =>
    unfold Surroundings.conduct
    split
    · exact .dropped rfl held
    · cases w.reply n (.store r) with
      | ok reply => exact (ih reply (n + 1) held).cons rfl
      | error e =>
        obtain ⟨hending, hevents⟩ := (failed e).conduct_eq w (n + 1) held
        intro before r' e' after heq
        cases before with
        | nil =>
          obtain ⟨hevent, rfl⟩ := List.cons.inj heq
          cases hevent
          exact ⟨hending, hevents⟩
        | cons _ before =>
          -- what follows this failure is no failure
          have hrest := (List.cons.inj heq).2
          rcases hevents with hnone | ⟨id, hone⟩
          · exact absurd (hnone.symm.trans hrest) (by simp)
          · have hin : ReplayEvent.asked r' (some (.error e')) ∈ [ReplayEvent.left id] := by
              rw [← hone, hrest]
              simp
            cases List.mem_singleton.mp hin
  | @handle m next _ ih =>
    unfold Surroundings.conduct
    split
    · exact .dropped rfl held
    · exact (ih _ (n + 1) held).cons rfl
  | hold _ ih => exact ih (n + 1) _
  | settle _ ih => exact ih (n + 1) none
  | wallClock _ ih => exact ih _ (n + 1) held
  | newId _ ih => exact ih _ (n + 1) held

/-! ### Every call -/

/-- How a call deals with claims and failures. -/
structure Careful (events : List ReplayEvent) (ending : Option (Except DeadLetterError Nat)) :
    Prop where
  -- One mark or release, and no more, comes of a claim that is won, until the next one is.
  settled : ∀ before id after, events = before ++ .won id :: after →
    (after.takeWhile (!·.isWon)).countP (·.settles id) = 1
  disposed : ∀ before e after id, events = before ++ e :: after → e.disposed? = some id →
    Holds id before
  -- What is handed out is the message of a dead letter that was found, under the claim on it.
  handed : ∀ before m wentWell after, events = before ++ .handed m wentWell :: after →
    ∃ e ∈ before.flatMap (·.shown), m = e.toMessage ∧ Holds e.id before
  stops : StopsAtFailure events ending

theorem Custody.careful {events : List ReplayEvent} {ending : Option (Except DeadLetterError Nat)}
    (h : Custody [] none events) (hstops : StopsAtFailure events ending) :
    Careful events ending where
  settled := by
    rintro before id after rfl
    obtain ⟨_, mid, -, hmid, -⟩ := h.resume
    exact (hmid.of_won.countP_settles id).trans (if_pos rfl)
  disposed := by
    rintro before e after id rfl he
    obtain ⟨_, mid, -, hmid, hholds⟩ := h.resume
    exact (hholds id (hmid.of_disposed he)).resolve_right nofun
  handed := by
    rintro before m wentWell after rfl
    obtain ⟨read, mid, hread, hmid, hholds⟩ := h.resume
    obtain ⟨e, he, hid, hm⟩ := hmid.of_handed
    exact ⟨e, hread he, hm, (hholds e.id hid).resolve_right nofun⟩
  stops := hstops

/-- Whatever the store and the handler do and wherever it is dropped, a call takes care of each
claim it wins, touches nothing it has not claimed, hands out what it has found under the claim, and
ends at the first failure of the store. A batch that cannot or need not replay anything asks for
nothing. -/
theorem careful_program (w : Surroundings) (request : QueueRequest) (handled : Bool) :
    Careful (w.conduct 0 none (request.program handled)).1
        (w.conduct 0 none (request.program handled)).2 ∧
      ∀ f, request = .replayBatch f →
        (handled = false →
          w.conduct 0 none (request.program handled) = ([], some (.error .noReplayHandler))) ∧
        (handled = true → f.replayed = some true →
          w.conduct 0 none (request.program handled) = ([], some (.ok 0))) := by
  have hcustody : Custody [] none (w.conduct 0 none (request.program handled)).1 := by
    refine (Course.program request).custody ?_ w 0
    rintro (e | n) phase hends
    · rcases hends with rfl | rfl <;> rfl
    · rw [show phase = .idle from hends]
      rfl
  refine ⟨hcustody.careful ((FailsFast.program request).stops w 0 none), ?_⟩
  rintro f rfl
  refine ⟨?_, ?_⟩
  · rintro rfl
    rfl
  · rintro rfl hf
    show w.conduct 0 none (ExceptT.run (if f.replayed = some true then _ else _)) = _
    rw [if_pos hf]
    rfl

def shelved (id : Nat) : Entry :=
  .ofMessage ⟨id⟩ { messageType := "order.placed", attempts := id } .unhandledException none []
    { nanos := 0 }

/-- Three dead letters are found. The claim on 2 is somebody else's, and 3 cannot be marked. -/
def threeFound (dropped : Nat → Bool) : Surroundings where
  dropped := dropped
  reply
    | _, .store (.query _) => .ok [shelved 1, shelved 2, shelved 3]
    | _, .store (.tryClaim id) => .ok (id ≠ ⟨2⟩)
    | _, .store (.markReplayed id _) =>
      if id = ⟨3⟩ then .error (.configuration "read-only") else .ok true
    | _, .store _ => .error (.configuration "read-only")
    | _, .handle _ => true
    | _, .hold _ | _, .settle _ | _, .abandon _ => ()
    | _, .wallClock => { nanos := 0 }
    | _, .newId => ⟨0⟩

theorem careful_program_threeFound :
    (∃ events, (threeFound fun _ => false).conduct 0 none
        ((QueueRequest.replayBatch {}).program true) =
          (events, some (.error (.configuration "read-only"))) ∧
      Careful events (some (.error (.configuration "read-only"))) ∧
      events.filterMap (·.disposed?) = [⟨1⟩, ⟨3⟩, ⟨3⟩] ∧
      events.map (·.isWon) = [false, true, false, false, false, true, false, false, false] ∧
      events[6]? = some (.handed (shelved 3).toMessage (some true)) ∧ Holds ⟨3⟩ (events.take 6)) ∧
    (∃ events, (threeFound (· = 3)).conduct 0 none
        ((QueueRequest.replayBatch {}).program true) = (events, none) ∧
      Careful events none ∧ events.getLast? = some (.left ⟨1⟩)) ∧
    (threeFound fun _ => false).conduct 0 none ((QueueRequest.replayBatch {}).program false) =
      ([], some (.error .noReplayHandler)) ∧
    (threeFound fun _ => false).conduct 0 none
      ((QueueRequest.replayBatch { replayed := some true }).program true) = ([], some (.ok 0)) := by
  have hcareful := (careful_program (threeFound fun _ => false) (.replayBatch {}) true).1
  let events := ((threeFound fun _ => false).conduct 0 none
    ((QueueRequest.replayBatch {}).program true)).1
  refine ⟨⟨events, rfl, hcareful, rfl, rfl, rfl, ?_⟩, ⟨_, rfl, ?_, rfl⟩, ?_, ?_⟩
  · obtain ⟨e, he, hm, hholds⟩ :=
      hcareful.handed (events.take 6) (shelved 3).toMessage (some true) (events.drop 7) rfl
    have hfound : e ∈ [shelved 1, shelved 2, shelved 3] := he
    have hid : e.id = ⟨3⟩ := by
      simp only [List.mem_cons, List.not_mem_nil, or_false] at hfound
      rcases hfound with rfl | rfl | rfl
      · cases hm
      · cases hm
      · rfl
    rwa [hid] at hholds
  · exact (careful_program (threeFound (· = 3)) (.replayBatch {}) true).1
  · exact ((careful_program _ _ false).2 {} rfl).1 rfl
  · exact ((careful_program _ _ true).2 _ rfl).2 rfl rfl

end Delivery
