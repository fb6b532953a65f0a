import Delivery.Proofs.Replay.Session

/-!
# The course of a replay when the store may fail

`Session` tells what a call asks for as long as the store answers. `Course` tells it also for
requests that fail: the call then goes on to its end and asks for nothing more, but that the claim
is abandoned, if it had handed the dead letter out and could not have it marked. As in a session,
what has been read stands in it, for that is what the call hands out.
-/

namespace Delivery

/-- How far a call has come with the dead letter it deals with. -/
inductive Phase where
  | idle
  | claimed (id : EntryId)
  | held (id : EntryId)
  | delivered (id : EntryId)
  | marked (id : EntryId)
  -- The store failed to mark the dead letter.
  | unmarked (id : EntryId)
  | failed (id : EntryId)
  | settled (id : EntryId)
  -- A request failed, and the call is at its end.
  | stopped

namespace Phase

/-- The dead letter that the call has a claim on. -/
def claim? : Phase → Option EntryId
  | claimed id | held id | delivered id | unmarked id | failed id | settled id => some id
  | idle | marked _ | stopped => none

/-- The dead letter of which the claim is released, should the call be dropped. -/
def held? : Phase → Option EntryId
  | held id | delivered id | marked id | unmarked id | failed id => some id
  | idle | claimed _ | settled _ | stopped => none

end Phase

/-- Requests that leave all claims as they are. -/
def StoreRequest.isPlain : StoreRequest → Bool
  | .get _ | .query _ | .count _ | .insert _ => true
  | .tryClaim _ | .markReplayed _ _ | .release _ | .purge _ _ => false

/-- The dead letters that an answer shows. -/
def StoreRequest.shown : (r : StoreRequest) → r.Reply → List Entry
  | .get _, found => found.toList
  | .query _, found => found
  | _, _ => []

variable {α β : Type}

/-- From a phase on, with so much read, the program asks for what a replay asks for in this phase,
whatever is replied. It hands out the dead letter that it holds, as it has read it. At the end the
condition holds of its value and the phase. -/
inductive Course (post : α → Phase → Prop) : List Entry → Phase → ReplayProgram α → Prop where
  | done {read : List Entry} {phase : Phase} {a : α} (h : post a phase) :
      Course post read phase (.done a)
  | plain {read : List Entry} {r : StoreRequest}
      {next : Except DeadLetterError r.Reply → ReplayProgram α} (hr : r.isPlain = true)
      (answered : ∀ reply, Course post (read ++ r.shown reply) .idle (next (.ok reply)))
      (failed : ∀ e, Course post read .stopped (next (.error e))) :
      Course post read .idle (.ask (.store r) next)
  | newId {read : List Entry} {next : EntryId → ReplayProgram α}
      (h : ∀ id, Course post read .idle (next id)) : Course post read .idle (.ask .newId next)
  | enqueuedAt {read : List Entry} {next : Timestamp → ReplayProgram α}
      (h : ∀ t, Course post read .idle (next t)) : Course post read .idle (.ask .wallClock next)
  | tryClaim {read : List Entry} {id : EntryId}
      {next : Except DeadLetterError Bool → ReplayProgram α}
      (won : Course post read (.claimed id) (next (.ok true)))
      (lost : Course post read .idle (next (.ok false)))
      (failed : ∀ e, Course post read .stopped (next (.error e))) :
      Course post read .idle (.ask (.store (.tryClaim id)) next)
  | hold {read : List Entry} {id : EntryId} {next : Unit → ReplayProgram α}
      (h : Course post read (.held id) (next ())) :
      Course post read (.claimed id) (.ask (.hold id) next)
  | handle {read : List Entry} {e : Entry} {next : Bool → ReplayProgram α} (he : e ∈ read)
      (went : Course post read (.delivered e.id) (next true))
      (failed : Course post read (.failed e.id) (next false)) :
      Course post read (.held e.id) (.ask (.handle e.toMessage) next)
  | markedAt {read : List Entry} {id : EntryId} {next : Timestamp → ReplayProgram α}
      (h : ∀ t, Course post read (.delivered id) (next t)) :
      Course post read (.delivered id) (.ask .wallClock next)
  | markReplayed {read : List Entry} {id : EntryId} {time : Timestamp}
      {next : Except DeadLetterError Bool → ReplayProgram α}
      (answered : ∀ reply, Course post read (.marked id) (next (.ok reply)))
      (failed : ∀ e, Course post read (.unmarked id) (next (.error e))) :
      Course post read (.delivered id) (.ask (.store (.markReplayed id time)) next)
  | settle {read : List Entry} {id : EntryId} {next : Unit → ReplayProgram α}
      (h : Course post read .idle (next ())) :
      Course post read (.marked id) (.ask (.settle id) next)
  | abandon {read : List Entry} {id : EntryId} {next : Unit → ReplayProgram α}
      (h : Course post read .stopped (next ())) :
      Course post read (.unmarked id) (.ask (.abandon id) next)
  | settleFailed {read : List Entry} {id : EntryId} {next : Unit → ReplayProgram α}
      (h : Course post read (.settled id) (next ())) :
      Course post read (.failed id) (.ask (.settle id) next)
  | release {read : List Entry} {id : EntryId}
      {next : Except DeadLetterError Unit → ReplayProgram α}
      (answered : Course post read .idle (next (.ok ())))
      (failed : ∀ e, Course post read .stopped (next (.error e))) :
      Course post read (.settled id) (.ask (.store (.release id)) next)

namespace Course

variable {read : List Entry} {phase : Phase} {post : α → Phase → Prop} {post' : β → Phase → Prop}

theorem bind {p : ReplayProgram α} {f : α → ReplayProgram β} (h : Course post read phase p)
    (hf : ∀ read' a phase, read ⊆ read' → post a phase → Course post' read' phase (f a)) :
    Course post' read phase (p >>= f) := by
  -- on the course of the first program, in which more and more is read
  induction h with
  | done h => exact hf _ _ _ (fun _ he => he) h
  | plain hr _ _ answered failed =>
    refine .plain hr (fun reply => answered reply ?_) fun e => failed e hf
    intro read' a phase hsub
    exact hf read' a phase fun e he => hsub (List.mem_append_left _ he)
  | newId _ ih => exact .newId fun id => ih id hf
  | enqueuedAt _ ih => exact .enqueuedAt fun t => ih t hf
  | tryClaim _ _ _ won lost failed => exact .tryClaim (won hf) (lost hf) fun e => failed e hf
  | hold _ ih => exact .hold (ih hf)
  | handle he _ _ went failed => exact .handle he (went hf) (failed hf)
  | markedAt _ ih => exact .markedAt fun t => ih t hf
  | markReplayed _ _ answered failed =>
    exact .markReplayed (fun reply => answered reply hf) fun e => failed e hf
  | settle _ ih => exact .settle (ih hf)
  | abandon _ ih => exact .abandon (ih hf)
  | settleFailed _ ih => exact .settleFailed (ih hf)
  | release _ _ answered failed => exact .release (answered hf) fun e => failed e hf

/-- A part ends idle with a value, and with a failure it is idle or has stopped. -/
def Ends : Except DeadLetterError α → Phase → Prop
  | .ok _, phase => phase = .idle
  | .error _, phase => phase = .idle ∨ phase = .stopped

theorem stopped_of_error {e : DeadLetterError} :
    Course (Ends : Except DeadLetterError α → Phase → Prop) read .stopped (.done (.error e)) :=
  .done (.inr rfl)

theorem bindOk {p : ExceptT DeadLetterError ReplayProgram α}
    {f : α → ExceptT DeadLetterError ReplayProgram β} (h : Course Ends read phase p.run)
    (hf : ∀ read' a, read ⊆ read' → Course Ends read' .idle (f a).run) :
    Course Ends read phase (p >>= f).run := by
  refine h.bind ?_
  rintro read' (e | a) phase hsub ha
  · exact .done ha
  · cases ha
    exact hf read' a hsub

variable {handled : Bool}

theorem replayEntry (e : Entry) (he : e ∈ read) :
    Course Ends read .idle ((askingQueue handled).replayEntry askHandler e).run := by
  unfold DeadLetterQueue.replayEntry
  refine .tryClaim ?won ?lost fun _ => stopped_of_error
  case won =>
    refine .hold (.handle he ?went ?failed)
    case went =>
      refine .markedAt fun time => .markReplayed (fun marked => ?_) fun _ => ?_
      · exact .settle (.done rfl)
      · exact .abandon stopped_of_error
    case failed => exact .settleFailed (.release (.done rfl) fun _ => stopped_of_error)
  case lost => exact .done rfl

theorem replayAll (entries : List Entry) (hread : entries ⊆ read) :
    Course Ends read .idle ((askingQueue handled).replayAll askHandler entries).run := by
  induction entries generalizing read with
  | nil => exact .done rfl
  | cons e rest ih =>
    unfold DeadLetterQueue.replayAll
    refine bindOk (replayEntry e (hread List.mem_cons_self)) fun read' _ hsub => ?_
    have hrest : rest ⊆ read' := fun e' he => hsub (hread (List.mem_cons_of_mem e he))
    exact bindOk (ih hrest) fun _ _ _ => .done rfl

theorem replay (id : EntryId) : Course Ends [] .idle ((askingQueue true).replay id).run := by
  refine .plain rfl (fun r => ?_) fun _ => stopped_of_error
  cases r with
  | none => exact .done rfl
  | some e =>
    show Course _ _ _ (ExceptT.run (if e.replayed = true then _ else _))
    split
    · exact .done rfl
    · exact replayEntry e List.mem_cons_self

theorem replayBatch (f : Filter) :
    Course Ends [] .idle ((askingQueue true).replayBatch f).run := by
  show Course _ _ _ (ExceptT.run (if f.replayed = some true then _ else _))
  split
  · exact .done rfl
  · exact .plain rfl (fun entries => replayAll entries fun _ he => he) fun _ => stopped_of_error

theorem ends_map {r : Except DeadLetterError α} {phase : Phase} (f : α → β) (h : Ends r phase) :
    Ends (r.map f) phase := by
  cases r <;> exact h

/-- Every call keeps to the course from the beginning. -/
theorem program (request : QueueRequest) :
    Course Ends [] .idle (request.program handled) := by
  cases request with
  | replay id =>
    cases handled with
    | false => exact .done (.inl rfl)
    | true => exact (replay id).bind fun _ r phase _ hr => .done (ends_map _ hr)
  | replayBatch f =>
    cases handled with
    | false => exact .done (.inl rfl)
    | true => exact replayBatch f
  | enqueue message reason failure metadata =>
    exact .newId fun id => .enqueuedAt fun time =>
      .plain rfl (fun _ => .done rfl) fun _ => stopped_of_error

theorem done_of_stopped {p : ReplayProgram α} (h : Course post read .stopped p) :
    ∃ a, p = .done a := by
  cases h with
  | done _ => exact ⟨_, rfl⟩

end Course

end Delivery
