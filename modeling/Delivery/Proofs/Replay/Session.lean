import Delivery.Program
import Delivery.DeadLetter.Queue

/-!
# The session of a replay

A call to the queue is a program that asks its surroundings one question after another. A replay
claims a dead letter, holds it, hands it out, and then marks it or gives the claim back, before it
comes to the next one. `Session` says that a program keeps to this, and how many dead letters it has
marked when it ends. What has been read before stands in it, since nothing else is claimed or handed
out. It is proved of what the queue does, whatever is replied.
-/

namespace Delivery

inductive ReplayAsk where
  | store (request : StoreRequest)
  | handle (message : Message)
  | hold (id : EntryId)
  | settle (id : EntryId)
  | abandon (id : EntryId)
  | wallClock
  | newId

namespace ReplayAsk

abbrev Reply : ReplayAsk → Type
  | store request => Except DeadLetterError request.Reply
  | handle _ => Bool
  | hold _ => Unit
  | settle _ => Unit
  | abandon _ => Unit
  | wallClock => Timestamp
  | newId => EntryId

end ReplayAsk

abbrev ReplayProgram := Program ReplayAsk ReplayAsk.Reply

def askHandler (message : Message) : ReplayProgram Bool := .perform (ReplayAsk.handle message)

/-- A queue that asks for everything, with or without a handler. -/
def askingQueue (handled : Bool) : DeadLetterQueue ReplayProgram where
  store := ⟨fun r => .perform (ReplayAsk.store r)⟩
  handler := if handled then some askHandler else none
  plan := none
  newId := .perform ReplayAsk.newId
  wallClock := .perform ReplayAsk.wallClock
  claims := ⟨fun id => .perform (ReplayAsk.hold id), fun id => .perform (ReplayAsk.settle id),
    fun id => .perform (ReplayAsk.abandon id)⟩

inductive Stage where
  | idle
  | claimed (e : Entry)
  | held (e : Entry)
  | delivered (id : EntryId)
  | marked (id : EntryId)
  | failed (id : EntryId)
  | settled (id : EntryId)

/-- The dead letter that is held, and then in the hands of the handler. -/
def Stage.held? : Stage → Option Entry
  | held e => some e
  | _ => none

variable {α β : Type}

/-- From a stage on, with so many dead letters marked, the program goes on as a replay does: it
claims nothing but what it has read, and hands out what it has claimed. At the end the condition
holds of its value, the stage and the number marked by then. -/
inductive Session (post : α → Stage → Nat → Prop) :
    List Entry → Stage → Nat → ReplayProgram α → Prop where
  | done {read : List Entry} {a : α} {stage : Stage} {n : Nat} (h : post a stage n) :
      Session post read stage n (.done a)
  | get {read : List Entry} {n : Nat} {id : EntryId}
      {next : Except DeadLetterError (Option Entry) → ReplayProgram α}
      (h : ∀ r : Option Entry, Session post (read ++ r.toList) .idle n (next (.ok r))) :
      Session post read .idle n (.ask (.store (.get id)) next)
  | query {read : List Entry} {n : Nat} {f : Filter}
      {next : Except DeadLetterError (List Entry) → ReplayProgram α}
      (h : ∀ r : List Entry, Session post (read ++ r) .idle n (next (.ok r))) :
      Session post read .idle n (.ask (.store (.query f)) next)
  | insert {read : List Entry} {n : Nat} {e : Entry}
      {next : Except DeadLetterError Unit → ReplayProgram α}
      (he : e.replayed = false) (h : Session post read .idle n (next (.ok ()))) :
      Session post read .idle n (.ask (.store (.insert e)) next)
  | newId {read : List Entry} {n : Nat} {next : EntryId → ReplayProgram α}
      (h : ∀ id, Session post read .idle n (next id)) :
      Session post read .idle n (.ask .newId next)
  | wallClock {read : List Entry} {stage : Stage} {n : Nat} {next : Timestamp → ReplayProgram α}
      (hs : stage.held? = none) (h : ∀ t, Session post read stage n (next t)) :
      Session post read stage n (.ask .wallClock next)
  | tryClaim {read : List Entry} {n : Nat} {e : Entry}
      {next : Except DeadLetterError Bool → ReplayProgram α} (he : e ∈ read)
      (won : Session post read (.claimed e) n (next (.ok true)))
      (lost : Session post read .idle n (next (.ok false))) :
      Session post read .idle n (.ask (.store (.tryClaim e.id)) next)
  | hold {read : List Entry} {n : Nat} {e : Entry} {next : Unit → ReplayProgram α}
      (h : Session post read (.held e) n (next ())) :
      Session post read (.claimed e) n (.ask (.hold e.id) next)
  | handle {read : List Entry} {n : Nat} {e : Entry} {next : Bool → ReplayProgram α}
      (he : e ∈ read) (went : Session post read (.delivered e.id) n (next true))
      (failed : Session post read (.failed e.id) n (next false)) :
      Session post read (.held e) n (.ask (.handle e.toMessage) next)
  | markReplayed {read : List Entry} {n : Nat} {id : EntryId} {time : Timestamp}
      {next : Except DeadLetterError Bool → ReplayProgram α}
      (marked : Session post read (.marked id) (n + 1) (next (.ok true)))
      (missed : Session post read (.marked id) n (next (.ok false))) :
      Session post read (.delivered id) n (.ask (.store (.markReplayed id time)) next)
  | settle {read : List Entry} {n : Nat} {id : EntryId} {next : Unit → ReplayProgram α}
      (h : Session post read .idle n (next ())) :
      Session post read (.marked id) n (.ask (.settle id) next)
  | settleFailed {read : List Entry} {n : Nat} {id : EntryId} {next : Unit → ReplayProgram α}
      (h : Session post read (.settled id) n (next ())) :
      Session post read (.failed id) n (.ask (.settle id) next)
  | release {read : List Entry} {n : Nat} {id : EntryId}
      {next : Except DeadLetterError Unit → ReplayProgram α}
      (h : Session post read .idle n (next (.ok ()))) :
      Session post read (.settled id) n (.ask (.store (.release id)) next)

namespace Session

variable {read : List Entry} {stage : Stage} {n : Nat} {post : α → Stage → Nat → Prop}
  {post' : β → Stage → Nat → Prop}

theorem bind {p : ReplayProgram α} {f : α → ReplayProgram β} (h : Session post read stage n p)
    (hf : ∀ read' a stage n, read ⊆ read' → post a stage n → Session post' read' stage n (f a)) :
    Session post' read stage n (p >>= f) := by
  -- on the session of the first program, in which more and more is read
  induction h with
  | done h => exact hf _ _ _ _ (fun _ he => he) h
  | get _ ih =>
    refine .get fun r => ih r ?_
    intro read' a stage n hsub
    exact hf read' a stage n fun e he => hsub (List.mem_append_left _ he)
  | query _ ih =>
    refine .query fun r => ih r ?_
    intro read' a stage n hsub
    exact hf read' a stage n fun e he => hsub (List.mem_append_left _ he)
  | insert he _ ih => exact .insert he (ih hf)
  | newId _ ih => exact .newId fun id => ih id hf
  | wallClock hs _ ih => exact .wallClock hs fun t => ih t hf
  | tryClaim he _ _ won lost => exact .tryClaim he (won hf) (lost hf)
  | hold _ ih => exact .hold (ih hf)
  | handle he _ _ went failed => exact .handle he (went hf) (failed hf)
  | markReplayed _ _ marked missed => exact .markReplayed (marked hf) (missed hf)
  | settle _ ih => exact .settle (ih hf)
  | settleFailed _ ih => exact .settleFailed (ih hf)
  | release _ ih => exact .release (ih hf)

/-- The same for computations that may fail, where the first does not. -/
theorem bindOk {p : ExceptT DeadLetterError ReplayProgram α}
    {f : α → ExceptT DeadLetterError ReplayProgram β} {mid : α → Stage → Nat → Prop}
    {post' : Except DeadLetterError β → Stage → Nat → Prop}
    (h : Session (fun r stage n => ∃ a, r = .ok a ∧ mid a stage n) read stage n p.run)
    (hf : ∀ read' a stage n, read ⊆ read' → mid a stage n →
      Session post' read' stage n (f a).run) :
    Session post' read stage n (p >>= f).run := by
  refine h.bind ?_
  rintro read' r stage n hsub ⟨a, rfl, ha⟩
  exact hf read' a stage n hsub ha

theorem mono {p : ReplayProgram α} {post' : α → Stage → Nat → Prop}
    (h : Session post read stage n p) (hpost : ∀ a stage n, post a stage n → post' a stage n) :
    Session post' read stage n p := by
  rw [← Program.bind_done p]
  exact h.bind fun _ a stage n _ ha => .done (hpost a stage n ha)

/-- The condition that a part ends idle with a value, and with this many more marked. -/
def EndsWith (n : Nat) (count : α → Nat) (r : Except DeadLetterError α) (stage : Stage) (k : Nat) :
    Prop :=
  ∃ a, r = .ok a ∧ stage = .idle ∧ k = n + count a

variable {handled : Bool}

/-- A replay of one dead letter comes back to where it began, whoever wins the claim and however the
dead letter is received. -/
theorem replayEntry (e : Entry) (he : e ∈ read) (n : Nat) :
    Session (EndsWith n fun marked => if marked then 1 else 0) read .idle n
      ((askingQueue handled).replayEntry askHandler e).run := by
  unfold DeadLetterQueue.replayEntry
  refine .tryClaim he ?won ?lost
  case won =>
    refine .hold (.handle he ?went ?failed)
    case went =>
      refine .wallClock rfl fun time => .markReplayed (.settle ?_) (.settle ?_)
      · exact .done ⟨true, rfl, rfl, rfl⟩
      · exact .done ⟨false, rfl, rfl, rfl⟩
    case failed => exact .settleFailed (.release (.done ⟨false, rfl, rfl, rfl⟩))
  case lost => exact .done ⟨false, rfl, rfl, rfl⟩

theorem replayAll (entries : List Entry) (hread : entries ⊆ read) (n : Nat) :
    Session (EndsWith n id) read .idle n
      ((askingQueue handled).replayAll askHandler entries).run := by
  -- on the dead letters that are left; each adds its own count to the one so far
  induction entries generalizing read n with
  | nil => exact .done ⟨0, rfl, rfl, rfl⟩
  | cons e rest ih =>
    unfold DeadLetterQueue.replayAll
    refine bindOk (replayEntry e (hread List.mem_cons_self) n) ?_
    rintro read' marked stage k hsub ⟨rfl, rfl⟩
    have hrest : rest ⊆ read' := fun e' he => hsub (hread (List.mem_cons_of_mem e he))
    refine bindOk (ih hrest _) ?_
    rintro - later stage k - ⟨rfl, rfl⟩
    refine .done ⟨_, rfl, rfl, ?_⟩
    cases marked with
    | true =>
      show n + 1 + later = n + (later + 1)
      omega
    | false => rfl

theorem replay (id : EntryId) :
    Session (EndsWith 0 fun replayed => if replayed then 1 else 0) [] .idle 0
      ((askingQueue true).replay id).run := by
  refine .get fun r => ?_
  cases r with
  | none => exact .done ⟨false, rfl, rfl, rfl⟩
  | some e =>
    show Session _ _ _ _ (ExceptT.run (if e.replayed = true then _ else _))
    split
    · exact .done ⟨false, rfl, rfl, rfl⟩
    · exact replayEntry e List.mem_cons_self 0

theorem replayBatch (f : Filter) :
    Session (EndsWith 0 id) [] .idle 0 ((askingQueue true).replayBatch f).run := by
  show Session _ _ _ _ (ExceptT.run (if f.replayed = some true then _ else _))
  split
  · exact .done ⟨0, rfl, rfl, rfl⟩
  · exact .query fun entries => replayAll entries (fun _ he => he) 0

end Session

/-! ### Calls -/

inductive QueueRequest where
  | replay (id : EntryId)
  | replayBatch (filter : Filter)
  | enqueue (message : Message) (reason : Reason) (failure : Option FailureDetail)
      (metadata : Metadata)

namespace QueueRequest

/-- The program of a call. It ends with how many dead letters it says it has replayed. -/
def program (handled : Bool) : QueueRequest → ReplayProgram (Except DeadLetterError Nat)
  | replay id => do
    let r ← ((askingQueue handled).replay id).run
    return r.map fun replayed => if replayed then 1 else 0
  | replayBatch f => ((askingQueue handled).replayBatch f).run
  | enqueue message reason failure metadata => do
    let r ← ((askingQueue handled).enqueue message reason failure metadata).run
    return r.map fun _ => 0

end QueueRequest

/-- How many dead letters the end of a call says it has replayed. -/
def claimedCount (r : Except DeadLetterError Nat) : Nat := r.toOption.getD 0

namespace Session

variable {handled : Bool}

/-- Every call keeps to the session from the beginning, and says at the end how many it marked. -/
theorem program (request : QueueRequest) :
    Session (fun r stage n => stage = .idle ∧ n = claimedCount r) [] .idle 0
      (request.program handled) := by
  cases request with
  | replay id =>
    cases handled with
    | false => exact .done ⟨rfl, rfl⟩
    | true =>
      refine (replay id).bind ?_
      rintro - r stage k - ⟨a, rfl, rfl, rfl⟩
      exact .done ⟨rfl, Nat.zero_add _⟩
  | replayBatch f =>
    cases handled with
    | false => exact .done ⟨rfl, rfl⟩
    | true =>
      refine (replayBatch f).mono ?_
      rintro r stage k ⟨a, rfl, rfl, rfl⟩
      exact ⟨rfl, Nat.zero_add _⟩
  | enqueue message reason failure metadata =>
    exact .newId fun id => .wallClock rfl fun time => .insert rfl (.done ⟨rfl, rfl⟩)

end Session

end Delivery
