import Delivery.DeadLetter.Memory
import Delivery.Rehearsal.Step

/-!
# The stage

What a rehearsal has at hand: breakers, a registry, a store with faults, scripts for the calls that
are still to be made, and a record of what has happened. The wall clock of the stage is far from all
times that a scenario mentions, and goes on a little at every reading.
-/

namespace Delivery.Rehearsal

/-- A request of the store that fails: the one with a name that comes after so many others. -/
structure Fault where
  request : String
  index : Nat
  error : DeadLetterError
  deriving DecidableEq, Repr

inductive Handle where
  | alone (index : Nat)
  | registered (number : Nat)
  deriving DecidableEq, Repr

structure Stage (ν : Type) where
  alone : List (Breaker String) := []
  source : BreakerSource String
  handles : List Handle := []
  subscriptions : List Nat := []
  store : MemoryStore := {}
  faults : List Fault := []
  requests : List String := []
  handler : Option (List (CallOutcome ν)) := none
  plan : Option RetentionPlan := none
  retry : RetryPolicy := .once
  scripts : List (List (CallOutcome ν)) := []
  generated : Nat := 0
  readings : Nat := 0
  -- The generated ids that results have shown, in the order of their first appearance.
  shown : List EntryId := []
  events : List (Event ν) := []

namespace Stage

variable {ν : Type}

/-! ### Times and ids -/

def wallBase : Timestamp := .ofDay ⟨2058, 1, 1⟩

def isReading (t : Timestamp) : Bool :=
  wallBase.nanos ≤ t.nanos && t.nanos < wallBase.nanos + 86400 * Timestamp.nanosPerSecond

def readWallClock (s : Stage ν) : Timestamp × Stage ν :=
  ({ nanos := wallBase.nanos + 1000 * s.readings }, { s with readings := s.readings + 1 })

def firstId : EntryId := .ofParts (wallBase.nanos / 1000000).toNat 0

/-- Makes an id; each is the next after the one before. -/
def makeId (s : Stage ν) : EntryId × Stage ν :=
  (⟨firstId.value + s.generated⟩, { s with generated := s.generated + 1 })

def isGenerated (s : Stage ν) (id : EntryId) : Bool :=
  firstId.value ≤ id.value && id.value < firstId.value + s.generated

def reveal (s : Stage ν) (ids : List EntryId) : Stage ν :=
  { s with shown := ids.foldl (fun done id =>
      if s.isGenerated id && !done.contains id then done ++ [id] else done) s.shown }

def resolve (s : Stage ν) : IdRef → EntryId
  | .literal id => id
  | .shown index => s.shown.getD index ⟨0⟩

/-! ### Events -/

def record (s : Stage ν) (e : Event ν) : Stage ν := { s with events := e :: s.events }

def notify (s : Stage ν) (notices : List (Notice String)) : Stage ν :=
  notices.foldl (fun s n => s.record (.change n.listener n.change)) s

def byCircuit (notices : List (Notice String)) : List (Notice String) :=
  notices.mergeSort fun a b => a.change.circuit ≤ b.change.circuit

/-! ### Breakers -/

def ownRegistry (s : Stage ν) : Option (Registry String) :=
  match s.source with
  | .registry r => some r
  | .alwaysClosed => none

/-- The place of a handle's breaker; unknown handles have none. -/
def place (s : Stage ν) (handle : Nat) : Handle := s.handles.getD handle (.alone s.alone.length)

def serve (s : Stage ν) (now : Instant) (place : Handle) (request : BreakerRequest) :
    BreakerAnswer × Stage ν :=
  match place, s.source with
  | .alone index, _ =>
    match s.alone[index]? with
    | some b =>
      let e := b.serve now request
      (e.answer, { s with alone := s.alone.set index e.breaker }.notify e.notices)
    | none => (.noted, s)
  | .registered number, .registry r =>
    let e := r.serve number now request
    (e.answer, { s with source := .registry e.registry }.notify e.notices)
  | .registered _, .alwaysClosed => (.noted, s)

def nameOf (s : Stage ν) : Handle → String
  | .alone index => ((s.alone[index]?).map Breaker.name).getD ""
  | .registered number =>
    ((s.ownRegistry.bind (·.breakers[number]?)).map Breaker.name).getD ""

def diagnosticOf (s : Stage ν) : Handle → String
  | .alone index => ((s.alone[index]?).map Breaker.diagnostic).getD ""
  | .registered number =>
    ((s.ownRegistry.bind (·.breakers[number]?)).map Breaker.diagnostic).getD ""

def handleOf (s : Stage ν) (place : Handle) : Nat × Stage ν :=
  match s.handles.idxOf? place with
  | some handle => (handle, s)
  | none => (s.handles.length, { s with handles := s.handles ++ [place] })

/-- The label of a new listener: the given one, or one with the number of subscriptions so far. -/
def labelOf (s : Stage ν) (label : Option String) : String :=
  label.getD ("L" ++ toString s.subscriptions.length)

def subscribed (s : Stage ν) (number : Nat) : Stage ν :=
  { s with subscriptions := s.subscriptions ++ [number] }

def subscription (s : Stage ν) (index : Nat) : Nat := s.subscriptions.getD index 0

def subscribe (s : Stage ν) (place : Handle) (label : String) : Nat × Stage ν :=
  match place, s.source with
  | .alone index, _ =>
    match s.alone[index]? with
    | some b =>
      let (number, b) := b.subscribe label
      (number, { s with alone := s.alone.set index b }.subscribed number)
    | none => (0, s.subscribed 0)
  | .registered n, .registry r =>
    let (number, r) := r.subscribe n label
    (number, { s with source := .registry r }.subscribed number)
  | .registered _, .alwaysClosed => (0, s.subscribed 0)

def unsubscribe (s : Stage ν) (place : Handle) (number : Nat) : Bool × Stage ν :=
  match place, s.source with
  | .alone index, _ =>
    match s.alone[index]? with
    | some b =>
      let (found, b) := b.unsubscribe number
      (found, { s with alone := s.alone.set index b })
    | none => (false, s)
  | .registered n, .registry r =>
    let (found, r) := r.unsubscribe n number
    (found, { s with source := .registry r })
  | .registered _, .alwaysClosed => (false, s)

def breakerFor (s : Stage ν) (name : String) (settings : Option BreakerSettings) :
    Except RegistryError (Handle × Stage ν) := do
  match s.source with
  | .registry r =>
    let (number, r) ← r.getOrCreate name settings
    return (.registered number, { s with source := .registry r })
  | .alwaysClosed =>
    let b ← alwaysClosedBreaker name
    return (.alone s.alone.length, { s with alone := s.alone ++ [b] })

/-! ### Dead letters -/

def serveStore (s : Stage ν) (now : Instant) (request : StoreRequest) :
    Except DeadLetterError request.Reply × Stage ν :=
  let index := s.requests.count request.name
  let asked := { s with requests := request.name :: s.requests }
  match s.faults.find? fun f => f.request == request.name && f.index == index with
  | some f => (.error f.error, asked)
  | none =>
    let (reply, store) := MemoryStore.serve now request s.store
    (.ok reply, { asked with store })

def takeReplay (s : Stage ν) : Option (CallOutcome ν) × Stage ν :=
  match s.handler with
  | some (o :: rest) => (some o, { s with handler := some rest })
  | _ => (none, s)

def takeCall (s : Stage ν) (script : Nat) : Option (CallOutcome ν) × Stage ν :=
  match s.scripts[script]? with
  | some (o :: rest) => (some o, { s with scripts := s.scripts.set script rest })
  | _ => (none, s)

end Stage

end Delivery.Rehearsal
