import Delivery.DeadLetter.Store
import Delivery.Double.Basic
import Delivery.Relational.Command

/-!
# The statements of the store

A statement is a command with the values it refers to. Every request of a store has one statement.
The conditions of a filter are numbered in their order, each by the value it compares with.
-/

namespace Delivery

inductive Value where
  | null
  | text (s : String)
  | bytes (bytes : List UInt8)
  | number (n : Int)
  | flag (b : Bool)
  | time (t : Timestamp)
  | seconds (x : Double)
  | labels (m : Metadata)
  deriving DecidableEq

namespace Value

def optionalText (s : Option String) : Value := (s.map text).getD null

def stored (t : Timestamp) : Value := .time t.toMicroseconds

def smallLimit : Nat := Nat.pow 2 31 - 1

def bigLimit : Nat := Nat.pow 2 63 - 1

/-- A count for a 32-bit column; larger ones become the largest that fits. -/
def small (n : Nat) : Value := .number (min n smallLimit)

/-- A count for a 64-bit column; larger ones become the largest that fits. -/
def big (n : Nat) : Value := .number (min n bigLimit)

/-- A duration in seconds: the whole ones and the fraction are rounded, then their sum. -/
def ofDuration (d : Duration) : Value :=
  let whole := Double.ofNat (d / Duration.second)
  let fraction := Double.round false (d % Duration.second * Double.unitsPerOne) Duration.second
  .seconds (Double.fma whole .one fraction)

end Value

structure Statement where
  command : Command
  parameters : List Value := []
  deriving DecidableEq

namespace Statement

/-! ### Filters -/

/-- The criteria that a filter sets, each with its column, its comparison and its value. -/
def criteria (f : Filter) : List (Column × Comparison × Value) :=
  (f.messageType.map fun s => (.messageType, .equal, .text s)).toList ++
  (f.reason.map fun r => (.reason, .equal, .text r.text)).toList ++
  (f.enqueuedFrom.map fun t => (.enqueuedAt, .atLeast, .stored t)).toList ++
  (f.enqueuedTo.map fun t => (.enqueuedAt, .atMost, .stored t)).toList ++
  (f.replayed.map fun b => (.replayed, .equal, .flag b)).toList ++
  (f.sourceQueue.map fun s => (.sourceQueue, .equal, .text s)).toList ++
  (f.correlationId.map fun s => (.correlationId, .equal, .text s)).toList ++
  (f.minAttempts.map fun n => (.attempts, .atLeast, .small n)).toList

def numbered (first : Nat) : List (Column × Comparison × Value) → Conditions
  | [] => []
  | (c, op, _) :: rest => .compare op (.column c) (.parameter first) :: numbered (first + 1) rest

def conditions (f : Filter) : Conditions := .always :: numbered 1 (criteria f)

def filterValues (f : Filter) : List Value := (criteria f).map (·.2.2)

def query (f : Filter) : Statement :=
  let set := (criteria f).length
  let limit := f.limit.map Value.big
  let offset := if 0 < f.skip then some (Value.big f.skip) else none
  { command := .select (conditions f) true (limit.map fun _ => .parameter (set + 1))
      (offset.map fun _ => .parameter (set + limit.toList.length + 1))
    parameters := filterValues f ++ limit.toList ++ offset.toList }

def count (f : Filter) : Statement := ⟨.count (conditions f), filterValues f⟩

/-! ### Single dead letters -/

def entryValue (e : Entry) : Column → Value
  | .id => .text e.id.text
  | .messageType => .text e.messageType
  | .payload => .bytes e.payload
  | .reason => .text e.reason.text
  | .errorMessage => .optionalText (e.failure.map (·.message))
  | .errorTrace => .optionalText (e.failure.bind (·.trace))
  | .enqueuedAt => .stored e.enqueuedAt
  | .attempts => .small e.attempts
  | .metadata => .labels e.metadata
  | .correlationId => .optionalText e.correlationId
  | .causationId => .optionalText e.causationId
  | .sourceQueue => .optionalText e.sourceQueue
  | .replayed => .flag e.replayed
  | .replayedAt => (e.replayedAt.map Value.stored).getD .null
  | .replayClaimedAt => .null

def insert (e : Entry) : Statement := ⟨.insert, Column.ofEntry.map (entryValue e)⟩

def withId : Condition := .compare .equal (.column .id) (.parameter 1)

def pending : Condition := .compare .equal (.column .replayed) (.truth false)

def get (id : EntryId) : Statement := ⟨.select [withId] false none none, [.text id.text]⟩

/-- Takes the claim on a row that is not replayed, unless there is one within the lease. -/
def claim (id : EntryId) (lease : Duration) : Statement where
  command := .update [(.replayClaimedAt, .now)]
    [withId, pending,
     .either (.isNull (.column .replayClaimedAt))
       (.compare .less (.column .replayClaimedAt) (.secondsAgo 2))]
  parameters := [.text id.text, .ofDuration lease]

def mark (id : EntryId) (time : Timestamp) : Statement where
  command := .update
    [(.replayed, .truth true), (.replayedAt, .parameter 2), (.replayClaimedAt, .null)]
    [withId, pending]
  parameters := [.text id.text, .stored time]

def release (id : EntryId) : Statement where
  command := .update [(.replayClaimedAt, .null)] [withId, pending]
  parameters := [.text id.text]

def purge (cutoff : Timestamp) (replayedOnly : Bool) : Statement where
  command := .delete (.compare .less (.column .enqueuedAt) (.parameter 1) ::
    if replayedOnly then [.compare .equal (.column .replayed) (.truth true)] else [])
  parameters := [.stored cutoff]

/-! ### Requests -/

def ofRequest (lease : Duration) : StoreRequest → Statement
  | .insert e => insert e
  | .get id => get id
  | .query f => query f
  | .count f => count f.unpaginated
  | .tryClaim id => claim id lease
  | .markReplayed id time => mark id time
  | .release id => release id
  | .purge cutoff replayedOnly => purge cutoff replayedOnly

end Statement

end Delivery
