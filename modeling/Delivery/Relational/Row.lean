import Delivery.Relational.Statement

/-!
# Rows

A row that the database returns is a dead letter again, or the failure of the first column that
cannot be read.
-/

namespace Delivery

/-- A returned row: the names in the result with their values, in the order of the result. -/
abbrev Row := List (String × Value)

namespace Row

def missing (c : Column) : DeadLetterError :=
  .serialization ("no column found for name: " ++ c.name)

def unreadable (column reason : String) : DeadLetterError :=
  .serialization ("error occurred while decoding column " ++ column ++ ": " ++ reason)

def unexpectedNull (column : String) : DeadLetterError :=
  unreadable column "unexpected null; try decoding as an \x60Option\x60"

def cell (r : Row) (c : Column) : Except DeadLetterError Value :=
  match r.lookup c.name with
  | some v => .ok v
  | none => .error (missing c)

def optional {α : Type} (r : Row) (c : Column) (read : Value → Option α) :
    Except DeadLetterError (Option α) := do
  match ← r.cell c with
  | .null => return none
  | v => match read v with
    | some a => return some a
    | none => throw (unreadable (Text.quoted c.name) "mismatched types")

def required {α : Type} (r : Row) (c : Column) (read : Value → Option α) :
    Except DeadLetterError α := do
  match ← r.optional c read with
  | some a => return a
  | none => throw (unexpectedNull (Text.quoted c.name))

end Row

namespace Value

def text? : Value → Option String
  | text s => some s
  | _ => none

def bytes? : Value → Option (List UInt8)
  | bytes b => some b
  | _ => none

def number? : Value → Option Int
  | number n => some n
  | _ => none

def flag? : Value → Option Bool
  | flag b => some b
  | _ => none

def time? : Value → Option Timestamp
  | time t => some t
  | _ => none

def labels? : Value → Option Metadata
  | labels m => some m
  | _ => none

end Value

namespace Row

def entryId (r : Row) : Except DeadLetterError EntryId := do
  let text ← r.required .id Value.text?
  match EntryId.read text with
  | .ok id => return id
  | .error e =>
    throw (.serialization ("invalid dead-letter id '" ++ text ++ "': " ++ e.message))

def count (r : Row) : Except DeadLetterError Nat :=
  match r with
  | (_, .number n) :: _ => .ok n.toNat
  | (_, .null) :: _ => .error (unexpectedNull "0")
  | _ :: _ => .error (unreadable "0" "mismatched types")
  | [] => .error (.serialization "column index out of bounds: the len is 0, but the index is 0")

/-- The trace of a row; one that cannot be read counts as none. -/
def trace (r : Row) : Option String :=
  match r.optional .errorTrace Value.text? with
  | .ok trace => trace
  | .error _ => none

/-- The dead letter of a row. The columns are read in a fixed order, and the first failure
counts. -/
def toEntry (r : Row) : Except DeadLetterError Entry := do
  let id ← r.entryId
  let reasonText ← r.required .reason Value.text?
  let payload ← r.required .payload Value.bytes?
  let errorMessage ← r.optional .errorMessage Value.text?
  let attempts ← r.required .attempts Value.number?
  let metadata ← r.required .metadata Value.labels?
  let messageType ← r.required .messageType Value.text?
  let some reason := Reason.read? reasonText | throw (.unknownReason reasonText)
  let enqueuedAt ← r.required .enqueuedAt Value.time?
  let correlationId ← r.optional .correlationId Value.text?
  let causationId ← r.optional .causationId Value.text?
  let sourceQueue ← r.optional .sourceQueue Value.text?
  let replayed ← r.required .replayed Value.flag?
  let replayedAt ← r.optional .replayedAt Value.time?
  return {
    id, messageType, payload, reason
    failure := errorMessage.map fun message => ⟨message, r.trace⟩
    enqueuedAt, attempts := attempts.toNat, metadata, correlationId, causationId, sourceQueue
    replayed, replayedAt }

end Row

end Delivery
