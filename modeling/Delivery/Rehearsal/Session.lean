import Delivery.Opening
import Delivery.Rehearsal.Stage

/-!
# Sessions with a scripted database

A session sends the statements of a store or a queue to a database whose answers are scripted, and
shows what was sent and what became of the answers.
-/

namespace Delivery.Rehearsal

structure Sent where
  text : String
  parameters : List Value
  deriving DecidableEq

inductive ScriptedReply where
  | rows (rows : List Row) (affected : Option Nat) (omitted : List String)
  | failed (message : String)
  | silent
  deriving DecidableEq

def countColumn : String := "count"

def returnedColumns (text : String) : List String :=
  if text.startsWith "SELECT COUNT" then [countColumn] else Column.ofEntry.map Column.name

/-- The answer to a statement. A column without a scripted value is null. -/
def ScriptedReply.toReply (text : String) : ScriptedReply → ServerReply
  | rows rs affected omitted =>
    let columns := (returnedColumns text).filter fun c => !omitted.contains c
    .rows (rs.map fun r => columns.map fun c => (c, (r.lookup c).getD .null))
      (affected.getD rs.length)
  | failed message => .failed message
  | silent => .silent

structure ScriptedServer where
  -- The next answers; when there are none left, there are no rows.
  replies : List ScriptedReply := []
  sent : List Sent := []
  readings : Nat := 0

abbrev SessionM := StateM ScriptedServer

namespace Session

def connection : Connection SessionM where
  send text parameters := do
    let s ← get
    set { s with replies := s.replies.drop 1, sent := ⟨text, parameters⟩ :: s.sent }
    return (s.replies.headD (.rows [] none [])).toReply text

def serverAddress : String := "server"

def connector : Connector SessionM where
  connect address :=
    if address = serverAddress then return .ok connection else return .error Connector.noAddress

inductive Step where
  | ask (r : StoreRequest)
  | ensureSchema
  | replay (id : EntryId) (fails : Bool)
  | replayBatch (f : Filter) (fails : Bool)
  | countByReason

inductive Result where
  | nothing
  | number (n : Nat)
  | truth (b : Bool)
  | entry (e : Option Entry)
  | entries (es : List Entry)
  | counts (counts : List (Reason × Nat))
  | failure (e : DeadLetterError)

def Result.ofReply : (r : StoreRequest) → r.Reply → Result
  | .insert _, _ | .release _, _ => .nothing
  | .get _, e => .entry e
  | .query _, es => .entries es
  | .count _, n | .purge _ _, n => .number n
  | .tryClaim _, b | .markReplayed _ _, b => .truth b

def wallClock : SessionM Timestamp := do
  let s ← get
  set { s with readings := s.readings + 1 }
  return { nanos := Stage.wallBase.nanos + 1000 * s.readings }

/-- A queue whose handler fails or not. Nothing else happens while it is used. -/
def queue (store : Store SessionM) (fails : Bool) : DeadLetterQueue SessionM where
  store := store
  handler := some fun _ => return !fails
  plan := none
  newId := return Stage.firstId
  wallClock := wallClock
  claims :=
    { hold := fun _ => return ()
      settle := fun _ => return ()
      abandon := fun id => discard (store.serve (.release id)) }

def perform (s : RelationalStore) (store : Store SessionM) :
    Step → ExceptT DeadLetterError SessionM Result
  | .ask r => return .ofReply r (← store.ask r)
  | .ensureSchema => do
    s.ensureSchema connection
    return .nothing
  | .replay id fails => return .truth (← (queue store fails).replay id)
  | .replayBatch f fails => return .number (← (queue store fails).replayBatch f)
  | .countByReason => return .counts (← (queue store false).countByReason)

def observe {α : Type} (replies : List ScriptedReply) (act : ExceptT DeadLetterError SessionM α) :
    Except DeadLetterError α × List Sent :=
  let (a, server) := act.run { replies }
  (a, server.sent.reverse)

def step (s : RelationalStore) (replies : List ScriptedReply) (step : Step) : Result × List Sent :=
  match observe replies (perform s (s.toStore connection) step) with
  | (.ok r, sent) => (r, sent)
  | (.error e, sent) => (.failure e, sent)

def connect (settings : DatabaseSettings) (forQueue : Bool) (replies : List ScriptedReply) :
    Except DeadLetterError RelationalStore × List Sent :=
  observe replies do
    if forQueue then ExceptT.mk (pure settings.validate)
    let (s, _) ← RelationalStore.connect connector settings
    return s

def attach (settings : DatabaseSettings) (commandTimeout : Duration) :
    Except DeadLetterError RelationalStore := do
  return { table := ← TableName.create settings.schema settings.table, commandTimeout }

end Session

end Delivery.Rehearsal
