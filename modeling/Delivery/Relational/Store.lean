import Delivery.DeadLetter.Settings
import Delivery.Relational.Row
import Delivery.Relational.Schema

/-!
# Dead letters in a database

Every request is one statement, sent over a connection. The database answers with rows and a number
of affected rows, with a failure, or not in time.
-/

namespace Delivery

inductive ServerReply where
  | rows (rows : List Row) (affected : Nat)
  | failed (message : String)
  | silent
  deriving DecidableEq

structure Connection (m : Type → Type) where
  send : (text : String) → (parameters : List Value) → m ServerReply

/-- What opens connections; it says why when it cannot. -/
structure Connector (m : Type → Type) where
  connect : (address : String) → m (Except String (Connection m))

structure RelationalStore where
  table : TableName
  commandTimeout : Duration
  lease : Duration := StoreRequest.defaultLease
  deriving DecidableEq, Repr

namespace RelationalStore

variable {m : Type → Type} [Monad m]

def failure (operation target message : String) : DeadLetterError :=
  .storage operation target (.ofMessages message [])

def run (s : RelationalStore) (c : Connection m) (operation target text : String)
    (parameters : List Value) : ExceptT DeadLetterError m (List Row × Nat) := do
  match ← ExceptT.lift (c.send text parameters) with
  | .rows rows affected => return (rows, affected)
  | .failed message =>
    throw (failure operation target ("error returned from database: " ++ message))
  | .silent => throw (.timeout operation target s.commandTimeout)

def operation : StoreRequest → String
  | .tryClaim _ => "claim"
  | r => r.name

/-- What a request concerns: a dead letter, or the table. -/
def target (s : RelationalStore) : StoreRequest → String
  | .insert e => e.id.text
  | .get id | .tryClaim id | .markReplayed id _ | .release id => id.text
  | .query _ | .count _ | .purge _ _ => s.table.text

def readCount (s : RelationalStore) : List Row → Except DeadLetterError Nat
  | r :: _ => r.count
  | [] => .error (failure "count" s.table.text
      "no rows returned by a query that expected to return at least one row")

/-- What rows and a number of affected rows answer to a request. A claim or a mark was made if it
affected one row. -/
def reply (s : RelationalStore) (rows : List Row) (affected : Nat) :
    (request : StoreRequest) → Except DeadLetterError request.Reply
  | .insert _ => .ok ()
  | .get _ => rows.head?.mapM Row.toEntry
  | .query _ => rows.mapM Row.toEntry
  | .count _ => s.readCount rows
  | .tryClaim _ => .ok (affected == 1)
  | .markReplayed _ _ => .ok (affected == 1)
  | .release _ => .ok ()
  | .purge _ _ => .ok affected

def serve (s : RelationalStore) (c : Connection m) (request : StoreRequest) :
    ExceptT DeadLetterError m request.Reply := do
  let statement := Statement.ofRequest s.lease request
  let (rows, affected) ← s.run c (operation request) (s.target request)
    (statement.command.text s.table) statement.parameters
  ExceptT.mk (pure (s.reply rows affected request))

def toStore (s : RelationalStore) (c : Connection m) : Store m where
  serve := s.serve c

def ensureSchema (s : RelationalStore) (c : Connection m) : ExceptT DeadLetterError m Unit :=
  Definition.all.forM fun d =>
    discard (s.run c "ensure_schema" s.table.text (d.text s.table) [])

def diagnostic (s : RelationalStore) : String :=
  Text.openRecord "PostgresDeadLetterStore"
    [("table", Text.quoted s.table.text), ("command_timeout", s.commandTimeout.text),
     ("claim_lease", s.lease.text)]

/-! ### Connecting -/

/-- Connects as settings say and creates the table if it is not there. The connection string must
not be blank and the names must be plain; both are looked at before connecting. -/
def connect (connector : Connector m) (settings : DatabaseSettings) :
    ExceptT DeadLetterError m (RelationalStore × Connection m) := do
  if settings.isUnconnected then throw DatabaseSettings.unconnected
  let table ← ExceptT.mk (pure (TableName.create settings.schema settings.table))
  match ← ExceptT.lift (connector.connect settings.connectionString) with
  | .ok c =>
    let s : RelationalStore := { table, commandTimeout := settings.commandTimeout }
    s.ensureSchema c
    return (s, c)
  | .error reason => throw (failure "connect" table.text reason)

end RelationalStore

namespace Connector

variable {m : Type → Type}

def noAddress : String := "error with configuration: relative URL without a base"

def closed [Monad m] : Connector m where
  connect _ := return .error noAddress

end Connector

end Delivery
