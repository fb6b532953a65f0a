import Delivery.Relational.Table

/-!
# Commands on the table of dead letters

A command is kept as its structure: which columns it sets, which conditions its rows meet, in which
order and window it returns them. Values never stand in a command. It refers to them by number, and
its text refers to them in the same way.
-/

namespace Delivery

inductive Column where
  | id | messageType | payload | reason | errorMessage | errorTrace | enqueuedAt | attempts
  | metadata | correlationId | causationId | sourceQueue | replayed | replayedAt
  -- When the claim of a replay was taken; not part of the dead letter.
  | replayClaimedAt
  deriving DecidableEq, Repr

namespace Column

def name : Column → String
  | id => "id"
  | messageType => "message_type"
  | payload => "payload"
  | reason => "reason"
  | errorMessage => "error_message"
  | errorTrace => "error_trace"
  | enqueuedAt => "enqueued_at"
  | attempts => "attempts"
  | metadata => "metadata"
  | correlationId => "correlation_id"
  | causationId => "causation_id"
  | sourceQueue => "source_queue"
  | replayed => "replayed"
  | replayedAt => "replayed_at"
  | replayClaimedAt => "replay_claimed_at"

/-- The columns of a dead letter, in the order in which they are written and returned. -/
def ofEntry : List Column :=
  [id, messageType, payload, reason, errorMessage, errorTrace, enqueuedAt, attempts, metadata,
   correlationId, causationId, sourceQueue, replayed, replayedAt]

def list : String := ", ".intercalate (ofEntry.map name)

end Column

inductive Term where
  | column (c : Column)
  | parameter (number : Nat)
  | truth (value : Bool)
  | null
  | now
  | secondsAgo (number : Nat)
  deriving DecidableEq, Repr

inductive Comparison where
  | equal
  | less
  | atLeast
  | atMost
  deriving DecidableEq, Repr

inductive Condition where
  | always
  | compare (op : Comparison) (left right : Term)
  | isNull (term : Term)
  | either (left right : Condition)
  deriving DecidableEq, Repr

/-- Which rows a command concerns: those that meet all conditions. -/
abbrev Conditions := List Condition

inductive Command where
  | insert
  | select (conditions : Conditions) (ordered : Bool) (limit offset : Option Term)
  | count (conditions : Conditions)
  | update (changes : List (Column × Term)) (conditions : Conditions)
  | delete (conditions : Conditions)
  deriving DecidableEq, Repr

/-! ### Text -/

def Term.text : Term → String
  | column c => c.name
  | parameter n => "$" ++ toString n
  | truth true => "TRUE"
  | truth false => "FALSE"
  | null => "NULL"
  | now => "now()"
  | secondsAgo n => "now() - make_interval(secs => $" ++ toString n ++ ")"

def Comparison.text : Comparison → String
  | equal => " = "
  | less => " < "
  | atLeast => " >= "
  | atMost => " <= "

def Condition.text : Condition → String
  | always => "TRUE"
  | compare op a b => a.text ++ op.text ++ b.text
  | isNull a => a.text ++ " IS NULL"
  | either a b => "(" ++ a.text ++ " OR " ++ b.text ++ ")"

def Conditions.text (conditions : Conditions) : String :=
  " WHERE " ++ " AND ".intercalate (conditions.map Condition.text)

def clause (keyword : String) (term : Option Term) : String :=
  (term.map fun t => keyword ++ t.text).getD ""

def placeholders : String :=
  ", ".intercalate ((List.range Column.ofEntry.length).map fun n => "$" ++ toString (n + 1))

def Command.fragments (t : TableName) : Command → List Fragment
  | insert =>
    .words "INSERT INTO " :: t.fragments ++
      [.words (" (" ++ Column.list ++ ") VALUES (" ++ placeholders ++ ")")]
  | select conditions ordered limit offset =>
    .words ("SELECT " ++ Column.list ++ " FROM ") :: t.fragments ++
      [.words (Conditions.text conditions ++ (if ordered then " ORDER BY id" else "") ++
        clause " LIMIT " limit ++ clause " OFFSET " offset)]
  | count conditions =>
    .words "SELECT COUNT(*) FROM " :: t.fragments ++ [.words (Conditions.text conditions)]
  | update changes conditions =>
    .words "UPDATE " :: t.fragments ++
      [.words (" SET " ++ ", ".intercalate (changes.map fun c => c.1.name ++ " = " ++ c.2.text) ++
        Conditions.text conditions)]
  | delete conditions =>
    .words "DELETE FROM " :: t.fragments ++ [.words (Conditions.text conditions)]

def Command.text (t : TableName) (c : Command) : String := Fragment.join (c.fragments t)

end Delivery
