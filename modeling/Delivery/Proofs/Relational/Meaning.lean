import Delivery.Proofs.DeadLetter.EntryId
import Delivery.Proofs.Relational.Texts

/-!
# What commands mean

The table of dead letters is a list of records, and a command is carried out on it at a moment, with
the values that it refers to by number. The meaning is that of standard SQL: a comparison with NULL
is not known to hold, and a command concerns the rows of which all conditions are known to hold.
Texts are compared byte by byte. The moment of a command is the exact time at which it is carried
out; times and intervals have no bounds, and a text may hold any character. The database takes each
text for the command of the store that has this text.
-/

namespace Delivery

/-- A row of the table, with a value in every column. -/
abbrev Record := Column → Value

abbrev Records := List Record

/-! ### Values -/

namespace Comparison

def holds {α : Type} [DecidableEq α] [LT α] [LE α] [DecidableLT α] [DecidableLE α]
    (op : Comparison) (a b : α) : Bool :=
  match op with
  | equal => a = b
  | less => a < b
  | atLeast => b ≤ a
  | atMost => a ≤ b

/-- What is known of a comparison. Nothing is, when a value is NULL. -/
def known? (op : Comparison) : Value → Value → Option Bool
  | .text a, .text b => some (op.holds (octets a) (octets b))
  | .number a, .number b => some (op.holds a b)
  | .flag a, .flag b => some (op.holds a b)
  | .time a, .time b => some (op.holds a b)
  | _, _ => none

end Comparison

/-- A number of seconds as nanoseconds, of which the interval keeps whole microseconds. -/
def Double.interval? : Double → Option Int
  | finite negative units =>
    some (signedUnits negative (nearestEven (units * 1000000) unitsPerOne) * 1000)
  | _ => none

/-- The first of two alternatives is enough, and both must fail for the whole to fail. -/
def eitherKnown : Option Bool → Option Bool → Option Bool
  | some true, _ => some true
  | _, some true => some true
  | some false, some false => some false
  | _, _ => none

/-! ### Terms and conditions -/

section

variable (now : Timestamp) (parameters : List Value)

def Term.value (r : Record) : Term → Value
  | column c => r c
  | parameter n => parameters.getD (n - 1) .null
  | truth b => .flag b
  | null => .null
  | .now => .time now
  | secondsAgo n =>
    match parameters.getD (n - 1) .null with
    | .seconds x => (x.interval?.map fun d => .time { nanos := now.nanos - d }).getD .null
    | _ => .null

def Condition.known? (r : Record) : Condition → Option Bool
  | always => some true
  | compare op a b => op.known? (a.value now parameters r) (b.value now parameters r)
  | isNull t => some (t.value now parameters r == .null)
  | either a b => eitherKnown (a.known? r) (b.known? r)

def Conditions.hold (cs : Conditions) (r : Record) : Bool :=
  cs.all fun c => c.known? now parameters r == some true

/-- How many rows to skip or to return. The term refers to no column. -/
def Term.count? (t : Term) : Option Nat :=
  match t.value now parameters fun _ => .null with
  | .number n => some n.toNat
  | _ => none

/-! ### Commands -/

namespace Record

/-- The row that is returned: the columns of a dead letter under their names. -/
def row (r : Record) : Row := Column.ofEntry.map fun c => (c.name, r c)

/-- A new row. It has the values in their order, and NULL where none is given. -/
def ofValues (values : List Value) : Record := fun c =>
  ((Column.ofEntry.zip values).lookup c).getD .null

def change (changes : List (Column × Term)) (r : Record) : Record := fun c =>
  ((changes.lookup c).map (·.value now parameters r)).getD (r c)

/-- What rows are put in order by: the bytes of their ids, which are texts. -/
def key (r : Record) : List UInt8 :=
  match r .id with
  | .text s => octets s
  | _ => []

def precedes (a b : Record) : Bool := a.key ≤ b.key

end Record

def Records.window (limit offset : Option Nat) (rs : Records) : Records :=
  let rest := rs.drop (offset.getD 0)
  (limit.map rest.take).getD rest

/-- Carries a command out. It answers with rows and the number of rows concerned. -/
def Command.carryOut : Command → Records → ServerReply × Records
  | insert, table =>
    let new := Record.ofValues parameters
    if table.any (· .id == new .id) then
      (.failed "duplicate key value violates unique constraint", table)
    else (.rows [] 1, table ++ [new])
  | select conditions ordered limit offset, table =>
    let chosen := table.filter (conditions.hold now parameters)
    let inOrder := if ordered then chosen.mergeSort Record.precedes else chosen
    let rows := Records.window (limit.bind (·.count? now parameters))
      (offset.bind (·.count? now parameters)) inOrder
    (.rows (rows.map Record.row) rows.length, table)
  | count conditions, table =>
    (.rows [[("count", .number (table.countP (conditions.hold now parameters)))]] 1, table)
  | update changes conditions, table =>
    (.rows [] (table.countP (conditions.hold now parameters)), table.map fun r =>
      if conditions.hold now parameters r then r.change now parameters changes else r)
  | delete conditions, table =>
    (.rows [] (table.countP (conditions.hold now parameters)),
     table.filter (!conditions.hold now parameters ·))

end

/-! ### The database -/

open Classical in
/-- The command of the store with this text. -/
noncomputable def Command.ofText? (t : TableName) (text : String) : Option Command :=
  if h : ∃ lease q, (Statement.ofRequest lease q).command.text t = text then
    some (Statement.ofRequest h.choose h.choose_spec.choose).command
  else none

theorem Command.ofText?_text (t : TableName) (lease : Duration) (q : StoreRequest) :
    ofText? t ((Statement.ofRequest lease q).command.text t) =
      some (Statement.ofRequest lease q).command := by
  have h : ∃ lease' q', (Statement.ofRequest lease' q').command.text t =
      (Statement.ofRequest lease q).command.text t := ⟨lease, q, rfl⟩
  rw [ofText?, dif_pos h, Statement.command_eq_of_text h.choose_spec.choose_spec]

/-- A connection to a database with the table, at a moment. -/
noncomputable def database (t : TableName) (now : Timestamp) : Connection (StateM Records) where
  send text parameters := fun records =>
    match Command.ofText? t text with
    | some c => c.carryOut now parameters records
    | none => (.failed "syntax error", records)

namespace RelationalStore

/-- What the store replies to a request at a moment, and the records then. -/
noncomputable def answer (s : RelationalStore) (now : Timestamp) (q : StoreRequest)
    (records : Records) : Except DeadLetterError q.Reply × Records :=
  (s.serve (database s.table now) q).run.run records

theorem answer_of_rows {s : RelationalStore} {now : Timestamp} {q : StoreRequest}
    {records records' : Records} {rows : List Row} {affected : Nat}
    (h : (Statement.ofRequest s.lease q).command.carryOut now
      (Statement.ofRequest s.lease q).parameters records = (.rows rows affected, records')) :
    s.answer now q records = (s.reply rows affected q, records') := by
  have hsend : StateT.run ((database s.table now).send
      ((Statement.ofRequest s.lease q).command.text s.table)
      (Statement.ofRequest s.lease q).parameters) records = (.rows rows affected, records') := by
    show (match Command.ofText? s.table _ with | some c => _ | none => _) = _
    rw [Command.ofText?_text]
    exact h
  unfold answer serve run
  simp only [ExceptT.run_bind, ExceptT.run_lift, StateT.run_bind, StateT.run_map, hsend]
  rfl

end RelationalStore

end Delivery
