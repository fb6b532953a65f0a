import Delivery.CommandLine.Help
import Delivery.Opening
import Delivery.Settings.Files

/-!
# Running a command line

The dead letters are in memory, as there is no database to connect to from the command line.
-/

namespace Delivery.CommandLine

structure Report where
  exitCode : Nat := 0
  output : String := ""
  errors : String := ""
  serves : Bool := false
  malformed : Bool := false
  deriving DecidableEq, Repr

structure Surroundings (m : Type → Type) where
  files : Files m
  environment : String → Option String
  now : Timestamp

def noDatabase : DeadLetterError :=
  .configuration "PostgreSQL dead-letter storage requires the \x60postgres\x60 feature"

def openQueue (now : Timestamp) :
    DeadLetterSettings → Except DeadLetterError (DeadLetterQueue (StateM MemoryStore))
  | .memory => .ok (.inMemory now)
  | .database s => do
    s.validate
    throw noDatabase

/-! ### Commands -/

def daysLimit : Nat := 106751991167

def ageOfDays (days : Nat) : Except String Duration :=
  if Nat.pow 2 63 ≤ days then .error "number too large to fit in target type"
  else if daysLimit < days then .error "--older-than-days is out of range"
  else .ok (.ofDays days)

def cutoff (now : Timestamp) (plan : Option RetentionPlan) (days : Option Nat) :
    Except String Timestamp := do
  let age ← match days, plan with
    | some days, _ => ageOfDays days
    | none, some plan => .ok plan.retention
    | none, none => .error "No retention configured, pass --older-than-days"
  let t : Timestamp := { nanos := now.nanos - age }
  if t.inCalendar then return t else throw "Cutoff is out of range"

def padRight (width : Nat) (s : String) : String :=
  s ++ String.ofList (List.replicate (width - s.length) ' ')

def padLeft (width : Nat) (s : String) : String :=
  String.ofList (List.replicate (width - s.length) ' ') ++ s

def tableLine (reason count : String) : String :=
  padRight 24 reason ++ " " ++ padLeft 10 count ++ "\n"

def statsText (total pending : Nat) (counts : List (Reason × Nat)) : String :=
  tableLine "REASON" "ENTRIES" ++
  String.join ((counts.filter fun c => 0 < c.2).map fun c => tableLine c.1.text (toString c.2)) ++
  "\nTotal: " ++ toString total ++ "\nAwaiting replay: " ++ toString pending ++
  "\nReplayed: " ++ toString (total - pending) ++ "\n"

variable {m : Type → Type} [Monad m]

def stats (q : DeadLetterQueue m) : ExceptT DeadLetterError m String := do
  let total ← q.store.ask (.count {})
  let pending ← q.store.ask (.count { replayed := some false })
  return statsText total pending (← q.countByReason)

def purge (q : DeadLetterQueue m) (now : Timestamp) (days : Option Nat) (replayedOnly : Bool) :
    ExceptT String m String := do
  let t ← ExceptT.mk (pure (cutoff now q.plan days))
  let count ← ExceptT.mk do return (← (q.purge t replayedOnly).run).mapError DeadLetterError.message
  return "Purged " ++ toString count ++ " entries enqueued before " ++ t.displayText ++ "\n"

/-- Carries out a command on a queue. Nothing is shown of a purge that is scheduled. -/
def execute (q : DeadLetterQueue m) (now : Timestamp) : Command → m (Except String String)
  | .purge days replayedOnly _ => purge q now days replayedOnly
  | .stats => return (← (stats q).run).mapError DeadLetterError.message
  | .serve => return .ok ""

/-! ### Runs -/

def failed (warning message : String) : Report :=
  { exitCode := 1, errors := warning ++ "Error: " ++ message ++ "\n" }

def runWith (s : Surroundings m) (settings : CourierSettings) (command : Command) : Report :=
  let warning := ((settings.logging.levelWarning (s.environment LogSettings.levelVariable)).map
    (· ++ "\n")).getD ""
  match openQueue s.now settings.deadLetters with
  | .error e => failed warning e.message
  | .ok q =>
    match (execute q s.now command {}).1 with
    | .error message => failed warning message
    | .ok output => { output, errors := warning, serves := command == .serve }

def run (s : Surroundings m) (args : List String) : m Report := do
  match read args with
  | .refused => return { exitCode := 2, errors := refusal }
  | .version => return { output := versionText }
  | .help topic => return { output := topic.text }
  | .run file command =>
    match ← CourierSettings.findFile s.files file (s.environment CourierSettings.fileVariable) with
    | .error message => return failed "" message
    | .ok path =>
      match ← CourierSettings.load s.files path with
      | .error e =>
        return { failed "" e.message with malformed := e matches .malformed _ }
      | .ok settings => return runWith s settings command

end Delivery.CommandLine
