/-!
# Arguments

Options come first, then the name of a command, then the options of the command. An option has its
value attached or in the next argument, and may be given once. Whatever else comes is refused.
-/

namespace Delivery.CommandLine

structure OptionSpec where
  name : String
  letter : Option Char := none
  takesValue : Bool := false
  accepts : String → Bool := fun _ => true

inductive Question where
  | help
  | version
  deriving DecidableEq, Repr

inductive Scan where
  | refused
  | asked (question : Question)
  | given (options : List (String × String)) (rest : List String)
  deriving DecidableEq, Repr

structure OptionSet where
  options : List OptionSpec
  hasVersion : Bool := false

def isDashed (s : String) : Bool := s.startsWith "-" && s ≠ "-"

namespace OptionSet

def question? (x : OptionSet) (name : String) : Option Question :=
  if name = "help" ∨ name = "h" then some .help
  else if x.hasVersion && (name = "version" || name = "V") then some .version
  else none

def splitValue (s : List Char) : String × Option String :=
  let name := s.takeWhile (· != '=')
  let value := match s.dropWhile (· != '=') with
    | _ :: v => some (String.ofList v)
    | [] => none
  (String.ofList name, value)

/-- An option as it is written: by its name or letter, perhaps with an attached value. -/
def written? (x : OptionSet) (arg : String) : Option (Sum Question (OptionSpec × Option String)) :=
  match arg.toList with
  | '-' :: '-' :: long =>
    let (name, value) := splitValue long
    match x.options.find? (·.name == name) with
    | some o => if o.takesValue || value.isNone then some (.inr (o, value)) else none
    | none =>
      if name.length < 2 || value.isSome then none
      else (x.question? name).map .inl
  | '-' :: letter :: attached =>
    match x.options.find? (·.letter == some letter) with
    | some o =>
      let value := if attached.head? = some '=' then attached.drop 1 else attached
      if attached.isEmpty then some (.inr (o, none))
      else if o.takesValue then some (.inr (o, some (String.ofList value)))
      else none
    | none => (x.question? (String.ofList [letter])).map .inl
  | _ => none

def add (done : List (String × String)) (o : OptionSpec) (value : String) :
    Option (List (String × String)) :=
  if (done.lookup o.name).isSome || !o.accepts value then none else some (done ++ [(o.name, value)])

def scan (x : OptionSet) :
    (done : List (String × String)) → (waiting : Option OptionSpec) → List String → Scan
  | done, none, [] => .given done []
  | _, some _, [] => .refused
  | done, some o, arg :: rest =>
    if isDashed arg then .refused
    else match add done o arg with
      | some done => x.scan done none rest
      | none => .refused
  | done, none, arg :: rest =>
    if arg = "--" then if rest.isEmpty then .given done [] else .refused
    else if !isDashed arg then .given done (arg :: rest)
    else match x.written? arg with
      | none => .refused
      | some (.inl q) => .asked q
      | some (.inr (o, value)) =>
        if o.takesValue && value.isNone then
          if (done.lookup o.name).isSome then .refused else x.scan done (some o) rest
        else match add done o (value.getD "") with
          | some done => x.scan done none rest
          | none => .refused

end OptionSet

/-! ### Commands -/

inductive Command where
  | purge (olderThanDays : Option Nat) (replayedOnly : Bool) (reason : String)
  | serve
  | stats
  deriving DecidableEq, Repr

inductive Topic where
  | program
  | purge
  | serve
  | stats
  | help
  deriving DecidableEq, Repr

inductive Request where
  | run (settingsFile : Option String) (command : Command)
  | help (topic : Topic)
  | version
  | refused
  deriving DecidableEq, Repr

def readNumber? (s : String) : Option Nat :=
  let cs := s.toList
  let digits := if cs.head? = some '+' then cs.drop 1 else cs
  if digits ≠ [] ∧ digits.all Char.isDigit then
    let n := digits.foldl (fun n c => 10 * n + (c.toNat - 48)) 0
    if n < Nat.pow 2 64 then some n else none
  else none

/-- The options before the command. The path of a settings file must not be empty. -/
def programOptions : OptionSet :=
  ⟨[⟨"config", some 'c', true, fun path => path ≠ ""⟩], true⟩

def purgeOptions : OptionSet :=
  ⟨[⟨"older-than-days", none, true, fun s => (readNumber? s).isSome⟩,
    ⟨"replayed-only", none, false, fun _ => true⟩, ⟨"reason", none, true, fun _ => true⟩], false⟩

def noOptions : OptionSet := ⟨[], false⟩

def purgeOf (options : List (String × String)) : Command :=
  .purge ((options.lookup "older-than-days").bind readNumber?)
    (options.lookup "replayed-only").isSome ((options.lookup "reason").getD "manual purge")

def readCommand (x : OptionSet) (topic : Topic) (make : List (String × String) → Command)
    (settingsFile : Option String) (args : List String) : Request :=
  match x.scan [] none args with
  | .given options [] => .run settingsFile (make options)
  | .asked .help => .help topic
  | _ => .refused

def topics : List (String × Topic) :=
  [("purge", .purge), ("serve", .serve), ("stats", .stats), ("help", .help)]

def readHelp : List String → Request
  | [] => .help .program
  | [name] => ((topics.lookup name).map .help).getD .refused
  | _ => .refused

def read (args : List String) : Request :=
  match programOptions.scan [] none args with
  | .refused => .refused
  | .asked .help => .help .program
  | .asked .version => .version
  | .given options rest =>
    let file := options.lookup "config"
    match rest with
    | "purge" :: args => readCommand purgeOptions .purge purgeOf file args
    | "serve" :: args => readCommand noOptions .serve (fun _ => .serve) file args
    | "stats" :: args => readCommand noOptions .stats (fun _ => .stats) file args
    | "help" :: args => readHelp args
    | _ => .refused

end Delivery.CommandLine
