/-!
# Settings of logging

The level is a word in any case of its letters, or a number. A variable of the environment goes
before the settings.
-/

namespace Delivery

inductive LogLevel where
  | off
  | error
  | warn
  | info
  | debug
  | trace
  deriving DecidableEq, Repr, Inhabited

namespace LogLevel

def text : LogLevel → String
  | off => "off"
  | error => "error"
  | warn => "warn"
  | info => "info"
  | debug => "debug"
  | trace => "trace"

/-- All levels; each one's place is its number. -/
def all : List LogLevel := [off, error, warn, info, debug, trace]

def readNumber? (s : List Char) : Option Nat :=
  let digits := if s.head? = some '+' then s.drop 1 else s
  if digits ≠ [] ∧ digits.all Char.isDigit then
    some (digits.foldl (fun n c => 10 * n + (c.toNat - 48)) 0)
  else none

/-- Reads a level. Nothing at all stands for errors. -/
def read? (s : String) : Option LogLevel :=
  match (readNumber? s.toList).bind (all[·]?) with
  | some level => some level
  | none =>
    if s.isEmpty then some error
    else all.find? fun level => level.text.toList == s.toList.map Char.toLower

end LogLevel

inductive LogFormat where
  | compact
  | json
  deriving DecidableEq, Repr, Inhabited

namespace LogFormat

def name : LogFormat → String
  | compact => "Compact"
  | json => "Json"

def all : List LogFormat := [compact, json]

end LogFormat

structure LogSettings where
  level : Option String := none
  format : LogFormat := .compact
  deriving DecidableEq, Repr, Inhabited

namespace LogSettings

def defaultLevel : LogLevel := .trace

def levelVariable : String := "LOG_LEVEL"

def levelText (s : LogSettings) (fromEnv : Option String) : Option String :=
  fromEnv.or s.level

/-- The level that applies. One that cannot be read counts as the default. -/
def effectiveLevel (s : LogSettings) (fromEnv : Option String) : LogLevel :=
  ((s.levelText fromEnv).bind LogLevel.read?).getD defaultLevel

def levelWarning (s : LogSettings) (fromEnv : Option String) : Option String :=
  match s.levelText fromEnv with
  | some text =>
    if (LogLevel.read? text).isSome then none
    else some ("Invalid log level specified " ++ text ++ ", defaulting to " ++ defaultLevel.text)
  | none => none

end LogSettings

end Delivery
