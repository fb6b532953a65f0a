import Delivery.Unicode.Blank
import Delivery.DeadLetter.Error

/-!
# Settings of the dead-letter queue

Dead letters are kept in memory, or in a table of a database.
-/

namespace Delivery

structure DatabaseSettings where
  connectionString : String
  schema : String := "dispatch"
  table : String := "dead_letters"
  commandTimeoutSecs : Nat := 30
  retentionDays : Nat := 30
  purgeIntervalSecs : Nat := 3600
  maxConnections : Nat := 5
  deriving DecidableEq, Repr

namespace DatabaseSettings

def wordLimit : Nat := Nat.pow 2 64 - 1

def commandTimeout (s : DatabaseSettings) : Duration := .ofSeconds s.commandTimeoutSecs

/-- The retention; its seconds stop at the largest 64-bit number. -/
def retention (s : DatabaseSettings) : Duration :=
  .ofSeconds (min (s.retentionDays * 86400) wordLimit)

def purgeInterval (s : DatabaseSettings) : Duration := .ofSeconds s.purgeIntervalSecs

def isUnconnected (s : DatabaseSettings) : Bool :=
  (Unicode.trim s.connectionString.toList).isEmpty

def unconnected : DeadLetterError := .configuration "connection_string must not be empty"

def mustBePositive (field : String) : DeadLetterError :=
  .configuration (field ++ " must be greater than zero")

def validate (s : DatabaseSettings) : Except DeadLetterError Unit :=
  if s.isUnconnected then .error unconnected
  else if s.commandTimeoutSecs = 0 then .error (mustBePositive "command_timeout_secs")
  else if s.retentionDays = 0 then .error (mustBePositive "retention_days")
  else if s.purgeIntervalSecs = 0 then .error (mustBePositive "purge_interval_secs")
  else if s.maxConnections = 0 then .error (mustBePositive "max_connections")
  else .ok ()

end DatabaseSettings

inductive DeadLetterSettings where
  | memory
  | database (settings : DatabaseSettings)
  deriving DecidableEq, Repr

end Delivery
