import Std.Time.DateTime.Timestamp
import Delivery.CommandLine.Run

/-!
# The program

Runs a command line on the files, the variables and the clock of the machine.
-/

namespace Delivery.CommandLine

def lookUp (path : String) : IO (Option FileNode) := do
  try
    match String.fromUTF8? (← IO.FS.readBinFile path) with
    | some content => return some (.file content)
    | none => return some (.unreadable "stream did not contain valid UTF-8")
  catch
    | .noFileOrDirectory _ _ _ => return none
    | .inappropriateType _ _ _ => return some .directory
    | e => return some (.unreadable (toString e))

def lookedUpVariables : IO (List (String × String)) :=
  [CourierSettings.fileVariable, LogSettings.levelVariable].filterMapM fun name => do
    return (← IO.getEnv name).map fun value => (name, value)

def wallClock : IO Timestamp := do
  return { nanos := (← Std.Time.Timestamp.now).toNanosecondsSinceUnixEpoch.val }

partial def waitForEnd : IO Unit := do
  IO.sleep 3600000
  waitForEnd

def runHere (args : List String) : IO UInt32 := do
  let known ← lookedUpVariables
  let report ← run ⟨⟨lookUp⟩, fun name => known.lookup name, ← wallClock⟩ args
  IO.print report.output
  IO.eprint report.errors
  if report.serves then waitForEnd
  return report.exitCode.toUInt32

end Delivery.CommandLine

def main (args : List String) : IO UInt32 := Delivery.CommandLine.runHere args
