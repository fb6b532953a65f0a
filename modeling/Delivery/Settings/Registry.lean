import Delivery.Unicode.Blank
import Delivery.Unicode.Lowercase
import Delivery.Settings.Breaker

/-!
# Settings of a breaker registry

The breaker of a transport takes the settings that are given for its name, or else the common ones.
Names are compared without the white space around them and in lower case.
-/

namespace Delivery

inductive RegistryError where
  | blankName
  | settings (error : SettingsError)
  deriving DecidableEq, Repr

def RegistryError.message : RegistryError → String
  | blankName => "Transport name must not be empty or blank"
  | settings error => error.message

def trimName (name : String) : String := String.ofList (Unicode.trim name.toList)

def normaliseName (name : String) : Except RegistryError String :=
  let trimmed := Unicode.trim name.toList
  if trimmed.isEmpty then .error .blankName else .ok (String.ofList (Unicode.lower trimmed))

structure RegistrySettings where
  defaults : BreakerSettings := {}
  overrides : List (String × BreakerSettings) := []
  deriving DecidableEq, Repr, Inhabited

namespace RegistrySettings

def setOverride (overrides : List (String × BreakerSettings)) (name : String)
    (s : BreakerSettings) : List (String × BreakerSettings) :=
  if overrides.any (·.1 == name) then
    overrides.map fun o => if o.1 == name then (name, s) else o
  else overrides ++ [(name, s)]

/-- The same settings under normalised names; of two for one name the later counts. The common
settings are checked first, then each override and its name. -/
def normalise (s : RegistrySettings) : Except RegistryError RegistrySettings := do
  s.defaults.validate.mapError .settings
  let overrides ← s.overrides.foldlM (fun done o => do
    o.2.validate.mapError .settings
    return setOverride done (← normaliseName o.1) o.2) []
  return ⟨s.defaults, overrides⟩

def resolve (s : RegistrySettings) (key : String) : BreakerSettings :=
  (s.overrides.lookup key).getD s.defaults

def diagnostic (s : RegistrySettings) : String :=
  Text.record "RegistryConfig"
    [("defaults", s.defaults.diagnostic),
     ("overrides", Text.braced (s.overrides.map fun o =>
       Text.quoted o.1 ++ ": " ++ o.2.diagnostic))]

end RegistrySettings

end Delivery
