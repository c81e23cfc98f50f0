import Trellis.Error
import Trellis.Json.Decode
import Trellis.Log
import Trellis.Text.Blank
/-!
# Application configuration

The configuration every service and controller is built with: a name, how to log, what to do about
dependencies that cannot be wired, and free settings that services read by type.
-/

namespace Trellis

/-- The name of an application that gives none. -/
def defaultAppName : String := "onebun"

structure LoggingConfig where
  level : String := "info"
  jsonFormat : Bool := false
  fileOutput : Option String := none
  deriving DecidableEq, Repr

/-- What to do about a controller dependency that cannot be wired. -/
inductive WiringPolicy where
  /-- Warn, and construct the controller without the argument. -/
  | bestEffort
  /-- Give up wiring the module. -/
  | strict
  deriving DecidableEq, Repr

def WiringPolicy.name : WiringPolicy → String
  | .bestEffort => "best_effort"
  | .strict => "strict"

structure AppConfig where
  name : String := defaultAppName
  logging : LoggingConfig := {}
  policy : WiringPolicy := .bestEffort
  settings : Dict Json := []
  deriving Repr

instance : Inhabited AppConfig := ⟨{}⟩

/-- Configurations are equal when every field is; settings are compared as JSON values. -/
instance : BEq AppConfig where
  beq a b := a.name == b.name && a.logging == b.logging && a.policy == b.policy &&
    Json.eqvMembers a.settings b.settings

namespace AppConfig

/-- The configuration with a setting written or replaced. -/
def withSetting (config : AppConfig) (key : String) (value : Json) : AppConfig :=
  { config with settings := config.settings.set key value }

/-- A setting read with a decoder; none when the key is absent. -/
def setting? {α : Type} (decode : Json.Decoder α) (config : AppConfig) (key : String) :
    Except Error (Option α) :=
  match config.settings.get? key with
  | none => .ok none
  | some value =>
    match decode value with
    | .ok typed => .ok (some typed)
    | .error mismatch => .error (.typeMismatch ("setting '" ++ key ++ "': " ++ mismatch.message))

/-- Whether a text has nothing but blanks. -/
def isBlankName (name : String) : Bool :=
  Text.isBlankText name.toList

/-- The level a logging configuration names. -/
def parseLevel (level : String) : Except Error Level :=
  match Level.parse? level with
  | some parsed => .ok parsed
  | none =>
    .error (.configuration ("Invalid log level: " ++ level ++
      ". Use trace, debug, info, warn, or error") none)

/-- What every loaded or built configuration must satisfy; the first fault found is told. -/
def validate (config : AppConfig) : Except Error Unit := do
  if isBlankName config.name then
    throw (.configuration "Application name cannot be empty" none)
  let _ ← parseLevel config.logging.level
  if config.settings.keys.any isBlankName then
    throw (.configuration "Setting keys cannot be empty" none)

/-- Changes to a configuration, each made only if it is given. -/
structure Changes where
  name : Option String := none
  logging : Option LoggingConfig := none
  policy : Option WiringPolicy := none
  settings : List (String × Json) := []

/-- The default configuration with some changes, if it is valid. -/
def build (changes : Changes) : Except Error AppConfig := do
  let config : AppConfig :=
    { name := changes.name.getD defaultAppName
      logging := changes.logging.getD {}
      policy := changes.policy.getD .bestEffort }
  let config := changes.settings.foldl (fun config (key, value) => config.withSetting key value) config
  config.validate
  return config

end AppConfig

end Trellis
