import Trellis.Config.Files
import Trellis.Config.Decode
import Trellis.Toml.Writer
/-!
# Saving configurations

A configuration is saved as a TOML document. TOML has no null, so a configuration with one in its
settings cannot be saved, and a log file that is not set is left out.
-/

namespace Trellis

namespace AppConfig

/-- The members of a saved configuration, in the order in which they are written. -/
def savedMembers (config : AppConfig) : List (String × Json) :=
  let logFile := config.logging.fileOutput.toList.map fun path => ("file_output", Json.string path)
  [ ("name", .string config.name),
    ("logging", .object <|
      [("level", .string config.logging.level), ("json_format", .bool config.logging.jsonFormat)] ++
        logFile),
    ("wiring", .object [("policy", .string config.policy.name)]),
    ("settings", .object config.settings) ]

/-- The document of a configuration. -/
def documentText? (config : AppConfig) : Option String :=
  (Toml.Value.ofMembers? config.savedMembers).map Toml.documentText

/-- The files after a configuration has been saved to a path from the root. -/
def saveTo (config : AppConfig) (path : String) (files : Files) : Except Error Files :=
  match config.documentText? with
  | none =>
    .error (.inConfigContext "Failed to serialize config to TOML" (.foreign "there is no null"))
  | some text =>
    match files.write? [] path text with
    | none => .error (.inIoContext "Failed to write config file" (.foreign "not a file in a directory"))
    | some files => .ok files

end AppConfig

end Trellis
