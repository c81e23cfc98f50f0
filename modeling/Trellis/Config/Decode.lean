import Trellis.Config.Basic
/-!
# Configurations as JSON

A configuration is read from JSON field by field over the defaults, and written with every field.
-/

namespace Trellis

open Json

/-- The choices of a wiring policy. -/
def WiringPolicy.decode : Decoder WiringPolicy :=
  decodeChoice [("best_effort", .bestEffort), ("strict", .strict)]

def LoggingConfig.decodeWith (surplus : Surplus) : Decoder LoggingConfig :=
  decodeRecord "LoggingConfig" surplus
    [ ⟨"level", fun record value => return { record with level := ← decodeString value }⟩,
      ⟨"json_format", fun record value => return { record with jsonFormat := ← decodeBool value }⟩,
      ⟨"file_output", fun record value =>
        return { record with fileOutput := ← decodeOption decodePath value }⟩ ]
    {}

/-- The `wiring` part, which holds only the policy. -/
def WiringPolicy.decodePart (surplus : Surplus) : Decoder WiringPolicy :=
  decodeRecord "WiringConfig" surplus [⟨"policy", fun _ value => WiringPolicy.decode value⟩]
    .bestEffort

mutual

/-- A value as a setting keeps it: infinities and NaN are null. -/
def Json.finite : Json → Json
  | .number (.float x) => if x.isFinite then .number (.float x) else .null
  | .array items => .array (finiteItems items)
  | .object members => .object (finiteMembers members)
  | other => other

def Json.finiteItems : List Json → List Json
  | [] => []
  | item :: items => Json.finite item :: finiteItems items

def Json.finiteMembers : List (String × Json) → List (String × Json)
  | [] => []
  | (key, value) :: members => (key, Json.finite value) :: finiteMembers members

end

def AppConfig.decodeWith (surplus : Surplus) : Decoder AppConfig :=
  decodeRecord "AppConfig" surplus
    [ ⟨"name", fun record value => return { record with name := ← decodeString value }⟩,
      ⟨"logging", fun record value =>
        return { record with logging := ← LoggingConfig.decodeWith surplus value }⟩,
      ⟨"wiring", fun record value =>
        return { record with policy := ← WiringPolicy.decodePart surplus value }⟩,
      ⟨"settings", fun record value =>
        return { record with settings := ← decodeDict (fun v => .ok v.finite) value }⟩ ]
    {}

/-- A configuration from JSON: fields may be missing, and a list may not have more elements than
there are fields. -/
def AppConfig.decode : Decoder AppConfig :=
  AppConfig.decodeWith .refused

def LoggingConfig.decode : Decoder LoggingConfig :=
  LoggingConfig.decodeWith .refused

def LoggingConfig.toJson (logging : LoggingConfig) : Json :=
  .object
    [ ("level", .string logging.level),
      ("json_format", .bool logging.jsonFormat),
      ("file_output", .optString logging.fileOutput) ]

/-- A configuration with every field. -/
def AppConfig.toJson (config : AppConfig) : Json :=
  .object
    [ ("name", .string config.name),
      ("logging", config.logging.toJson),
      ("wiring", .object [("policy", .string config.policy.name)]),
      ("settings", .object config.settings) ]

end Trellis
