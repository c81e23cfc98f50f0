import Trellis.Config.Decode
/-!
# Types of settings

The types that a setting is read as when the reader is not a program but a request. A setting that is
read is told as JSON again, with null for one that is missing; a text that may be null tells apart
whether the setting is missing or null.
-/

namespace Trellis

inductive SettingType where
  /-- An integer of so many bits without sign. -/
  | unsigned (bits : Nat)
  /-- An integer of so many bits with a sign. -/
  | signed (bits : Nat)
  | bool
  | string
  | strings
  /-- Numbers of 32 bits by name. -/
  | counts
  | policy
  | json
  | optionalString
  deriving DecidableEq, Repr

namespace SettingType

def ofName? : String → Option SettingType
  | "u8" => some (.unsigned 8)
  | "u16" => some (.unsigned 16)
  | "u64" => some (.unsigned 64)
  | "i64" => some (.signed 64)
  | "bool" => some .bool
  | "string" => some .string
  | "strings" => some .strings
  | "counts" => some .counts
  | "policy" => some .policy
  | "json" => some .json
  | "optional_string" => some .optionalString
  | _ => none

/-- A setting, read with a decoder and told as JSON. -/
def readWith {α : Type} (decode : Json.Decoder α) (encode : α → Json) (config : AppConfig)
    (key : String) : Except Error Json := do
  return (← config.setting? decode key).elim .null encode

/-- A setting of a type. -/
def read (type : SettingType) (config : AppConfig) (key : String) : Except Error Json :=
  match type with
  | unsigned bits => readWith (Json.decodeUnsigned bits) .int config key
  | signed bits => readWith (Json.decodeSigned bits) .int config key
  | bool => readWith Json.decodeBool .bool config key
  | string => readWith Json.decodeString .string config key
  | strings => readWith (Json.decodeList Json.decodeString) .strings config key
  | counts =>
    readWith (Json.decodeDict (Json.decodeUnsigned 32))
      (fun counts => .object (counts.map fun (name, count) => (name, .int count))) config key
  | policy => readWith WiringPolicy.decode (fun policy => .string policy.name) config key
  | json => readWith Json.decodeAny id config key
  | optionalString => do
    match ← config.setting? (Json.decodeOption Json.decodeString) key with
    | none => return .object [("absent", .bool true)]
    | some value => return .object [("value", .optString value)]

end SettingType

end Trellis
