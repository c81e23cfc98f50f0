import Trellis.Json.Printer
import Trellis.Text.Quoted
/-!
# Typed values from JSON

A decoder turns a value into a typed one or tells what it found and what it expected. Integers keep
within the range of their width, records may be given as objects or as lists of their fields, and a
choice is its name or an object with that name and nothing in it.
-/

namespace Trellis.Json

/-- Why a value could not be decoded. -/
inductive Mismatch where
  /-- A value of another type. -/
  | wrongType (found : Json) (expected : String)
  /-- A value of the right type outside what is allowed. -/
  | wrongValue (found : Json) (expected : String)
  /-- A list with more elements than a record has fields. -/
  | wrongLength (found : Nat)
  /-- A name that is none of the choices. -/
  | unknownChoice (found : String) (expected : List String)

/-- What kind of value stands there, with the value itself when it is short. -/
def describe : Json → String
  | .null => "null"
  | .bool b => "boolean `" ++ toString b ++ "`"
  | .number (.int n) => "integer `" ++ toString n ++ "`"
  | .number (.float x) => "floating point `" ++ numberText (.float x) ++ "`"
  | .string s => "string " ++ Text.quoted s
  | .array _ => "sequence"
  | .object _ => "map"

/-- The choices in a sentence: one, two with `or`, or a list. -/
def choiceText (choices : List String) : String :=
  let marked := choices.map fun choice => "`" ++ choice ++ "`"
  match marked with
  | [] => "there are no variants"
  | [only] => "expected " ++ only
  | [first, second] => "expected " ++ first ++ " or " ++ second
  | many => "expected one of " ++ ", ".intercalate many

def Mismatch.message : Mismatch → String
  | .wrongType found expected => "invalid type: " ++ found.describe ++ ", expected " ++ expected
  | .wrongValue found expected => "invalid value: " ++ found.describe ++ ", expected " ++ expected
  | .wrongLength found =>
    "invalid length " ++ toString found ++ ", expected fewer elements in array"
  | .unknownChoice found expected => "unknown variant `" ++ found ++ "`, " ++ choiceText expected

/-- A reading of values of one type. -/
abbrev Decoder (α : Type) := Json → Except Mismatch α

def decodeBool : Decoder Bool
  | .bool b => .ok b
  | other => .error (.wrongType other "a boolean")

def decodeString : Decoder String
  | .string s => .ok s
  | other => .error (.wrongType other "a string")

def decodePath : Decoder String
  | .string s => .ok s
  | other => .error (.wrongType other "path string")

/-- An integer between `least` and `greatest`; `typeName` tells the type that was expected. -/
def decodeIntIn (least greatest : Int) (typeName : String) : Decoder Int
  | .number (.int n) =>
    if least ≤ n ∧ n ≤ greatest then .ok n
    else .error (.wrongValue (.number (.int n)) typeName)
  | other => .error (.wrongType other typeName)

/-- An integer of `bits` bits without a sign. -/
def decodeUnsigned (bits : Nat) : Decoder Int :=
  decodeIntIn 0 (Nat.pow 2 bits - 1) ("u" ++ toString bits)

/-- An integer of `bits` bits with a sign. -/
def decodeSigned (bits : Nat) : Decoder Int :=
  decodeIntIn (-Nat.pow 2 (bits - 1)) (Nat.pow 2 (bits - 1) - 1) ("i" ++ toString bits)

def decodeAny : Decoder Json := .ok

/-- Null or a value. -/
def decodeOption {α : Type} (decode : Decoder α) : Decoder (Option α)
  | .null => .ok none
  | value => (decode value).map some

def decodeList {α : Type} (decode : Decoder α) : Decoder (List α)
  | .array items => items.mapM decode
  | other => .error (.wrongType other "a sequence")

def decodeDict {α : Type} (decode : Decoder α) : Decoder (Dict α)
  | .object members => do
    let decoded ← members.mapM fun (key, value) => do return (key, ← decode value)
    return Dict.ofList decoded
  | other => .error (.wrongType other "a map")

/-- One of some named choices. -/
def decodeChoice {α : Type} (choices : List (String × α)) : Decoder α := fun value => do
  let pick (name : String) : Except Mismatch α :=
    match choices.lookup name with
    | some choice => .ok choice
    | none => .error (.unknownChoice name (choices.map (·.1)))
  match value with
  | .string name => pick name
  | .object [(name, content)] =>
    let choice ← pick name
    match content with
    | .null => .ok choice
    | other => .error (.wrongType other "unit")
  | .object members => .error (.wrongValue (.object members) "map with a single key")
  | other => .error (.wrongType other "string or map")

/-- How to read one field into a record. -/
structure Field (ρ : Type) where
  name : String
  update : ρ → Json → Except Mismatch ρ

/-- How a record treats list elements beyond its fields. -/
inductive Surplus where
  | refused
  | ignored
  deriving DecidableEq, Repr

/-- A record: its fields are read over `base`, from an object by name in the object's order, or from
a list by position. Members that are no field are passed over. -/
def decodeRecord {ρ : Type} (typeName : String) (surplus : Surplus) (fields : List (Field ρ))
    (base : ρ) : Decoder ρ
  | .object members =>
    members.foldlM (fun record (key, value) =>
      match fields.find? (·.name == key) with
      | some field => field.update record value
      | none => .ok record) base
  | .array items => do
    let record ← (fields.zip items).foldlM (fun record (field, item) => field.update record item) base
    if surplus = .refused ∧ fields.length < items.length then .error (.wrongLength items.length)
    else .ok record
  | other => .error (.wrongType other ("struct " ++ typeName))

end Trellis.Json
