import Trellis.Json.Basic
/-!
# TOML values

The data of a TOML document, and its passage from and to JSON: JSON has no dates and TOML has no
null.
-/

namespace Trellis.Toml

/-- A TOML value. A date or time keeps its normal text. -/
inductive Value where
  | string (s : String)
  | integer (n : Int)
  | float (x : Float)
  | boolean (b : Bool)
  | datetime (text : String)
  | array (items : List Value)
  | table (entries : List (String × Value))
  deriving Repr

instance : Inhabited Value := ⟨.boolean false⟩

namespace Value

/-- The member under which a date or time stands in JSON. -/
def datetimeKey : String := "$__toml_private_datetime"

mutual

/-- The value as JSON, tables in the order of their keys. -/
def toJson : Value → Json
  | .string s => .string s
  | .integer n => .int n
  | .float x => .float x
  | .boolean b => .bool b
  | .datetime text => .object [(datetimeKey, .string text)]
  | .array items => .array (itemsToJson items)
  | .table entries => .ofMembers (entriesToJson entries)

def itemsToJson : List Value → List Json
  | [] => []
  | item :: items => toJson item :: itemsToJson items

def entriesToJson : List (String × Value) → List (String × Json)
  | [] => []
  | (key, value) :: entries => (key, toJson value) :: entriesToJson entries

end

mutual

/-- A JSON value as TOML; none when there is a null in it. -/
def ofJson? : Json → Option Value
  | .null => none
  | .bool b => some (.boolean b)
  | .number (.int n) => some (.integer n)
  | .number (.float x) => some (.float x)
  | .string s => some (.string s)
  | .array items => (ofItems? items).map .array
  | .object members => (ofMembers? members).map .table

def ofItems? : List Json → Option (List Value)
  | [] => some []
  | item :: items => do return (← ofJson? item) :: (← ofItems? items)

def ofMembers? : List (String × Json) → Option (List (String × Value))
  | [] => some []
  | (key, value) :: members => do return (key, ← ofJson? value) :: (← ofMembers? members)

end

end Value

end Trellis.Toml
