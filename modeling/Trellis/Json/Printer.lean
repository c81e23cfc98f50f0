import Trellis.Decimal.Layout
import Trellis.Json.Basic
/-!
# Writing JSON text

The compact form has no blanks; the indented form puts each element and member on a line of its own,
two blanks deeper than its brackets, and leaves empty brackets closed.
-/

namespace Trellis.Json

/-- The text of a number; infinities and NaN, which JSON lacks, are null. -/
def numberText : Number → String
  | .int n => toString n
  | .float x => if x.isFinite then Decimal.finiteText .json x else "null"

/-- One character inside a string. -/
def escapedChar (c : Char) : List Char :=
  if c = '"' then ['\\', '"']
  else if c = '\\' then ['\\', '\\']
  else if c = '\n' then ['\\', 'n']
  else if c = '\r' then ['\\', 'r']
  else if c = '\t' then ['\\', 't']
  else if c = '\x08' then ['\\', 'b']
  else if c = '\x0c' then ['\\', 'f']
  else if c.toNat < 0x20 then
    let digits := Nat.toDigits 16 c.toNat
    ['\\', 'u'] ++ List.replicate (4 - digits.length) '0' ++ digits
  else [c]

/-- A string with its quotes. -/
def stringText (text : String) : String :=
  String.ofList ('"' :: (text.toList.flatMap escapedChar ++ ['"']))

mutual

/-- The compact text of a value. -/
def compact : Json → String
  | .null => "null"
  | .bool true => "true"
  | .bool false => "false"
  | .number n => numberText n
  | .string s => stringText s
  | .array items => "[" ++ ",".intercalate (compactItems items) ++ "]"
  | .object members => "\x7b" ++ ",".intercalate (compactMembers members) ++ "\x7d"

def compactItems : List Json → List String
  | [] => []
  | item :: items => compact item :: compactItems items

def compactMembers : List (String × Json) → List String
  | [] => []
  | (key, value) :: members => (stringText key ++ ":" ++ compact value) :: compactMembers members

end

/-- Lines between brackets: the opening one, the entries two blanks deeper, the closing one. -/
def bracketed (opening closing : String) (depth : Nat) (entries : List String) : String :=
  if entries.isEmpty then opening ++ closing
  else
    let margin (depth : Nat) := "\n" ++ String.ofList (List.replicate (2 * depth) ' ')
    opening ++ margin (depth + 1) ++ ("," ++ margin (depth + 1)).intercalate entries ++
      margin depth ++ closing

mutual

/-- The indented text of a value that stands at `depth`. -/
def indentedAt (depth : Nat) : Json → String
  | .null => "null"
  | .bool true => "true"
  | .bool false => "false"
  | .number n => numberText n
  | .string s => stringText s
  | .array items => bracketed "[" "]" depth (indentedItems (depth + 1) items)
  | .object members => bracketed "\x7b" "\x7d" depth (indentedMembers (depth + 1) members)

def indentedItems (depth : Nat) : List Json → List String
  | [] => []
  | item :: items => indentedAt depth item :: indentedItems depth items

def indentedMembers (depth : Nat) : List (String × Json) → List String
  | [] => []
  | (key, value) :: members =>
    (stringText key ++ ": " ++ indentedAt depth value) :: indentedMembers depth members

end

/-- The indented text of a value. -/
def indented (value : Json) : String :=
  indentedAt 0 value

end Trellis.Json
