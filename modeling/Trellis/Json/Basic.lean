import Trellis.Dict
/-!
# JSON values

Numbers keep apart what was written as an integer and what was written with a point or an exponent.
The members of an object stand in the order in which they are written out; `Json.ofMembers` sorts
them by key, as every reader of this library does.
-/

namespace Trellis

/-- A JSON number. -/
inductive Number where
  | int (n : Int)
  | float (x : Float)
  deriving Repr

/-- Equal numbers are of the same kind; floats compare as IEEE numbers do. -/
instance : BEq Number where
  beq
    | .int a, .int b => a == b
    | .float a, .float b => a == b
    | _, _ => false

/-- A JSON value. -/
inductive Json where
  | null
  | bool (b : Bool)
  | number (n : Number)
  | string (s : String)
  | array (items : List Json)
  | object (members : List (String × Json))
  deriving Repr

instance : Inhabited Json := ⟨.null⟩

namespace Json

def int (n : Int) : Json := .number (.int n)

def nat (n : Nat) : Json := .number (.int n)

def float (x : Float) : Json := .number (.float x)

/-- The array of some texts. -/
def strings (texts : List String) : Json := .array (texts.map .string)

/-- A text, or null when there is none. -/
def optString (text : Option String) : Json :=
  match text with
  | some s => .string s
  | none => .null

/-- An object with its members sorted by key; of two with the same key the later one stays. -/
def ofMembers (members : List (String × Json)) : Json :=
  .object (Dict.ofList members)

mutual

/-- The value with the members of every object in it sorted by key. -/
def sorted : Json → Json
  | .array items => .array (sortedItems items)
  | .object members => .ofMembers (sortedMembers members)
  | other => other

def sortedItems : List Json → List Json
  | [] => []
  | item :: items => sorted item :: sortedItems items

def sortedMembers : List (String × Json) → List (String × Json)
  | [] => []
  | (key, value) :: members => (key, sorted value) :: sortedMembers members

end

mutual

/-- Equality of values, member by member in order. -/
def eqv : Json → Json → Bool
  | .null, .null => true
  | .bool a, .bool b => a == b
  | .number a, .number b => a == b
  | .string a, .string b => a == b
  | .array a, .array b => eqvItems a b
  | .object a, .object b => eqvMembers a b
  | _, _ => false

def eqvItems : List Json → List Json → Bool
  | [], [] => true
  | a :: as, b :: bs => eqv a b && eqvItems as bs
  | _, _ => false

def eqvMembers : List (String × Json) → List (String × Json) → Bool
  | [], [] => true
  | (k, a) :: as, (l, b) :: bs => k == l && eqv a b && eqvMembers as bs
  | _, _ => false

end

instance : BEq Json := ⟨eqv⟩

/-- The member of an object; none for other values too. -/
def field? (name : String) : Json → Option Json
  | .object members => members.lookup name
  | _ => none

end Json

end Trellis
