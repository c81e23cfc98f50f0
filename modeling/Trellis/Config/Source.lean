import Trellis.Config.Decode
import Trellis.Config.VariableValue
import Trellis.Toml.Reader
/-!
# Sources of configuration

A source is a tree of settings: the defaults, a configuration file, or the environment. Sources are
laid over each other: where both have a table the tables are united, and everywhere else the later
source wins.

In a configuration file a table may carry a value: it then stands for that value alone.
-/

namespace Trellis

/-- Settings from one place, in the order of their keys at every level. -/
abbrev Source := Dict Json

mutual

/-- `upper` laid over a value. -/
def Json.overlay (lower upper : Json) : Json :=
  match upper, lower with
  | .object members, .object base => .object (Source.overlayMembers base members)
  | upper, _ => upper

/-- Members written over a table one by one, each laid over what stands under its key. -/
def Source.overlayMembers (base : Source) : List (String × Json) → Source
  | [] => base
  | (key, value) :: members =>
    Source.overlayMembers
      (base.set key <|
        match base.get? key with
        | some lower => Json.overlay lower value
        | none => value)
      members

end

namespace Source

/-- A source laid over an earlier one. -/
def overlay (lower upper : Source) : Source :=
  overlayMembers lower upper

/-- All sources in one, the later ones over the earlier ones. -/
def merge (sources : List Source) : Source :=
  sources.foldl overlay []

/-- The default configuration. -/
def defaults : Source :=
  match (AppConfig.toJson {}).sorted with
  | .object members => members
  | _ => []

end Source

/-! ## Configuration files -/

/-- The member that carries the value of its table. -/
def carrierKey : String := "___figment_value_value"

/-- The member that numbers the source of a value. Sources are numbered when they are read, never by
what they hold. -/
def originKey : String := "___figment_value_id"

mutual

/-- What a value of a configuration file stands for: a table with a carrier stands for the carried
value, all else for itself, and so do the values inside. None when a table tells the origin of its
value. -/
def Json.carried? : Json → Option Json
  | .array items => (Source.carriedItems? items).map .array
  | .object members => do
    let members ← Source.carriedMembers? members
    if (members.lookup originKey).isSome then none
    else some ((members.lookup carrierKey).getD (.object members))
  | other => some other

def Source.carriedItems? : List Json → Option (List Json)
  | [] => some []
  | item :: items => do
    return (← Json.carried? item) :: (← Source.carriedItems? items)

/-- Members whose own keys are as good as any other. -/
def Source.carriedMembers? : List (String × Json) → Option (List (String × Json))
  | [] => some []
  | (key, value) :: members => do
    return (key, ← Json.carried? value) :: (← Source.carriedMembers? members)

end

/-- The settings of a TOML document. The document itself is no value, so it carries none. -/
def Source.ofToml? (document : String) : Option Source := do
  let entries ← Toml.read? document
  return Dict.ofList (← Source.carriedMembers? (Toml.Value.entriesToJson entries))

/-! ## The environment -/

/-- The environment variables that configure an application: how their names start, in any case, and
what separates the parts of a path in the rest. -/
structure VariableNames where
  start : String
  separator : String

/-- The text after a start that may be written in other ASCII cases. -/
def afterStart? (start text : List Char) : Option (List Char) :=
  let lowered := List.map Char.toLower
  if (lowered start).isPrefixOf (lowered text) then some (text.drop start.length) else none

/-- A text with every occurrence of `separator` replaced by a point, from left to right. `skip` counts
the characters of an occurrence that has been replaced. -/
def pointSeparated (separator : List Char) : (skip : Nat) → List Char → List Char
  | _, [] => []
  | skip + 1, _ :: rest => pointSeparated separator skip rest
  | 0, c :: rest =>
    if !separator.isEmpty && separator.isPrefixOf (c :: rest) then
      '.' :: pointSeparated separator (separator.length - 1) rest
    else c :: pointSeparated separator 0 rest

/-- The path that a variable's name stands for, in lower case; none for other variables. -/
def VariableNames.path? (names : VariableNames) (name : String) : Option (List String) := do
  let rest ← afterStart? names.start.toList (Text.trim name.toList)
  let parts := Text.splitAt '.' (Text.trim (pointSeparated names.separator.toList 0 rest))
  if parts.any (·.isEmpty) then none
  else some (parts.map fun part => String.ofList (part.map Char.toLower))

/-- A value at the end of a path. -/
def Json.nest (path : List String) (value : Json) : Json :=
  path.foldr (fun key inner => .object [(key, inner)]) value

/-- The settings that one variable makes. -/
def Source.ofVariable (names : VariableNames) (name text : String) : Source :=
  match names.path? name with
  | some (key :: path) => [(key, .nest path (VariableValue.parse text))]
  | _ => []

/-- The settings of the environment; of variables for the same path the later one wins. -/
def Source.ofVariables (names : VariableNames) (environment : List (String × String)) : Source :=
  merge (environment.map fun (name, text) => ofVariable names name text)

end Trellis
