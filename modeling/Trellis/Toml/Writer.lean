import Trellis.Decimal.Layout
import Trellis.Toml.Quoting
import Trellis.Toml.Value
/-!
# Writing TOML documents

A table is written as its plain entries followed by its sections: an entry that is a table becomes a
section of its own, a list of nothing but tables a section for each, every other value stays in the
table's body. A section with nothing but subsections has no header.

Lists of two and more elements are written over several lines.
-/

namespace Trellis.Toml

/-- The text of a float. -/
def floatText (x : Float) : String :=
  if x.isNaN then if x.toBits ≥ 0x8000000000000000 then "-nan" else "nan"
  else if x.isInf then if x < 0.0 then "-inf" else "inf"
  else Decimal.finiteText .positional x

mutual

/-- A value as it stands behind its key. -/
def valueText : Value → String
  | .string s => stringText s
  | .integer n => toString n
  | .float x => floatText x
  | .boolean b => toString b
  | .datetime text => text
  | .array [] => "[]"
  | .array [item] => "[" ++ valueText item ++ "]"
  | .array items => "[\n" ++ String.join (itemLines items) ++ "]"
  | .table [] => "\x7b\x7d"
  | .table entries => "\x7b " ++ ", ".intercalate (entryTexts entries) ++ " \x7d"

/-- The lines of a list, an element each. -/
def itemLines : List Value → List String
  | [] => []
  | item :: items => ("    " ++ valueText item ++ ",\n") :: itemLines items

def entryTexts : List (String × Value) → List String
  | [] => []
  | (key, value) :: entries => (keyText key ++ " = " ++ valueText value) :: entryTexts entries

end

def Value.isTable : Value → Bool
  | .table _ => true
  | _ => false

/-- Whether an entry is written as sections rather than in the body of its table. -/
def Value.isSection : Value → Bool
  | .table _ => true
  | .array items => !items.isEmpty && items.all Value.isTable
  | _ => false

/-- The entries that stay in a table's body, a line each. -/
def bodyText (entries : List (String × Value)) : String :=
  String.join <| (entries.filter fun entry => !entry.2.isSection).map fun (key, value) =>
    keyText key ++ " = " ++ valueText value ++ "\n"

def headerText (opening closing : String) (path : List String) : String :=
  opening ++ ".".intercalate (path.map keyText) ++ closing ++ "\n"

/-- The section of a table: its header, unless only its subsections say something, and its body. -/
def sectionText (path : List String) (entries : List (String × Value)) : List String :=
  let body := bodyText entries
  let onlySections := body.isEmpty && entries.any fun entry => entry.2.isSection
  if onlySections then [] else [headerText "[" "]" path ++ body]

mutual

/-- The sections below a table, in the order of its entries. -/
def sections (path : List String) : List (String × Value) → List String
  | [] => []
  | (key, value) :: entries => entrySections (path ++ [key]) value ++ sections path entries

/-- The sections of one entry. -/
def entrySections (path : List String) : Value → List String
  | .table entries => sectionText path entries ++ sections path entries
  | .array items =>
    if (Value.array items).isSection then elementSections path items else []
  | _ => []

/-- The sections of a list of tables. -/
def elementSections (path : List String) : List Value → List String
  | [] => []
  | .table entries :: items =>
    (headerText "[[" "]]" path ++ bodyText entries) :: sections path entries ++
      elementSections path items
  | _ :: items => elementSections path items

end

/-- The text of a document: the root's body and all sections, with a blank line between them. -/
def documentText (entries : List (String × Value)) : String :=
  let root := bodyText entries
  let parts := if root.isEmpty then sections [] entries else root :: sections [] entries
  "\n".intercalate parts

end Trellis.Toml
