import Trellis.Toml.Lexeme
import Trellis.Toml.Node
import Trellis.Toml.Scalar
/-!
# Reading TOML documents

A document is a list of statements, a line end after each: a key with a value, the header of a table,
or the header of an element of a list of tables. Keys before the first header belong to the document
itself, keys after a header to its table.

Containers in a value nest at most `nestingLimit` deep, and a key has at most as many parts.
-/

namespace Trellis.Toml

/-- Reads something from the front of some lexemes. -/
abbrev Reader (α : Type) := List Lexeme → Option (α × List Lexeme)

/-- How deep containers nest in a value, and how many parts a key has. -/
def nestingLimit : Nat := 79

def Lexeme.isBlank : Lexeme → Bool
  | .blank _ => true
  | _ => false

/-- Blanks and line ends. -/
def Lexeme.isSpace : Lexeme → Bool
  | .blank _ | .newline => true
  | _ => false

/-- The characters at the front that are in a class, as far as they follow each other. -/
def bareRun (inClass : Char → Bool) : List Lexeme → List Char × List Lexeme
  | .bare c :: rest =>
    if inClass c then
      let (run, rest) := bareRun inClass rest
      (c :: run, rest)
    else ([], .bare c :: rest)
  | rest => ([], rest)

/-- The lexemes after an expected mark. -/
def afterMark? (expected : Char) : List Lexeme → Option (List Lexeme)
  | .mark c :: rest => if c = expected then some rest else none
  | _ => none

/-! ## Keys -/

/-- One part of a key. -/
def readKeyPart : Reader String
  | .text s false :: rest => some (s, rest)
  | lexemes =>
    match bareRun isBareKeyChar lexemes with
    | ([], _) => none
    | (run, rest) => some (String.ofList run, rest)

/-- A key of at most `limit` parts: what leads to its last part, and that part. Blanks may stand
around each part. -/
def readKeyUpTo : Nat → Reader (List String × String)
  | 0, _ => none
  | limit + 1, lexemes => do
    let (part, rest) ← readKeyPart (lexemes.dropWhile Lexeme.isBlank)
    match rest.dropWhile Lexeme.isBlank with
    | .bare '.' :: rest => do
      let ((path, last), rest) ← readKeyUpTo limit rest
      return ((part :: path, last), rest)
    | rest => return (([], part), rest)

def readKey : Reader (List String × String) :=
  readKeyUpTo nestingLimit

/-! ## Values -/

/-- A run of characters that is a value. A blank may stand in it between a day and a time of day. -/
def readScalar : Reader Value := fun lexemes => do
  let (run, rest) := bareRun (fun _ => true) lexemes
  let (more, after) :=
    match rest with
    | .blank ' ' :: rest => bareRun (fun _ => true) rest
    | rest => ([], rest)
  match readDay run, more with
  | some (_, []), _ :: _ => return (← scalar? (run ++ ' ' :: more), after)
  | _, _ => return (← scalar? run, rest)

/-- The items of an array, from behind its opening bracket or a comma. Every step reads a comma, so
`steps` need not exceed the number of lexemes. -/
def readItems (readItem : Reader Value) : (steps : Nat) → Reader (List Value)
  | 0, _ => none
  | steps + 1, lexemes =>
    match lexemes.dropWhile Lexeme.isSpace with
    | .mark ']' :: rest => some ([], rest)
    | lexemes => do
      let (item, rest) ← readItem lexemes
      match rest.dropWhile Lexeme.isSpace with
      | .mark ',' :: rest => do
        let (items, rest) ← readItems readItem steps rest
        return (item :: items, rest)
      | .mark ']' :: rest => return ([item], rest)
      | _ => none

/-- A key and its value. -/
def readEntry (readItem : Reader Value) : Reader ((List String × String) × Value) := fun lexemes => do
  let (key, rest) ← readKey lexemes
  let (value, rest) ← readItem ((← afterMark? '=' rest).dropWhile Lexeme.isBlank)
  return ((key, value), rest)

/-- The entries of a table in braces, added to those before; no comma may follow the last one. -/
def readEntries (readItem : Reader Value) : (steps : Nat) → Nodes → Reader Nodes
  | 0, _, _ => none
  | steps + 1, entries, lexemes => do
    let (((path, key), value), rest) ← readEntry readItem lexemes
    let entries ← Nodes.assign path key value .explicit entries
    match rest.dropWhile Lexeme.isBlank with
    | .mark ',' :: rest => readEntries readItem steps entries rest
    | .mark '\x7d' :: rest => return (entries, rest)
    | _ => none

/-- A value with containers at most `depth` deep. -/
def readValue : (depth : Nat) → Reader Value
  | _, .text s _ :: rest => some (.string s, rest)
  | depth + 1, .mark '[' :: rest => do
    let (items, rest) ← readItems (readValue depth) (rest.length + 1) rest
    return (.array items, rest)
  | depth + 1, .mark '\x7b' :: rest =>
    match rest.dropWhile Lexeme.isBlank with
    | .mark '\x7d' :: rest => some (.table [], rest)
    | rest => do
      let (entries, rest) ← readEntries (readValue depth) (rest.length + 1) [] rest
      return (.table (entriesToValues entries), rest)
  | _, lexemes => readScalar lexemes

/-! ## Statements -/

/-- What a line of a document says. -/
inductive Statement where
  | entry (path : List String) (key : String) (value : Value)
  | table (path : List String) (key : String)
  | element (path : List String) (key : String)

/-- The lexemes after the end of a line. -/
def afterLine? (lexemes : List Lexeme) : Option (List Lexeme) :=
  match lexemes.dropWhile Lexeme.isBlank with
  | [] => some []
  | .newline :: rest => some rest
  | _ => none

/-- A statement with the end of its line. -/
def readStatement : Reader Statement
  | .mark '[' :: .mark '[' :: rest => do
    let ((path, key), rest) ← readKey rest
    let rest ← afterMark? ']' (← afterMark? ']' rest)
    return (.element path key, ← afterLine? rest)
  | .mark '[' :: rest => do
    let ((path, key), rest) ← readKey rest
    return (.table path key, ← afterLine? (← afterMark? ']' rest))
  | lexemes => do
    let (((path, key), value), rest) ← readEntry (readValue nestingLimit) lexemes
    return (.entry path key value, ← afterLine? rest)

/-- The statements of a document. Every step reads a statement, so `steps` need not exceed the number
of lexemes. -/
def readStatements : (steps : Nat) → List Lexeme → Option (List Statement)
  | 0, _ => none
  | steps + 1, lexemes =>
    match lexemes.dropWhile Lexeme.isSpace with
    | [] => some []
    | lexemes => do
      let (statement, rest) ← readStatement lexemes
      return statement :: (← readStatements steps rest)

/-- A document so far: its entries, and the path of the table whose header came last. -/
structure Draft where
  root : Nodes
  header : List String

/-- What a statement makes of a document. -/
def Draft.add (draft : Draft) : Statement → Option Draft
  | .entry path key value => do
    let root ← draft.root.changeBelow draft.header (Nodes.assign path key value)
    return { draft with root }
  | .table path key => return ⟨← draft.root.openTable path key, path ++ [key]⟩
  | .element path key => return ⟨← draft.root.openElement path key, path ++ [key]⟩

/-- The entries of a document; none when it is not well-formed. -/
def read? (document : String) : Option (List (String × Value)) := do
  let lexemes ← lexemes? document
  let statements ← readStatements (lexemes.length + 1) lexemes
  let draft ← statements.foldlM Draft.add ⟨[], []⟩
  return entriesToValues draft.root

end Trellis.Toml
