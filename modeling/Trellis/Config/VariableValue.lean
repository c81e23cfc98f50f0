import Trellis.Decimal.Nearest
import Trellis.Json.Basic
import Trellis.Text.Blank
import Trellis.Text.Search
import Trellis.Toml.Lexeme
/-!
# Values of environment variables

The text of a variable is a value: a boolean, a number, a quoted text, a single character in
apostrophes, a list in brackets or a dictionary in braces. Any other text stands for itself, and so
does the whole text when something is left over behind a value.
-/

namespace Trellis.VariableValue

/-- Reads something from the front of a text. -/
abbrev Reader (α : Type) := List Char → Option (α × List Char)

/-- A character that ends a bare word. -/
def isSeparator (c : Char) : Bool :=
  [',', '\x7b', '\x7d', '[', ']'].contains c

/-- ASCII white space, which may stand around a value and around the key of a dictionary's item. -/
def isBlankChar (c : Char) : Bool :=
  [' ', '\t', '\n', '\x0c', '\r'].contains c

def skipBlanks (text : List Char) : List Char :=
  text.dropWhile isBlankChar

/-! ## Words -/

/-- The digits of a number without sign; at least one. -/
def natural? (digits : List Char) : Option Nat :=
  if digits.isEmpty then none else Text.number? 10 digits

/-- An integer of 64 bits, which without a minus may use all of them. -/
def integer? (word : List Char) : Option Int := do
  let (negative, digits) := Text.splitSign word
  let n ← natural? digits
  if n ≤ (if negative then 0x8000000000000000 else 0xFFFFFFFFFFFFFFFF) then some (Text.signed negative n) else none

/-- A float with digits before or after its point, and an exponent if there is one. -/
def float? (word : List Char) : Option Float := do
  let (negative, text) := Text.splitSign word
  let (mantissa, exponent) ←
    match Text.cutAt (fun c => c = 'e' || c = 'E') text with
    | some (mantissa, exponent) =>
      let (downward, digits) := Text.splitSign exponent
      pure (mantissa, Text.signed downward (← natural? digits))
    | none => pure (text, 0)
  let (whole, fraction) := (Text.cutAt (· = '.') mantissa).getD (mantissa, [])
  if whole.isEmpty && fraction.isEmpty then none
  return (← Decimal.ofDigits? whole fraction exponent).nearest negative

/-- The value of a bare word. Only with a point in it can it be a float. -/
def ofWord (word : List Char) : Json :=
  let float := if word.contains '.' then float? word else none
  match float, integer? word with
  | some x, _ => .float x
  | none, some n => .int n
  | none, none => .string (String.ofList word)

/-! ## Quotes -/

/-- The inside of a quoted text, escapes and all, and the text after its closing quote. -/
def quotedPart : Reader (List Char)
  | [] => none
  | '"' :: rest => some ([], rest)
  | '\\' :: c :: rest => (quotedPart rest).map fun (part, rest) => ('\\' :: c :: part, rest)
  | c :: rest => (quotedPart rest).map fun (part, rest) => (c :: part, rest)

/-- A quoted text after its opening quote. It is escaped like a TOML string. -/
def readQuoted : Reader String := fun text => do
  let (part, rest) ← quotedPart text
  match Toml.scan (.inside .basic .nothing []) (part ++ ['"']) with
  | some [.text s _] => some (s, rest)
  | _ => none

/-! ## Collections -/

/-- The items of a collection after its opening mark or a comma. Every step reads a comma, so `steps`
need not exceed the length of the text. -/
def readItems {α : Type} (close : Char) (readItem : Reader α) : (steps : Nat) → Reader (List α)
  | 0, _ => none
  | steps + 1, text =>
    match Text.after? close text with
    | some rest => some ([], rest)
    | none => do
      let (item, rest) ← readItem text
      match Text.after? ',' rest with
      | some rest => do
        let (items, rest) ← readItems close readItem steps rest
        return (item :: items, rest)
      | none => return ([item], ← Text.after? close rest)

/-- The key of a dictionary's item: quoted, or a bare word of letters, digits, `_` and `-`. -/
def readKey : Reader String
  | '"' :: rest => readQuoted rest
  | text =>
    let word := text.takeWhile Toml.isBareKeyChar
    if word.isEmpty then none
    else some (String.ofList word, text.dropWhile Toml.isBareKeyChar)

/-- An item of a dictionary. -/
def readEntry (readItem : Reader Json) : Reader (String × Json) := fun text => do
  let (key, rest) ← readKey (skipBlanks text)
  let (value, rest) ← readItem (← Text.after? '=' (skipBlanks rest))
  return ((key, value), rest)

/-- A value before the blanks behind it, with collections at most `depth` deep. -/
def readBare : (depth : Nat) → Reader Json
  | _, 't' :: 'r' :: 'u' :: 'e' :: rest => some (.bool true, rest)
  | _, 'f' :: 'a' :: 'l' :: 's' :: 'e' :: rest => some (.bool false, rest)
  | depth + 1, '\x7b' :: rest => do
    let item := readEntry fun text =>
      (readBare depth (skipBlanks text)).map fun (value, rest) => (value, skipBlanks rest)
    let (entries, rest) ← readItems '\x7d' item (rest.length + 1) rest
    return (.ofMembers entries, rest)
  | depth + 1, '[' :: rest => do
    let item := fun text =>
      (readBare depth (skipBlanks text)).map fun (value, rest) => (value, skipBlanks rest)
    let (items, rest) ← readItems ']' item (rest.length + 1) rest
    return (.array items, rest)
  | _, '"' :: rest => (readQuoted rest).map fun (s, rest) => (.string s, rest)
  | _, '\'' :: rest =>
    match rest with
    | c :: '\'' :: rest => some (.string (String.singleton c), rest)
    | _ => none
  | _, text =>
    let word := text.takeWhile (!isSeparator ·)
    some (ofWord (Text.trim word), text.dropWhile (!isSeparator ·))

/-- The value of a variable's text. -/
def parse (text : String) : Json :=
  let chars := text.toList
  match readBare (chars.length + 1) (skipBlanks chars) with
  | some (value, rest) => if (skipBlanks rest).isEmpty then value else .string text
  | none => .string text

end Trellis.VariableValue
