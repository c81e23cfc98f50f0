/-!
# Quoting in TOML

A string has four written forms: basic and literal, each on one line or on several. The writer takes
the first form of a fixed order that needs no escape but that of a tab; when there is none, it
escapes. Keys stand bare where they can.
-/

namespace Trellis.Toml

/-- What a text contains that some of the written forms cannot hold. -/
structure Needs where
  /-- The longest run of single quotes. -/
  singleQuotes : Nat
  /-- The longest run of double quotes. -/
  doubleQuotes : Nat
  backslash : Bool
  newline : Bool
  /-- A control character other than tab and newline. -/
  control : Bool
  deriving DecidableEq, Repr

/-- The length of the longest run of `mark`, where `run` of them stand before the text. -/
def longestRun (mark : Char) (run : Nat) : List Char → Nat
  | [] => run
  | c :: rest => if c = mark then longestRun mark (run + 1) rest else max run (longestRun mark 0 rest)

def isControl (c : Char) : Bool :=
  c.toNat < 0x20 || c.toNat == 0x7F

def Needs.of (text : List Char) : Needs where
  singleQuotes := longestRun '\'' 0 text
  doubleQuotes := longestRun '"' 0 text
  backslash := text.contains '\\'
  newline := text.contains '\n'
  control := text.any fun c => isControl c && c != '\t' && c != '\n'

/-- The written forms of a string. -/
inductive StringForm where
  | basic
  | literal
  | multilineBasic
  | multilineLiteral
  deriving DecidableEq, Repr

/-- The form a string is written in. -/
def Needs.stringForm (needs : Needs) : StringForm :=
  if !needs.control && !needs.backslash && needs.doubleQuotes == 0 && !needs.newline then .basic
  else if !needs.control && needs.singleQuotes == 0 && !needs.newline then .literal
  else if !needs.control && !needs.backslash && needs.doubleQuotes ≤ 2 then .multilineBasic
  else if !needs.control && needs.singleQuotes ≤ 2 then .multilineLiteral
  else if needs.newline then .multilineBasic
  else .basic

/-- Upper case hexadecimal digits, at least four. -/
def hex4 (n : Nat) : List Char :=
  let digits := (Nat.toDigits 16 n).map Char.toUpper
  List.replicate (4 - digits.length) '0' ++ digits

/-- The escaped form of a character, where it needs one. -/
def escape? (multiline : Bool) (c : Char) : Option (List Char) :=
  if c = '\x08' then some ['\\', 'b']
  else if c = '\t' then some ['\\', 't']
  else if c = '\n' then if multiline then none else some ['\\', 'n']
  else if c = '\x0c' then some ['\\', 'f']
  else if c = '\r' then some ['\\', 'r']
  else if c = '\\' then some ['\\', '\\']
  else if isControl c then some (['\\', 'u'] ++ hex4 c.toNat)
  else none

/-- The inside of a basic string. A double quote is escaped when more than `allowed` stand in a row,
`run` of them before the text; escaping starts a new run. -/
def basicChars (multiline : Bool) (allowed run : Nat) : List Char → List Char
  | [] => []
  | c :: rest =>
    if c = '"' then
      if allowed < run + 1 then ['\\', '"'] ++ basicChars multiline allowed 0 rest
      else '"' :: basicChars multiline allowed (run + 1) rest
    else (escape? multiline c).getD [c] ++ basicChars multiline allowed 0 rest

/-- The newline after the opening quotes of a string on several lines, when it contains one. -/
def leadingNewline (needs : Needs) : List Char :=
  if needs.newline then ['\n'] else []

/-- A string in its written form. -/
def stringText (text : String) : String :=
  let chars := text.toList
  let needs := Needs.of chars
  String.ofList <|
    match needs.stringForm with
    | .basic => ['"'] ++ basicChars false 0 0 chars ++ ['"']
    | .literal => ['\''] ++ chars ++ ['\'']
    | .multilineBasic =>
      let quotes := ['"', '"', '"']
      quotes ++ leadingNewline needs ++ basicChars true 2 0 chars ++ quotes
    | .multilineLiteral =>
      let quotes := ['\'', '\'', '\'']
      quotes ++ leadingNewline needs ++ chars ++ quotes

/-- A character of a bare key. -/
def isBareKeyChar (c : Char) : Bool :=
  c.isAlphanum || c == '_' || c == '-'

/-- A key in its written form: bare, basic, literal, or basic with escapes. -/
def keyText (key : String) : String :=
  let chars := key.toList
  let needs := Needs.of chars
  let plain := !needs.control && !needs.newline
  String.ofList <|
    if !chars.isEmpty && chars.all isBareKeyChar then chars
    else if plain && !needs.backslash && needs.doubleQuotes == 0 then
      ['"'] ++ basicChars false 0 0 chars ++ ['"']
    else if plain && needs.singleQuotes == 0 then ['\''] ++ chars ++ ['\'']
    else ['"'] ++ basicChars false 0 0 chars ++ ['"']

end Trellis.Toml
