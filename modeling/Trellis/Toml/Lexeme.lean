import Trellis.Text.Digits
import Trellis.Toml.Quoting
/-!
# TOML lexemes

A document is cut into lexemes: strings with their escapes resolved, line ends, blanks, marks, and
the single characters of bare keys, numbers and dates, which only the grammar can put together.
Comments are no lexemes.

Scanning goes through the document character by character. A `Mode` holds what has to be known about
the text before: inside a string, that is the form it is written in and the characters read so far.
-/

namespace Trellis.Toml

/-- A piece of a document. -/
inductive Lexeme where
  /-- A character of a bare key, a number or a date. -/
  | bare (c : Char)
  | blank (c : Char)
  | newline
  /-- A string; keys may not be written on several lines. -/
  | text (s : String) (multiline : Bool)
  /-- One of `=`, `,`, `[`, `]`, `{` and `}`. -/
  | mark (c : Char)
  deriving DecidableEq, Repr

namespace StringForm

/-- The quote at both ends, which is tripled for the forms on several lines. -/
def quote : StringForm → Char
  | .basic | .multilineBasic => '"'
  | .literal | .multilineLiteral => '\''

def isMultiline : StringForm → Bool
  | .basic | .literal => false
  | .multilineBasic | .multilineLiteral => true

/-- Whether a backslash starts an escape. -/
def hasEscapes : StringForm → Bool
  | .basic | .multilineBasic => true
  | .literal | .multilineLiteral => false

/-- The form that a quote opens, alone or tripled. -/
def opened (quote : Char) (multiline : Bool) : StringForm :=
  if quote = '"' then if multiline then .multilineBasic else .basic
  else if multiline then .multilineLiteral else .literal

end StringForm

/-- What is passed over at a place inside a string on several lines. -/
inductive Skip where
  | nothing
  /-- One line end, right after the opening quotes. -/
  | newline
  /-- All blanks and line ends, after a backslash at the end of a line. -/
  | space
  deriving DecidableEq, Repr

/-- Where a scan stands. Inside a string, `done` are its characters so far, the last one first. -/
inductive Mode where
  | plain
  | comment
  | inside (form : StringForm) (skip : Skip) (done : List Char)
  /-- After a backslash. -/
  | escape (form : StringForm) (done : List Char)
  /-- In an escaped code point of which `left + 1` digits are missing. -/
  | codePoint (form : StringForm) (left value : Nat) (done : List Char)
  /-- After a backslash and blanks, which have to be followed by a line end. -/
  | lineEnd (form : StringForm) (done : List Char)
  /-- Before `left + 1` characters that have been taken into account. -/
  | over (left : Nat) (next : Mode)
  deriving Repr

def isBlankChar (c : Char) : Bool :=
  c = ' ' || c = '\t'

/-- The lexeme that is a single character. -/
def Lexeme.single? (c : Char) : Option Lexeme :=
  if isBlankChar c then some (.blank c)
  else if c = '\n' then some .newline
  else if ['=', ',', '[', ']', '\x7b', '\x7d'].contains c then some (.mark c)
  else if isBareKeyChar c || ['+', '.', ':'].contains c then some (.bare c)
  else none

/-- The character that a letter or a mark after a backslash stands for. -/
def unescape? : Char → Option Char
  | 'b' => some '\x08'
  | 't' => some '\t'
  | 'n' => some '\n'
  | 'f' => some '\x0c'
  | 'r' => some '\r'
  | '"' => some '"'
  | '\\' => some '\\'
  | _ => none

/-- The character with a code point; surrogates are none. -/
def charOf? (n : Nat) : Option Char :=
  if n.isValidChar then some (Char.ofNat n) else none

/-- How many times `mark` stands at the start of a text. -/
def runLength (mark : Char) (text : List Char) : Nat :=
  (text.takeWhile (· = mark)).length

/-- The string whose characters have been read, the last one first. -/
def finished (form : StringForm) (done : List Char) : Lexeme :=
  .text (String.ofList done.reverse) form.isMultiline

/-- The lexemes of a text. A carriage return only counts as part of a line end. Of a run of quotes
that ends a string on several lines, the last three of at most five close it. -/
def scan : Mode → List Char → Option (List Lexeme)
  | .plain, [] | .comment, [] => some []
  | _, [] => none
  | .plain, c :: rest =>
    if c = '#' then scan .comment rest
    else if c = '"' || c = '\'' then
      if runLength c rest < 2 then scan (.inside (.opened c false) .nothing []) rest
      else scan (.over 1 (.inside (.opened c true) .newline [])) rest
    else if c = '\r' && rest.head? = some '\n' then scan .plain rest
    else do return (← Lexeme.single? c) :: (← scan .plain rest)
  | .comment, c :: rest =>
    if c = '\n' then (.newline :: ·) <$> scan .plain rest
    else if c = '\r' && rest.head? = some '\n' then scan .comment rest
    else if isControl c && c ≠ '\t' then none
    else scan .comment rest
  | .inside form skip done, c :: rest =>
    if c = form.quote then
      if !form.isMultiline then (finished form done :: ·) <$> scan .plain rest
      else
        let run := min 5 (runLength c rest + 1)
        if run < 3 then scan (.inside form .nothing (c :: done)) rest
        else
          (finished form (List.replicate (run - 3) c ++ done) :: ·) <$>
            scan (.over (run - 2) .plain) rest
    else if c = '\\' && form.hasEscapes then scan (.escape form done) rest
    else if form.isMultiline && c = '\r' && rest.head? = some '\n' then
      scan (.inside form skip done) rest
    else if form.isMultiline && c = '\n' then
      match skip with
      | .nothing => scan (.inside form .nothing (c :: done)) rest
      | .newline => scan (.inside form .nothing done) rest
      | .space => scan (.inside form .space done) rest
    else if isBlankChar c && skip = .space then scan (.inside form .space done) rest
    else if isControl c && c ≠ '\t' then none
    else scan (.inside form .nothing (c :: done)) rest
  | .escape form done, c :: rest =>
    if c = 'u' then scan (.codePoint form 3 0 done) rest
    else if c = 'U' then scan (.codePoint form 7 0 done) rest
    else
      match unescape? c with
      | some meant => scan (.inside form .nothing (meant :: done)) rest
      | none =>
        if !form.isMultiline then none
        else if isBlankChar c then scan (.lineEnd form done) rest
        else if c = '\r' && rest.head? = some '\n' then scan (.lineEnd form done) rest
        else if c = '\n' then scan (.inside form .space done) rest
        else none
  | .lineEnd form done, c :: rest =>
    if isBlankChar c then scan (.lineEnd form done) rest
    else if c = '\r' && rest.head? = some '\n' then scan (.lineEnd form done) rest
    else if c = '\n' then scan (.inside form .space done) rest
    else none
  | .codePoint form left value done, c :: rest => do
    let value := value * 16 + (← Text.hexDigit? c)
    match left with
    | 0 => scan (.inside form .nothing ((← charOf? value) :: done)) rest
    | left + 1 => scan (.codePoint form left value done) rest
  | .over left next, _ :: rest =>
    match left with
    | 0 => scan next rest
    | left + 1 => scan (.over left next) rest

/-- The lexemes of a document. A byte order mark at its start says nothing. -/
def lexemes? (document : String) : Option (List Lexeme) :=
  match document.toList with
  | '\uFEFF' :: rest => scan .plain rest
  | text => scan .plain text

end Trellis.Toml
