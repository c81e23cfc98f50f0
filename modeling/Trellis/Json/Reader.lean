import Trellis.Json.StringReader
/-!
# Reading JSON text

The whole of a text must be one value with blanks around it. Lists and objects nest at most 127
deep, which bounds the recursion; the elements of one list are bounded by the length of the text.
-/

namespace Trellis.Json

def isSpace (c : Char) : Bool :=
  c == ' ' || c == '\n' || c == '\t' || c == '\r'

def skipSpace (text : List Char) : List Char :=
  text.dropWhile isSpace

/-- How deep lists and objects may nest. -/
def nestingLimit : Nat := 127

/-- The remaining letters of a name such as `null`. -/
def readName (value : Json) : (letters text : List Char) → Except Fault (Json × List Char)
  | [], rest => .ok (value, rest)
  | _ :: _, [] => .error (.here .endInValue [])
  | letter :: letters, c :: rest =>
    if c = letter then readName value letters rest
    else .error (.next .expectedIdent (c :: rest))

/-- The elements of a list after its bracket, each read by `item`. -/
def readElements (item : List Char → Except Fault (Json × List Char)) (first : Bool) (steps : Nat) (text : List Char) :
    Except Fault (List Json × List Char) :=
  match steps, skipSpace text with
  | _, [] => .error (.here .endInList [])
  | _, ']' :: rest => .ok ([], rest)
  | 0, rest => .error (.next .expectedListCommaOrEnd rest)
  | steps + 1, c :: rest => do
    let start ←
      if first then pure (c :: rest)
      else if c = ',' then
        match skipSpace rest with
        | [] => .error (.here .endInValue [])
        | ']' :: after => .error (.next .trailingComma (']' :: after))
        | next => pure next
      else .error (.next .expectedListCommaOrEnd (c :: rest))
    let (element, rest) ← item start
    let (others, rest) ← readElements item false steps rest
    .ok (element :: others, rest)

/-- The text after the colon of a member. -/
def afterColon (text : List Char) : Except Fault (List Char) :=
  match skipSpace text with
  | [] => .error (.here .endInObject [])
  | ':' :: rest => .ok rest
  | rest => .error (.next .expectedColon rest)

/-- The members of an object after its brace, each value read by `item`. -/
def readMembers (item : List Char → Except Fault (Json × List Char)) (first : Bool) (steps : Nat) (text : List Char) :
    Except Fault (List (String × Json) × List Char) :=
  match steps, skipSpace text with
  | _, [] => .error (.here .endInObject [])
  | _, '\x7d' :: rest => .ok ([], rest)
  | 0, rest => .error (.next .expectedObjectCommaOrEnd rest)
  | steps + 1, c :: rest => do
    let start ←
      if first then
        if c = '"' then pure rest else .error (.next .keyNotString (c :: rest))
      else if c = ',' then
        match skipSpace rest with
        | [] => .error (.here .endInValue [])
        | '"' :: after => pure after
        | '\x7d' :: after => .error (.next .trailingComma ('\x7d' :: after))
        | other => .error (.next .keyNotString other)
      else .error (.next .expectedObjectCommaOrEnd (c :: rest))
    let (key, rest) ← readString start
    let (value, rest) ← item (← afterColon rest)
    let (others, rest) ← readMembers item false steps rest
    .ok ((key, value) :: others, rest)

/-- One value, with lists and objects nested at most `depth` deep. -/
def readValue (depth : Nat) (text : List Char) : Except Fault (Json × List Char) :=
  match skipSpace text with
  | [] => .error (.here .endInValue [])
  | 'n' :: rest => readName .null ['u', 'l', 'l'] rest
  | 't' :: rest => readName (.bool true) ['r', 'u', 'e'] rest
  | 'f' :: rest => readName (.bool false) ['a', 'l', 's', 'e'] rest
  | '-' :: rest => do
    let (n, rest) ← readNumber true rest
    .ok (.number n, rest)
  | '"' :: rest => do
    let (s, rest) ← readString rest
    .ok (.string s, rest)
  | c :: rest =>
    if c.isDigit then do
      let (n, rest) ← readNumber false (c :: rest)
      .ok (.number n, rest)
    else if c = '[' then
      match depth with
      | 0 => .error (.next .tooDeep (c :: rest))
      | depth + 1 => do
        let (items, rest) ← readElements (readValue depth) true rest.length rest
        .ok (.array items, rest)
    else if c = '\x7b' then
      match depth with
      | 0 => .error (.next .tooDeep (c :: rest))
      | depth + 1 => do
        let (members, rest) ← readMembers (readValue depth) true rest.length rest
        .ok (ofMembers members, rest)
    else .error (.next .expectedValue (c :: rest))

/-- The value that is the whole of a text. -/
def read (text : List Char) : Except Fault Json := do
  let (value, rest) ← readValue nestingLimit text
  match skipSpace rest with
  | [] => .ok value
  | more => .error (.next .trailingCharacters more)

/-- The value of a text, or the message of what is wrong with it. -/
def parse (text : String) : Except String Json :=
  (read text.toList).mapError fun fault => fault.message text.toList

end Trellis.Json
