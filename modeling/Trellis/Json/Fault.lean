/-!
# Faults in JSON text

What can be wrong with a JSON text, where it was noticed, and how both are told. Lines count from
one; the column is the number of bytes read in the line.
-/

namespace Trellis.Json

/-- What is wrong with a JSON text. -/
inductive FaultKind where
  | endInList
  | endInObject
  | endInString
  | endInValue
  | expectedColon
  | expectedListCommaOrEnd
  | expectedObjectCommaOrEnd
  | expectedIdent
  | expectedValue
  | invalidEscape
  | invalidNumber
  | numberOutOfRange
  | controlCharacter
  | keyNotString
  | loneSurrogate
  | endOfHexEscape
  | trailingComma
  | trailingCharacters
  | tooDeep
  deriving DecidableEq, Repr

def FaultKind.message : FaultKind → String
  | .endInList => "EOF while parsing a list"
  | .endInObject => "EOF while parsing an object"
  | .endInString => "EOF while parsing a string"
  | .endInValue => "EOF while parsing a value"
  | .expectedColon => "expected `:`"
  | .expectedListCommaOrEnd => "expected `,` or `]`"
  | .expectedObjectCommaOrEnd => "expected `,` or `\x7d`"
  | .expectedIdent => "expected ident"
  | .expectedValue => "expected value"
  | .invalidEscape => "invalid escape"
  | .invalidNumber => "invalid number"
  | .numberOutOfRange => "number out of range"
  | .controlCharacter => "control character (\\u0000-\\u001F) found while parsing a string"
  | .keyNotString => "key must be a string"
  | .loneSurrogate => "lone leading surrogate in hex escape"
  | .endOfHexEscape => "unexpected end of hex escape"
  | .trailingComma => "trailing comma"
  | .trailingCharacters => "trailing characters"
  | .tooDeep => "recursion limit exceeded"

/-- A fault as the reader notices it: `ahead` bytes into the text still unread. -/
structure Fault where
  kind : FaultKind
  unread : List Char
  ahead : Nat

/-- A fault noticed after all that was read. -/
def Fault.here (kind : FaultKind) (unread : List Char) : Fault := ⟨kind, unread, 0⟩

/-- A fault in the next byte, told with that byte read; at the end of the text nothing is read. -/
def Fault.next (kind : FaultKind) (unread : List Char) : Fault :=
  ⟨kind, unread, if unread.isEmpty then 0 else 1⟩

/-- A place in a text. -/
structure Position where
  line : Nat
  column : Nat
  deriving DecidableEq, Repr

/-- The place after `bytes` bytes. -/
def Position.advance (place : Position) : (bytes : Nat) → List Char → Position
  | _, [] => place
  | bytes, c :: rest =>
    if bytes = 0 then place
    else if c = '\n' then Position.advance ⟨place.line + 1, 0⟩ (bytes - 1) rest
    else if bytes < c.utf8Size then ⟨place.line, place.column + bytes⟩
    else Position.advance ⟨place.line, place.column + c.utf8Size⟩ (bytes - c.utf8Size) rest

/-- The number of bytes of a text. -/
def byteCount (text : List Char) : Nat :=
  text.foldr (fun c bytes => c.utf8Size + bytes) 0

/-- The message of a fault in `text`, with its place. -/
def Fault.message (fault : Fault) (text : List Char) : String :=
  let bytes := byteCount text - byteCount fault.unread + fault.ahead
  let place := Position.advance ⟨1, 0⟩ bytes text
  fault.kind.message ++ " at line " ++ toString place.line ++ " column " ++ toString place.column

end Trellis.Json
