import Trellis.Json.NumberReader
/-!
# Reading JSON strings

A string is read after its opening quote. Control characters must be escaped, and `\u` escapes of
surrogates must come as a pair.
-/

namespace Trellis.Json

/-- The number written with four hexadecimal digits. Fewer than four bytes are the end of the text;
other characters are noticed after four bytes. -/
def readHex4 (text : List Char) : Except Fault (Nat × List Char) :=
  match text with
  | a :: b :: c :: d :: rest =>
    match Text.number? 16 [a, b, c, d] with
    | some n => .ok (n, rest)
    | none => .error ⟨.invalidEscape, text, 4⟩
  | _ => if byteCount text < 4 then .error (.here .endInString []) else .error ⟨.invalidEscape, text, 4⟩

def isLeadingSurrogate (n : Nat) : Bool := 0xD800 ≤ n && n ≤ 0xDBFF

def isTrailingSurrogate (n : Nat) : Bool := 0xDC00 ≤ n && n ≤ 0xDFFF

/-- The second half of a surrogate pair, after the first one's digits. -/
def readTrailingSurrogate (leading : Nat) (text : List Char) : Except Fault (Char × List Char) := do
  match text with
  | [] => .error (.here .endInString [])
  | '\\' :: [] => .error (.here .endInString [])
  | '\\' :: 'u' :: rest =>
    let (trailing, rest) ← readHex4 rest
    if isTrailingSurrogate trailing then
      .ok (Char.ofNat ((leading - 0xD800) * 0x400 + (trailing - 0xDC00) + 0x10000), rest)
    else .error (.here .loneSurrogate rest)
  | '\\' :: rest => .error ⟨.endOfHexEscape, rest, 1⟩
  | _ => .error ⟨.endOfHexEscape, text, 1⟩

/-- The character of an escape, after its backslash. -/
def readEscape (text : List Char) : Except Fault (Char × List Char) := do
  match text with
  | [] => .error (.here .endInString [])
  | '"' :: rest => .ok ('"', rest)
  | '\\' :: rest => .ok ('\\', rest)
  | '/' :: rest => .ok ('/', rest)
  | 'b' :: rest => .ok ('\x08', rest)
  | 'f' :: rest => .ok ('\x0c', rest)
  | 'n' :: rest => .ok ('\n', rest)
  | 'r' :: rest => .ok ('\r', rest)
  | 't' :: rest => .ok ('\t', rest)
  | 'u' :: rest =>
    let (n, rest) ← readHex4 rest
    if isTrailingSurrogate n then .error (.here .loneSurrogate rest)
    else if isLeadingSurrogate n then readTrailingSurrogate n rest
    else .ok (Char.ofNat n, rest)
  | _ => .error ⟨.invalidEscape, text, 1⟩

/-- The characters of a string up to its closing quote; each step reads at least one character, so
`steps` need not exceed the length of the text. -/
def readChars (steps : Nat) (text : List Char) : Except Fault (List Char × List Char) :=
  match steps, text with
  | _, [] => .error (.here .endInString [])
  | 0, _ => .error (.here .endInString text)
  | steps + 1, c :: rest =>
    if c = '"' then .ok ([], rest)
    else if c = '\\' then do
      let (escaped, rest) ← readEscape rest
      let (others, rest) ← readChars steps rest
      .ok (escaped :: others, rest)
    else if c.toNat < 0x20 then .error (.here .controlCharacter rest)
    else do
      let (others, rest) ← readChars steps rest
      .ok (c :: others, rest)

/-- A string after its opening quote. -/
def readString (text : List Char) : Except Fault (String × List Char) := do
  let (chars, rest) ← readChars text.length text
  .ok (String.ofList chars, rest)

end Trellis.Json
