import Trellis.Json.Basic
import Trellis.Json.Fault
import Trellis.Text.Digits
/-!
# Reading JSON numbers

A number without point and exponent is an integer when it fits 64 bits. Any other number is a float:
its digits are gathered into a significand of 64 bits, further digits only count for the exponent,
and the float is the significand times or divided by a power of ten, each of the two steps rounded
on its own.
-/

namespace Trellis.Json

/-- The power of ten nearest to `10 ^ n`. -/
def powerOfTen (n : Nat) : Float :=
  Float.ofScientific 1 false n

/-- `significand · 10 ^ exponent` as a float, divided by `10 ^ 308` at a time when the exponent is
far below zero. The number of divisions is bounded by the digits of the text. -/
def scaled (steps : Nat) (value : Float) (exponent : Int) : Option Float :=
  if exponent.natAbs ≤ 308 then
    if 0 ≤ exponent then
      let product := value * powerOfTen exponent.natAbs
      if product.isInf then none else some product
    else some (value / powerOfTen exponent.natAbs)
  else if value == 0.0 then some value
  else if 0 ≤ exponent then none
  else
    match steps with
    | 0 => some 0.0
    | steps + 1 => scaled steps (value / powerOfTen 308) (exponent + 308)

/-- The float of a sign, a significand and an exponent; `rest` is the text after the number. -/
def finishFloat (negative : Bool) (significand : Nat) (exponent : Int) (rest : List Char) :
    Except Fault (Number × List Char) :=
  match scaled 4 (Float.ofNat significand) exponent with
  | none => .error (.here .numberOutOfRange rest)
  | some value => .ok (.float (if negative then -value else value), rest)

/-- The greatest exponent that is read out digit by digit. -/
def exponentLimit : Nat := 2147483647

/-- The digits of an exponent after its first one; none when they pass the limit, with the text
after the digit that passes it. -/
def exponentDigits (value : Nat) : List Char → Option Nat × List Char
  | [] => (some value, [])
  | c :: rest =>
    match Text.digit? 10 c with
    | none => (some value, c :: rest)
    | some d =>
      if exponentLimit < value * 10 + d then (none, rest) else exponentDigits (value * 10 + d) rest

/-- The exponent after its `e`, and the float it completes. -/
def readExponent (negative : Bool) (significand : Nat) (start : Int) (text : List Char) :
    Except Fault (Number × List Char) :=
  let (downward, text) :=
    match text with
    | '+' :: rest => (false, rest)
    | '-' :: rest => (true, rest)
    | _ => (false, text)
  match text with
  | [] => .error (.here .endInValue [])
  | c :: rest =>
    match Text.digit? 10 c with
    | none => .error (.next .invalidNumber (c :: rest))
    | some d =>
      match exponentDigits d rest with
      | (some value, rest) =>
        finishFloat negative significand (if downward then start - value else start + value) rest
      | (none, rest) =>
        if significand ≠ 0 ∧ !downward then .error (.here .numberOutOfRange rest)
        else
          .ok (.float (if negative then -0.0 else 0.0), rest.dropWhile Char.isDigit)

/-- After the digits: an exponent, or the end of the number. -/
def readTail (negative : Bool) (significand : Nat) (exponent : Int) (text : List Char) :
    Except Fault (Number × List Char) :=
  match text with
  | 'e' :: rest | 'E' :: rest => readExponent negative significand exponent rest
  | _ => finishFloat negative significand exponent text

/-- The greatest significand. -/
def significandLimit : Nat := 0xFFFFFFFFFFFFFFFF

/-- The digits after the point, down to the one that no longer fits the significand: the
significand, how many digits it took up, and the text after them. -/
def fractionDigits (significand taken : Nat) : List Char → Nat × Nat × List Char
  | [] => (significand, taken, [])
  | c :: rest =>
    match Text.digit? 10 c with
    | none => (significand, taken, c :: rest)
    | some d =>
      if significandLimit < significand * 10 + d then (significand, taken, c :: rest)
      else fractionDigits (significand * 10 + d) (taken + 1) rest

/-- The fraction after the point. -/
def readFraction (negative : Bool) (significand : Nat) (exponent : Int) (text : List Char) :
    Except Fault (Number × List Char) :=
  let (significand, taken, rest) := fractionDigits significand 0 text
  let overflows := rest.head?.any Char.isDigit
  if taken = 0 ∧ !overflows then
    .error (.next (if rest.isEmpty then .endInValue else .invalidNumber) rest)
  else readTail negative significand (exponent - taken) (rest.dropWhile Char.isDigit)

/-- The digits of an integer that fit the significand, and the text after them. -/
def integerDigits (significand : Nat) : List Char → Nat × List Char
  | [] => (significand, [])
  | c :: rest =>
    match Text.digit? 10 c with
    | none => (significand, c :: rest)
    | some d =>
      if significandLimit < significand * 10 + d then (significand, c :: rest)
      else integerDigits (significand * 10 + d) rest

/-- After the integer digits of a number. A negative integer below 64 bits and `-0` are floats. -/
def readNumberTail (negative : Bool) (significand : Nat) (text : List Char) : Except Fault (Number × List Char) :=
  match text with
  | '.' :: rest => readFraction negative significand 0 rest
  | 'e' :: _ | 'E' :: _ => readTail negative significand 0 text
  | _ =>
    if !negative then .ok (.int significand, text)
    else if significand = 0 ∨ 0x8000000000000000 < significand then
      .ok (.float (-(Float.ofNat significand)), text)
    else .ok (.int (-(significand : Int)), text)

/-- A number whose integer digits do not fit the significand: the others count for the exponent. -/
def readLongInteger (negative : Bool) (significand : Nat) (text : List Char) : Except Fault (Number × List Char) :=
  let more := (text.takeWhile Char.isDigit).length
  match text.dropWhile Char.isDigit with
  | '.' :: rest => readFraction negative significand more rest
  | rest => readTail negative significand more rest

/-- A number after its sign. -/
def readNumber (negative : Bool) (text : List Char) : Except Fault (Number × List Char) :=
  match text with
  | [] => .error (.here .endInValue [])
  | c :: rest =>
    if c = '0' then
      if rest.head?.any Char.isDigit then .error (.next .invalidNumber rest)
      else readNumberTail negative 0 rest
    else
      match Text.digit? 10 c with
      | none => .error (.next .invalidNumber (c :: rest))
      | some d =>
        let (significand, rest) := integerDigits d rest
        if rest.head?.any Char.isDigit then readLongInteger negative significand rest
        else readNumberTail negative significand rest

end Trellis.Json
