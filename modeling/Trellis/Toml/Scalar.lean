import Trellis.Decimal.Nearest
import Trellis.Text.Search
import Trellis.Toml.Moment
import Trellis.Toml.Value
/-!
# Numbers, booleans and dates in TOML

A value that is neither a string nor a container is a run of characters, and the run as a whole is a
boolean, an integer, a float, or a date or time. Digits may be grouped by underscores, a decimal
number has no zeros before its first digit.
-/

namespace Trellis.Toml

/-- Digits without the underscores that stand between them, one at a time. -/
def ungrouped? (base : Nat) (text : List Char) : Option (List Char) :=
  let groups := Text.splitAt '_' text
  if groups.all fun group => !group.isEmpty && group.all (Text.isDigitOf base) then some groups.flatten
  else none

/-- The digits of a decimal number before its point. -/
def wholeDigits? (text : List Char) : Option (List Char) := do
  let digits ← ungrouped? 10 text
  if digits.head? = some '0' ∧ 1 < digits.length then none else some digits

/-- The greatest integer; the least one is its negative less one. -/
def greatestInteger : Int := 0x7FFFFFFFFFFFFFFF

/-- An integer that fits 64 bits. -/
def inRange? (n : Int) : Option Int :=
  if -greatestInteger - 1 ≤ n ∧ n ≤ greatestInteger then some n else none

/-- The integer of a run: decimal with or without a sign, or hexadecimal, octal or binary. -/
def integer? (run : List Char) : Option Int := do
  match run with
  | '0' :: 'x' :: digits => inRange? (← Text.number? 16 (← ungrouped? 16 digits))
  | '0' :: 'o' :: digits => inRange? (← Text.number? 8 (← ungrouped? 8 digits))
  | '0' :: 'b' :: digits => inRange? (← Text.number? 2 (← ungrouped? 2 digits))
  | _ =>
    let (negative, digits) := Text.splitSign run
    inRange? (Text.signed negative (← Text.number? 10 (← wholeDigits? digits)))

/-- An exponent with or without a sign. -/
def exponent? (text : List Char) : Option Int := do
  let (negative, digits) := Text.splitSign text
  return Text.signed negative (← Text.number? 10 (← ungrouped? 10 digits))

/-- The float of digits before the point, digits after it and an exponent, at least one of the last
two. What is too large for a float is refused, unless it is negative. -/
def decimalFloat? (run : List Char) : Option Float := do
  let (negative, text) := Text.splitSign run
  let (mantissa, exponent) ←
    match Text.cutAt (fun c => c = 'e' || c = 'E') text with
    | some (mantissa, exponent) => pure (mantissa, some (← exponent? exponent))
    | none => pure (text, none)
  let (whole, fraction) ←
    match Text.cutAt (· = '.') mantissa with
    | some (whole, fraction) => pure (whole, some (← ungrouped? 10 fraction))
    | none => pure (mantissa, none)
  if exponent.isNone && fraction.isNone then none
  let decimal ← Decimal.ofDigits? (← wholeDigits? whole) (fraction.getD []) (exponent.getD 0)
  let value := decimal.nearest negative
  if value.isInf && !negative then none else some value

/-- Infinity and NaN. -/
def specialFloat? (run : List Char) : Option Float :=
  let (negative, name) := Text.splitSign run
  let signed (x : Float) : Option Float := some (if negative then -x else x)
  if name = "inf".toList then signed (1.0 / 0.0)
  else if name = "nan".toList then signed (0.0 / 0.0)
  else none

/-- The value of a run of characters. -/
def scalar? (run : List Char) : Option Value :=
  if run = "true".toList then some (.boolean true)
  else if run = "false".toList then some (.boolean false)
  else
    ((Moment.parse? run).map fun moment => .datetime (String.ofList moment.text)) <|>
      ((decimalFloat? run <|> specialFloat? run).map .float) <|>
      ((integer? run).map .integer)

end Trellis.Toml
