/-!
# Digits

The numbers that digits write, in any base up to sixteen.
-/

namespace Trellis.Text

/-- The value of a hexadecimal digit, in either case. -/
def hexDigit? (c : Char) : Option Nat :=
  if c.isDigit then some (c.toNat - '0'.toNat)
  else if 'a' ≤ c ∧ c ≤ 'f' then some (c.toNat - 'a'.toNat + 10)
  else if 'A' ≤ c ∧ c ≤ 'F' then some (c.toNat - 'A'.toNat + 10)
  else none

/-- The value of a digit of a base. -/
def digit? (base : Nat) (c : Char) : Option Nat :=
  (hexDigit? c).filter (· < base)

/-- Whether a character is a digit of a base. -/
def isDigitOf (base : Nat) (c : Char) : Bool :=
  (digit? base c).isSome

/-- The number that `digits` continue from `value`; none when one of them is no digit of the base. -/
def numberFrom? (base value : Nat) : List Char → Option Nat
  | [] => some value
  | c :: digits => (digit? base c).bind fun d => numberFrom? base (value * base + d) digits

/-- The number that digits write in a base. No digits write zero. -/
def number? (base : Nat) (digits : List Char) : Option Nat :=
  numberFrom? base 0 digits

/-- A sign, if there is one, and whether it is a minus; then the text after it. -/
def splitSign : List Char → Bool × List Char
  | '-' :: rest => (true, rest)
  | '+' :: rest => (false, rest)
  | rest => (false, rest)

/-- A natural number or its negative. -/
def signed (negative : Bool) (n : Nat) : Int :=
  if negative then -(n : Int) else n

end Trellis.Text
