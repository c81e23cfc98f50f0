import Trellis.Decimal.Shortest
import Trellis.Text.Digits
/-!
# Nearest doubles

The double nearest to a decimal, found in exact arithmetic. Positive doubles are evenly spaced within
a binade, so the decimal is divided by the last binary place of its binade and rounded; a half goes to
the even neighbour. Below the least normal double the last place stays where it is, above the greatest
one there is only infinity.
-/

namespace Trellis.Decimal

/-- The quotient rounded to the nearest integer, a half to the even one. -/
def roundHalfEven (numerator denominator : Nat) : Nat :=
  let whole := numerator / denominator
  let rest := 2 * (numerator % denominator)
  if rest < denominator ∨ (rest = denominator ∧ whole % 2 = 0) then whole else whole + 1

/-- The exponent of the least place that a double has. -/
def leastPlace : Int := -1074

/-- The exponent of the last binary place of doubles near a quotient. -/
def lastPlace (numerator denominator : Nat) : Int :=
  let place : Int := (numerator.log2 : Int) - denominator.log2
  let reached := denominator * Nat.pow 2 place.toNat ≤ numerator * Nat.pow 2 (-place).toNat
  max leastPlace ((if reached then place else place - 1) - 52)

/-- The bits of infinity. -/
def infinityBits : Nat := 0x7FF0000000000000

/-- The bits of the double nearest to a positive quotient. Counting doubles from zero, those of a
binade start at its number times `hiddenBit`, and a double that is rounded up to the next binade is the
first one there. -/
def nearestBits (numerator denominator : Nat) : Nat :=
  let place := lastPlace numerator denominator
  let significand :=
    roundHalfEven (numerator * Nat.pow 2 (-place).toNat) (denominator * Nat.pow 2 place.toNat)
  min infinityBits ((place - leastPlace).toNat * hiddenBit + significand)

/-- The bits of the double nearest to a decimal. A decimal of more than 310 digits before its point is
beyond the greatest double, one with more than 330 zeros after it below half of the least. -/
def bits (d : Decimal) : Nat :=
  let size := ((Nat.toDigits 10 d.digits).length : Int) + d.exponent
  if d.digits = 0 ∨ size < -330 then 0
  else if 310 < size then infinityBits
  else
    let (up, down) := gridUnit d.exponent
    nearestBits (d.digits * up) down

/-- The double nearest to a decimal with a sign. -/
def nearest (negative : Bool) (d : Decimal) : Float :=
  let sign := if negative then 0x8000000000000000 else 0
  Float.ofBits (UInt64.ofNat (sign + d.bits))

/-- The decimal with some digits before and after its point, times a power of ten; none if there is
something else among them. -/
def ofDigits? (whole fraction : List Char) (exponent : Int) : Option Decimal :=
  (Text.number? 10 (whole ++ fraction)).map fun digits =>
    { digits, exponent := exponent - fraction.length }

end Trellis.Decimal
