import Trellis.Decimal.Shortest
/-!
# Text of floating point numbers

A double is written with the digits of its shortest decimal. Where the point stands and when an
exponent is used is up to the format: a `Layout` is the range of magnitudes written positionally.
-/

namespace Trellis.Decimal

/-- How a format writes a double: the magnitude of a number is the position of its point relative to
its first digit, and those outside `least ≤ magnitude ≤ greatest` get an exponent. -/
structure Layout where
  least : Option Int
  greatest : Option Int

/-- JSON writes `0.00001` and `1000000000000000.0` positionally, what is smaller or larger with an
exponent. -/
def Layout.json : Layout := ⟨some (-4), some 16⟩

/-- Configuration files and messages of the parser never use an exponent. -/
def Layout.positional : Layout := ⟨none, none⟩

def Layout.isPositional (layout : Layout) (magnitude : Int) : Bool :=
  layout.least.all (· ≤ magnitude) && layout.greatest.all (magnitude ≤ ·)

/-- The digits with the point at `magnitude`, at least one digit on either side. -/
def positionalText (digits : List Char) (magnitude : Int) : List Char :=
  let zeros (n : Int) := List.replicate n.toNat '0'
  if magnitude ≤ 0 then ['0', '.'] ++ zeros (-magnitude) ++ digits
  else if magnitude < digits.length then
    digits.take magnitude.toNat ++ ['.'] ++ digits.drop magnitude.toNat
  else digits ++ zeros (magnitude - digits.length) ++ ['.', '0']

/-- An exponent with its sign, which is written in either case. -/
def signedExponent (exponent : Int) : List Char :=
  (if exponent < 0 then [] else ['+']) ++ (toString exponent).toList

/-- The digits with the point after the first one, and the exponent. -/
def exponentText (digits : List Char) (magnitude : Int) : List Char :=
  let mantissa :=
    match digits with
    | [] => []
    | [single] => [single]
    | first :: rest => first :: '.' :: rest
  mantissa ++ ['e'] ++ signedExponent (magnitude - 1)

/-- The text of a finite double. -/
def finiteText (layout : Layout) (x : Float) : String :=
  let sign := if x.toBits ≥ 0x8000000000000000 then ['-'] else []
  let parts := BinaryFloat.ofFloat x
  if parts.significand = 0 then String.ofList (sign ++ ['0', '.', '0'])
  else
    let shortest := parts.shortest
    let digits := Nat.toDigits 10 shortest.digits
    let magnitude := shortest.exponent + digits.length
    String.ofList <| sign ++
      if layout.isPositional magnitude then positionalText digits magnitude
      else exponentText digits magnitude

end Trellis.Decimal
