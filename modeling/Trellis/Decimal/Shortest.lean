/-!
# Shortest decimals

A finite double stands for an interval of reals: all that round to it, its ends included exactly
when its significand is even. Its shortest decimal is the point with the fewest digits inside that
interval, and of several with that many digits the one nearest to the double. The search walks the
grids of 1, 2, … 17 digits in exact arithmetic; if a grid has a point in the interval, then so has
one of the two grid points next to the double.
-/

namespace Trellis

/-- The decimal `digits · 10 ^ exponent`. -/
structure Decimal where
  digits : Nat
  exponent : Int
  deriving DecidableEq, Repr

/-- A positive double `significand · 2 ^ exponent`. `atBinade` marks the first double of its binade,
whose neighbour below is only half as far away. -/
structure BinaryFloat where
  significand : Nat
  exponent : Int
  atBinade : Bool
  deriving DecidableEq, Repr

/-- The leading bit of a normal significand, which is not stored: the 52nd power of two. -/
def hiddenBit : Nat := 0x10000000000000

/-- The binary parts of a finite double's absolute value. -/
def BinaryFloat.ofFloat (x : Float) : BinaryFloat :=
  let bits := x.toBits.toNat
  let fraction : Nat := bits % hiddenBit
  let biased : Nat := bits / hiddenBit % 0x800
  if biased = 0 then ⟨fraction, -1074, false⟩
  else ⟨fraction + hiddenBit, (biased : Int) - 1075, fraction == 0 && 1 < biased⟩

/-- A number between decimal grid points, in quarters of the double's last binary place: the double
is `4 · significand`, and the interval reaches two quarters up and two, or at a binade one, down. -/
structure Interval where
  low : Nat
  value : Nat
  high : Nat
  closed : Bool
  /-- One quarter is `numerator / denominator`. -/
  numerator : Nat
  denominator : Nat

/-- The interval of reals that round to a double. -/
def BinaryFloat.interval (b : BinaryFloat) : Interval where
  low := 4 * b.significand - (if b.atBinade then 1 else 2)
  value := 4 * b.significand
  high := 4 * b.significand + 2
  closed := b.significand % 2 = 0
  numerator := Nat.pow 2 (b.exponent - 2).toNat
  denominator := Nat.pow 2 (2 - b.exponent).toNat

/-- The numerator and denominator of the grid unit `10 ^ place`. -/
def gridUnit (place : Int) : Nat × Nat :=
  (Nat.pow 10 place.toNat, Nat.pow 10 (-place).toNat)

/-- Whether the grid point `point · 10 ^ place` lies in the interval. -/
def Interval.holds (i : Interval) (point : Nat) (place : Int) : Bool :=
  let (up, down) := gridUnit place
  let scaled := point * up * i.denominator
  let low := i.low * i.numerator * down
  let high := i.high * i.numerator * down
  if i.closed then low ≤ scaled && scaled ≤ high else low < scaled && scaled < high

/-- The grid point next to the double that lies in its interval: the nearer one of two, and of two
equally near the even one. -/
def Interval.pointOn? (i : Interval) (place : Int) : Option Nat :=
  let (up, down) := gridUnit place
  let scaled := i.value * i.numerator * down
  let unit := up * i.denominator
  let below := scaled / unit
  match i.holds below place && below != 0, i.holds (below + 1) place with
  | true, true =>
    let rest := 2 * (scaled % unit)
    some (if rest < unit ∨ (rest = unit ∧ below % 2 = 0) then below else below + 1)
  | true, false => some below
  | false, true => some (below + 1)
  | false, false => none

/-- The number of zeros after the point of `numerator / denominator`, below one, in a search of at
most `places` places. -/
def leadingZeros (denominator : Nat) : (places numerator : Nat) → Nat
  | 0, _ => 0
  | places + 1, numerator =>
    if denominator ≤ 10 * numerator then 0
    else leadingZeros denominator places (10 * numerator) + 1

/-- How many decimal digits stand before the point of `numerator / denominator`; minus the number of
zeros after the point when it is below one tenth. No double has 400 of them. -/
def magnitude (numerator denominator : Nat) : Int :=
  let whole := numerator / denominator
  if whole ≠ 0 then (Nat.toDigits 10 whole).length
  else -(leadingZeros denominator 400 numerator : Int)

/-- The decimal without zeros at the end of its digits. -/
def Decimal.strip (d : Decimal) : Decimal :=
  if zeros : d.digits ≠ 0 ∧ d.digits % 10 = 0 then
    have : d.digits / 10 < d.digits := by omega
    Decimal.strip ⟨d.digits / 10, d.exponent + 1⟩
  else d
termination_by d.digits

/-- The shortest decimal of a positive double. -/
def BinaryFloat.shortest (b : BinaryFloat) : Decimal :=
  let i := b.interval
  let places := magnitude (i.value * i.numerator) i.denominator
  let hit := (List.range 18).findSome? fun (count : Nat) =>
    (i.pointOn? (places - (count : Int) - 1)).map fun point =>
      Decimal.strip ⟨point, places - (count : Int) - 1⟩
  hit.getD ⟨b.significand, b.exponent⟩

end Trellis
