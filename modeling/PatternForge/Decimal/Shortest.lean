import PatternForge.Decimal.Double

/-!
The shortest decimal that reads back as a given double, written without an exponent. Of the decimals
with as few digits as possible among those that are nearer to the double than to any other, the one
nearest to it is taken.
-/
namespace PatternForge.Decimal

/-- A non-negative fraction. -/
structure Fraction where
  numerator : Nat
  denominator : Nat
  deriving Repr

namespace Fraction

/-- The fraction `n * 2 ^ exponent`. -/
def scaled (n : Nat) (exponent : Int) : Fraction :=
  ⟨n <<< exponent.toNat, 1 <<< (-exponent).toNat⟩

/-- The fraction `n * 10 ^ place`. -/
def decimal (n : Nat) (place : Int) : Fraction := ⟨n * tenTo place.toNat, tenTo (-place).toNat⟩

/-- Whether one fraction is less than another. -/
def lt (a b : Fraction) : Bool := a.numerator * b.denominator < b.numerator * a.denominator

/-- The whole part of a fraction divided by `10 ^ place`. -/
def wholeAt (a : Fraction) (place : Int) : Nat :=
  (a.numerator * tenTo (-place).toNat) / (a.denominator * tenTo place.toNat)

/-- The distance between two fractions. -/
def distance (a b : Fraction) : Fraction :=
  let left := a.numerator * b.denominator
  let right := b.numerator * a.denominator
  ⟨(left - right) + (right - left), a.denominator * b.denominator⟩

end Fraction

/-- The decimals that read back as a double lie between these two, which count themselves if
`inclusive` holds. -/
structure Interval where
  low : Fraction
  high : Fraction
  inclusive : Bool

/-- The interval around `mantissa * 2 ^ exponent`. Below a power of two the doubles lie closer. -/
def Interval.around (mantissa : Nat) (exponent : Int) : Interval :=
  let below := if mantissa = hiddenBit && exponent ≠ -1074 then 1 else 2
  { low := .scaled (4 * mantissa - below) (exponent - 2)
    high := .scaled (4 * mantissa + 2) (exponent - 2)
    inclusive := mantissa % 2 = 0 }

/-- Whether a fraction lies in an interval. -/
def Interval.contains (i : Interval) (x : Fraction) : Bool :=
  if i.inclusive then !x.lt i.low && !i.high.lt x else i.low.lt x && x.lt i.high

/-- The place of the first digit of a fraction below ten to the `place + 1`, at most `tries` places
further down. -/
def leadingPlace (x : Fraction) (place : Int) : Nat → Int
  | 0 => place
  | tries + 1 => if 0 < x.wholeAt place then place else leadingPlace x (place - 1) tries

/-- The nearest of the two neighbours of a fraction on the grid of a place that lie in an
interval. -/
def neighbour? (i : Interval) (x : Fraction) (place : Int) : Option Nat :=
  let below := x.wholeAt place
  let fits (n : Nat) : Bool := i.contains (.decimal n place)
  match fits below, fits (below + 1) with
  | true, true =>
    if (x.distance (.decimal (below + 1) place)).lt (x.distance (.decimal below place)) then
      some (below + 1)
    else some below
  | true, false => some below
  | false, true => some (below + 1)
  | false, false => none

/-- The first hit on the grids from a place downwards, as units of its place. -/
def firstNeighbour (i : Interval) (x : Fraction) (place : Int) : Nat → Nat × Int
  | 0 => (x.wholeAt place, place)
  | tries + 1 =>
    match neighbour? i x place with
    | some n => (n, place)
    | none => firstNeighbour i x (place - 1) tries

/-- Digits without the zeros behind them that lie behind the point. -/
def withoutZeros (n : Nat) (place : Int) : Nat → Nat × Int
  | 0 => (n, place)
  | tries + 1 =>
    if place < 0 && n % 10 = 0 then withoutZeros (n / 10) (place + 1) tries else (n, place)

/-- A value as the shortest decimal that reads back. -/
def Value.shortest : Value → String
  | nan => "NaN"
  | infinite negative => signText negative ++ "inf"
  | finite negative 0 _ => signText negative ++ "0"
  | finite negative mantissa exponent =>
    let x := Fraction.scaled mantissa exponent
    let first := leadingPlace x 309 640
    let (n, place) := firstNeighbour (.around mantissa exponent) x first 17
    let (n, place) := withoutZeros n place 400
    signText negative ++ withPoint (-place).toNat (n * tenTo place.toNat)

end PatternForge.Decimal
