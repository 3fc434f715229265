/-!
Floating-point numbers as whole numbers. A finite double is a whole number times a power of two, and
both are read off its bits; everything that is printed of it is computed from the two exactly.
-/
namespace PatternForge.Decimal

/-- The value of a double. -/
inductive Value where
  | nan
  | infinite (negative : Bool)
  /-- The number `mantissa * 2 ^ exponent`, with its sign. -/
  | finite (negative : Bool) (mantissa : Nat) (exponent : Int)
  deriving DecidableEq, Repr

/-- The leading bit of a double, which is not written among its bits. -/
def hiddenBit : Nat := 1 <<< 52

/-- The value that 64 bits stand for. -/
def Value.ofBits (bits : UInt64) : Value :=
  let negative := bits >>> 63 = 1
  let biased := ((bits >>> 52) &&& 0x7FF).toNat
  let fraction := (bits &&& 0xFFFFFFFFFFFFF).toNat
  if biased = 0x7FF then if fraction = 0 then infinite negative else nan
  else if biased = 0 then finite negative fraction (-1074)
  else finite negative (fraction + hiddenBit) ((biased : Int) - 1075)

/-- The value of a double. -/
def Value.ofFloat (x : Float) : Value := .ofBits x.toBits

/-- A quotient rounded to the nearest whole number, to the even one of two that are equally near. -/
def roundedQuotient (numerator denominator : Nat) : Nat :=
  let whole := numerator / denominator
  let rest := 2 * (numerator % denominator)
  if rest < denominator then whole
  else if denominator < rest then whole + 1
  else whole + whole % 2

/-- A power of ten. -/
def tenTo (places : Nat) : Nat := Nat.pow 10 places

/-- A whole number of units, each `10 ^ -places`, written with a decimal point. -/
def withPoint (places units : Nat) : String :=
  let digits := (toString units).toList
  let padded := List.replicate (places + 1 - digits.length) '0' ++ digits
  let whole := padded.take (padded.length - places)
  let fraction := padded.drop (padded.length - places)
  String.ofList (if places = 0 then whole else whole ++ '.' :: fraction)

/-- The sign in front of a number. -/
def signText (negative : Bool) : String := if negative then "-" else ""

/-- A value with a fixed number of places, rounded to nearest with ties to even. -/
def Value.fixed (places : Nat) : Value → String
  | nan => "NaN"
  | infinite negative => signText negative ++ "inf"
  | finite negative mantissa exponent =>
    let units :=
      roundedQuotient ((mantissa * tenTo places) <<< exponent.toNat) (1 <<< (-exponent).toNat)
    signText negative ++ withPoint places units

end PatternForge.Decimal
