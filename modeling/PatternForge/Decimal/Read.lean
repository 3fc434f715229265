/-!
Numbers as they are written on a command line: natural numbers below a limit, and doubles.
-/
namespace PatternForge.Decimal

/-- Why a text is no natural number. -/
inductive NaturalFault where
  | empty
  | badDigit
  | tooLarge
  deriving DecidableEq, Repr

/-- The fault, in words. -/
def NaturalFault.message : NaturalFault → String
  | empty => "cannot parse integer from empty string"
  | badDigit => "invalid digit found in string"
  | tooLarge => "number too large to fit in target type"

/-- Reads further digits behind a number that is below the limit. The first fault counts. -/
def digitsBelow (limit value : Nat) : List Char → Except NaturalFault Nat
  | [] => .ok value
  | c :: rest =>
    if !c.isDigit then .error .badDigit
    else
      let value := 10 * value + (c.toNat - '0'.toNat)
      if limit ≤ value then .error .tooLarge else digitsBelow limit value rest

/-- A natural number below a limit, with a plus sign in front perhaps. -/
def natural (limit : Nat) (text : String) : Except NaturalFault Nat :=
  match text.toList with
  | [] => .error .empty
  | ['+'] => .error .badDigit
  | '+' :: digits => digitsBelow limit 0 digits
  | digits => digitsBelow limit 0 digits

/-- Why a text is no double. -/
inductive DoubleFault where
  | empty
  | invalid
  deriving DecidableEq, Repr

/-- The fault, in words. -/
def DoubleFault.message : DoubleFault → String
  | empty => "cannot parse float from empty string"
  | invalid => "invalid float literal"

/-- The number that some digits write. -/
def ofDigits (digits : List Char) : Nat :=
  digits.foldl (fun n c => 10 * n + (c.toNat - '0'.toNat)) 0

/-- The power of ten behind an `e`, or zero if nothing is left. -/
def exponent? : List Char → Option Int
  | [] => some 0
  | e :: rest =>
    if e ≠ 'e' && e ≠ 'E' then none
    else
      let (negative, digits) :=
        match rest with
        | '-' :: digits => (true, digits)
        | '+' :: digits => (false, digits)
        | digits => (false, digits)
      if digits.isEmpty || !digits.all Char.isDigit then none
      else some (if negative then -(ofDigits digits : Int) else ofDigits digits)

/-- The double nearest to `digits * 10 ^ place`. Places far out of range are brought
nearer first. -/
def nearest (digits : Nat) (place : Int) : Float :=
  let size : Int := (toString digits).length
  if digits = 0 then 0
  else if 400 < place + size then 1 / 0
  else if place + size < -400 then 0
  else if place < 0 then Float.ofScientific digits true (-place).toNat
  else Float.ofScientific digits false place.toNat

/-- A number written with digits, a point perhaps, and an exponent perhaps. -/
def decimalNumber? (chars : List Char) : Option Float :=
  let whole := chars.takeWhile Char.isDigit
  let behind := chars.drop whole.length
  let (fraction, rest) :=
    match behind with
    | '.' :: behind =>
      let fraction := behind.takeWhile Char.isDigit
      (fraction, behind.drop fraction.length)
    | _ => ([], behind)
  if whole.isEmpty && fraction.isEmpty then none
  else
    (exponent? rest).map fun exponent =>
      nearest (ofDigits (whole ++ fraction)) (exponent - fraction.length)

/-- A number without its sign. -/
def unsigned? (chars : List Char) : Option Float :=
  match decimalNumber? chars with
  | some x => some x
  | none =>
    match String.ofList (chars.map Char.toLower) with
    | "inf" | "infinity" => some (1 / 0)
    | "nan" => some (0 / 0)
    | _ => none

/-- A double. -/
def double (text : String) : Except DoubleFault Float :=
  let read (found : Option Float) : Except DoubleFault Float :=
    match found with
    | some x => .ok x
    | none => .error .invalid
  match text.toList with
  | [] => .error .empty
  | '-' :: chars => read ((unsigned? chars).map (- ·))
  | '+' :: chars => read (unsigned? chars)
  | chars => read (unsigned? chars)

end PatternForge.Decimal
