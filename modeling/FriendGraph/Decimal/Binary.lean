import FriendGraph.Decimal

/-! # Binary numbers of double precision

A finite number is a mantissa below 2^53 times a power of two that is at least 2^-1074. A
decimal number is rounded to the nearest of them, a half to the even mantissa
(`Binary.nearest`). The text of a number has the fewest digits that still round to it, and of
those the nearest (`Binary.shortest`); it is positional, without an exponent. All arithmetic is
exact.
-/

namespace FriendGraph

/-- A number of double precision. -/
inductive Binary where
  /-- The mantissa times a power of two. -/
  | finite (isNegative : Bool) (mantissa : Nat) (exponent : Int)
  | infinite (isNegative : Bool)
  | notANumber
deriving DecidableEq

/-- A positive fraction. -/
structure Ratio where
  numerator : Nat
  denominator : Nat

namespace Ratio

/-- A natural number times a power of a base. -/
def scaled (value base : Nat) (exponent : Int) : Ratio :=
  ⟨value * base.pow exponent.toNat, base.pow (-exponent).toNat⟩

/-- The fraction divided by a power of a base. -/
def dividedBy (ratio : Ratio) (base : Nat) (exponent : Int) : Ratio :=
  ⟨ratio.numerator * base.pow (-exponent).toNat, ratio.denominator * base.pow exponent.toNat⟩

/-- The whole number below the fraction. -/
def floor (ratio : Ratio) : Nat := ratio.numerator / ratio.denominator

/-- The nearest whole number, a half to the even one. -/
def roundEven (ratio : Ratio) : Nat :=
  let whole := ratio.floor
  let rest := 2 * (ratio.numerator % ratio.denominator)
  if rest < ratio.denominator then whole
  else if ratio.denominator < rest then whole + 1
  else whole + whole % 2

/-- The nearest whole number, a half to the greater one. -/
def roundUp (ratio : Ratio) : Nat :=
  (2 * ratio.numerator + ratio.denominator) / (2 * ratio.denominator)

/-- Whether a fraction is at most another one. -/
def le (first second : Ratio) : Bool :=
  first.numerator * second.denominator ≤ second.numerator * first.denominator

/-- Whether a fraction is below another one. -/
def lt (first second : Ratio) : Bool :=
  first.numerator * second.denominator < second.numerator * first.denominator

end Ratio

namespace Binary

/-- The least exponent of two. -/
def leastExponent : Int := -1074

/-- The number of decimal digits of a positive number. -/
def decimalLength (value : Nat) : Nat := (Nat.toDigits 10 value).length

/-- The nearest number to a positive fraction. A mantissa that rounding carries up to 2^53 is
halved, so that it stays below. -/
def nearestRatio (isNegative : Bool) (ratio : Ratio) : Binary :=
  let guess : Int := (ratio.numerator.log2 : Int) - ratio.denominator.log2 - 53
  let fits : Bool := (ratio.dividedBy 2 guess).floor < Nat.pow 2 53
  let exponent := max (if fits then guess else guess + 1) leastExponent
  let rounded := (ratio.dividedBy 2 exponent).roundEven
  let (mantissa, exponent) :=
    if rounded = Nat.pow 2 53 then (Nat.pow 2 52, exponent + 1) else (rounded, exponent)
  if 1024 ≤ exponent + mantissa.log2 then infinite isNegative
  else finite isNegative mantissa exponent

/-- The nearest number to a decimal one. -/
def nearest : Decimal → Binary
  | .infinite isNegative => infinite isNegative
  | .notANumber => notANumber
  | .finite isNegative digits exponent =>
    let magnitude : Int := decimalLength digits + exponent
    if digits = 0 ∨ magnitude < -330 then finite isNegative 0 leastExponent
    else if 310 < magnitude then infinite isNegative
    else nearestRatio isNegative (Ratio.scaled digits 10 exponent)

/-! ## Text -/

/-- The power of ten just above a positive fraction below one, as the number of zeros after the
point. -/
def leadingZeros (denominator : Nat) : Nat → Nat → Nat
  | 0, _ => 0
  | fuel + 1, numerator =>
    if denominator ≤ numerator * 10 then 0 else leadingZeros denominator fuel (numerator * 10) + 1

/-- The exponent of the power of ten just above a positive fraction. -/
def decimalExponent (ratio : Ratio) : Int :=
  if ratio.denominator ≤ ratio.numerator then decimalLength ratio.floor
  else -(leadingZeros ratio.denominator 400 ratio.numerator : Int)

/-- The decimal with the given number of digits that is nearest to a fraction, among those
between two bounds; the bounds count when `closed` holds. -/
def onGrid? (value low high : Ratio) (closed : Bool) (top : Int) (count : Nat) :
    Option (Nat × Int) :=
  let exponent := top - count
  let inside (digits : Nat) : Bool :=
    let point := Ratio.scaled digits 10 exponent
    if closed then low.le point && point.le high else low.lt point && point.lt high
  let below := (value.dividedBy 10 exponent).floor
  let close := (value.dividedBy 10 exponent).roundUp
  if inside close then some (close, exponent)
  else if inside below then some (below, exponent)
  else if inside (below + 1) then some (below + 1, exponent)
  else none

/-- The fewest digits that round to a positive number, with their power of ten. -/
def shortest (mantissa : Nat) (exponent : Int) : Nat × Int :=
  let quarter (quarters : Nat) : Ratio := Ratio.scaled quarters 2 (exponent - 2)
  let value := quarter (4 * mantissa)
  let isNarrow := mantissa = Nat.pow 2 52 ∧ leastExponent < exponent
  let low := quarter (4 * mantissa - if isNarrow then 1 else 2)
  let high := quarter (4 * mantissa + 2)
  let top := decimalExponent value
  ((List.range 17).findSome? fun fewer =>
    onGrid? value low high (mantissa % 2 = 0) top (fewer + 1)).getD (0, 0)

/-- Digits times a power of ten, written out with a point. -/
def positional (digits : Nat) (exponent : Int) : List Char :=
  let written := Nat.toDigits 10 digits
  if 0 ≤ exponent then written ++ List.replicate exponent.toNat '0'
  else
    let places := (-exponent).toNat
    let padded := List.replicate (places + 1 - written.length) '0' ++ written
    let whole := padded.take (padded.length - places)
    let fraction := (padded.drop (padded.length - places)).reverse.dropWhile (· == '0')
    if fraction.isEmpty then whole else whole ++ '.' :: fraction.reverse

/-- The text of a number. -/
def text : Binary → String
  | notANumber => "NaN"
  | infinite isNegative => if isNegative then "-inf" else "inf"
  | finite isNegative mantissa exponent =>
    let unsigned :=
      if mantissa = 0 then ['0']
      else
        let (digits, power) := shortest mantissa exponent
        positional digits power
    String.ofList (if isNegative then '-' :: unsigned else unsigned)

/-! ## Whole numbers -/

/-- The nearest whole number, a half away from zero, kept between two bounds. No number counts as
zero. -/
def toIntWithin (least greatest : Int) : Binary → Int
  | notANumber => max least (min 0 greatest)
  | infinite isNegative => if isNegative then least else greatest
  | finite isNegative mantissa exponent =>
    let magnitude : Int := (Ratio.scaled mantissa 2 exponent).roundUp
    max least (min greatest (if isNegative then -magnitude else magnitude))

end Binary

end FriendGraph
