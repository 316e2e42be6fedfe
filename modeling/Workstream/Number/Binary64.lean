/-!
# Binary floating-point numbers

Numbers with 53 significant bits, as decimal literals denote them. `ofDecimal` rounds
a decimal to the nearest such number, and to the one with the even significand when
two are equally near. `text` writes the fewest digits that are rounded back to a finite
number, without an exponent and with at least one digit after the point.

All arithmetic is on natural numbers, so both directions are exact.
-/

namespace Workstream

/-- A floating-point number. -/
inductive Binary64 where
  | nan
  /-- A number too large in magnitude. -/
  | infinite (negative : Bool)
  /-- The number `significand * 2 ^ exponent`, or its negative. -/
  | finite (negative : Bool) (significand : Nat) (exponent : Int)
deriving DecidableEq

namespace Binary64

/-- The number of bits in a significand. -/
def precision : Nat := 53

/-- The smallest significand with that many bits. -/
def smallestSignificand : Nat := Nat.pow 2 (precision - 1)

/-- The smallest number with too many bits for a significand. -/
def significandLimit : Nat := Nat.pow 2 precision

/-- The smallest exponent of a finite number. -/
def smallestExponent : Int := -1074

/-- The largest exponent of a finite number. -/
def largestExponent : Int := 971

/-- A fraction scaled by a power of a base, again as a fraction. -/
def scale (base : Nat) (exponent : Int) (fraction : Nat × Nat) : Nat × Nat :=
  if exponent < 0 then (fraction.1, fraction.2 * base.pow exponent.natAbs)
  else (fraction.1 * base.pow exponent.natAbs, fraction.2)

/-- The nearest whole number, and the even one of two that are equally near. -/
def roundToEven (fraction : Nat × Nat) : Nat :=
  let quotient := fraction.1 / fraction.2
  let twice := 2 * (fraction.1 % fraction.2)
  if twice < fraction.2 then quotient
  else if fraction.2 < twice then quotient + 1
  else if quotient % 2 = 0 then quotient else quotient + 1

/-- The exponent with which a positive fraction has exactly the bits of a significand,
or the smallest one. -/
def exponentOf (fraction : Nat × Nat) : Int :=
  let guess : Int := fraction.1.log2 - fraction.2.log2 - (precision - 1)
  let scaled := scale 2 (-guess) fraction
  let exact := if scaled.1 / scaled.2 < smallestSignificand then guess - 1 else guess
  max exact smallestExponent

/-- The number with a given sign that is nearest to a positive fraction. -/
def ofFraction (negative : Bool) (fraction : Nat × Nat) : Binary64 :=
  let exponent := exponentOf fraction
  let rounded := roundToEven (scale 2 (-exponent) fraction)
  let (significand, exponent) :=
    if rounded = significandLimit then (smallestSignificand, exponent + 1)
    else (rounded, exponent)
  if largestExponent < exponent then .infinite negative
  else .finite negative significand exponent

/-- Beyond this decimal magnitude every number is infinite, and below its negative every
number is zero. -/
def magnitudeLimit : Int := 400

/-- The number with a given sign that is nearest to `digits * 10 ^ exponent`. -/
def ofDecimal (negative : Bool) (digits : Nat) (exponent : Int) : Binary64 :=
  let magnitude := (Nat.toDigits 10 digits).length + exponent
  if digits = 0 ∨ magnitude < -magnitudeLimit then .finite negative 0 smallestExponent
  else if magnitudeLimit < magnitude then .infinite negative
  else ofFraction negative (scale 10 exponent (digits, 1))

/-- The ends of the interval of numbers that are rounded to `significand * 2 ^ exponent`,
in units of `2 ^ (exponent - 2)`. -/
def roundingInterval (significand : Nat) (exponent : Int) : Nat × Nat :=
  let closeBelow := significand = smallestSignificand ∧ smallestExponent < exponent
  (4 * significand - (if closeBelow then 1 else 2), 4 * significand + 2)

/-- Whether the first fraction is not above the second, or below it if `strictly`. -/
def below (strictly : Bool) (first second : Nat × Nat) : Bool :=
  if strictly then first.1 * second.2 < second.1 * first.2
  else first.1 * second.2 ≤ second.1 * first.2

/-- Whether `digits * 10 ^ place` is rounded to `significand * 2 ^ exponent`. -/
def readsBack (significand : Nat) (exponent : Int) (digits : Nat) (place : Int) : Bool :=
  let (low, high) := roundingInterval significand exponent
  let decimal := scale 10 place (digits, 1)
  let odd := significand % 2 = 1
  below odd (scale 2 (exponent - 2) (low, 1)) decimal &&
    below odd decimal (scale 2 (exponent - 2) (high, 1))

/-- The power of ten just above a positive fraction. -/
def decimalMagnitude (fraction : Nat × Nat) : Int :=
  if fraction.2 ≤ fraction.1 then (Nat.toDigits 10 (fraction.1 / fraction.2)).length
  else 1 - (Nat.toDigits 10 (fraction.2 / fraction.1)).length

/-- A decimal with the given number of digits, where a carry may have added one. -/
def dropCarry (length : Nat) (digits : Nat) (place : Int) : Nat × Int :=
  if digits = Nat.pow 10 length then (1, place + length) else (digits, place)

/-- The decimal with the given number of digits that is nearest to a number, if it is
rounded back to the number: the digits and the power of ten of the last one. -/
def decimalOfLength? (significand : Nat) (exponent : Int) (length : Nat) :
    Option (Nat × Int) :=
  let fraction := scale 2 exponent (significand, 1)
  let place := decimalMagnitude fraction - length
  let scaled := scale 10 (-place) fraction
  let lower := scaled.1 / scaled.2
  let nearLower := 2 * (scaled.1 % scaled.2) < scaled.2
  let candidates := if nearLower then [lower, lower + 1] else [lower + 1, lower]
  (candidates.find? fun digits => readsBack significand exponent digits place).map fun digits =>
    dropCarry length digits place

/-- The shortest decimal that is rounded back to a positive number. -/
def shortestDecimal (significand : Nat) (exponent : Int) : Nat × Int :=
  ((List.range 17).findSome? fun count =>
    decimalOfLength? significand exponent (count + 1)).getD (0, 0)

/-- The text of `digits * 10 ^ place` without an exponent. -/
def positional (digits : Nat) (place : Int) : String :=
  let all := Nat.toDigits 10 digits
  if 0 ≤ place then
    String.ofList (all ++ List.replicate place.natAbs '0') ++ ".0"
  else
    let padded := List.replicate (place.natAbs + 1 - all.length) '0' ++ all
    let whole := padded.length - place.natAbs
    String.ofList (padded.take whole ++ '.' :: padded.drop whole)

/-- The text of a number. -/
def text : Binary64 → String
  | .nan => "NaN"
  | .infinite negative => (if negative then "-" else "") ++ "inf"
  | .finite negative significand exponent =>
    let (digits, place) :=
      if significand = 0 then (0, 0) else shortestDecimal significand exponent
    (if negative then "-" else "") ++ positional digits place

end Binary64

end Workstream
