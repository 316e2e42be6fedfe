import Workstream.Toml.Quotation

/-!
# Numbers in documents

Whole numbers have 64 bits. They are written in decimal with a sign, or without one in
hexadecimal, octal or binary after `0x`, `0o` or `0b`. An underscore may stand between
two digits. A decimal does not begin with a zero, unless it is zero.

A floating-point number has a fraction, an exponent or both. One that is too large to
be represented is refused, while one that is too small, also in the negative direction,
is rounded.

A reader gives nothing when the text does not begin with a number of its kind.
-/

namespace Workstream.Toml

/-- Read the digits that follow a digit, without the underscores between them. -/
def moreDigits? (accepts : Char → Bool) : List Char → Option (List Char × Place)
  | [] => some ([], [])
  | '_' :: rest =>
    match rest with
    | [] => none
    | digit :: rest =>
      if accepts digit then
        (moreDigits? accepts rest).map fun (digits, rest) => (digit :: digits, rest)
      else
        none
  | digit :: rest =>
    if accepts digit then
      (moreDigits? accepts rest).map fun (digits, rest) => (digit :: digits, rest)
    else
      some ([], digit :: rest)

/-- Read digits. -/
def digits? (accepts : Char → Bool) : List Char → Option (List Char × Place)
  | [] => none
  | digit :: rest =>
    if accepts digit then
      (moreDigits? accepts rest).map fun (digits, rest) => (digit :: digits, rest)
    else
      none

/-- Read a sign, and say whether it is a minus. -/
def sign : List Char → Bool × Place
  | '-' :: rest => (true, rest)
  | '+' :: rest => (false, rest)
  | place => (false, place)

/-- Read the digits of a decimal: a lone zero, or digits that do not begin with one. -/
def decimal? : List Char → Option (List Char × Place)
  | '0' :: rest => some (['0'], rest)
  | place => digits? Char.isDigit place

/-- The number that digits stand for. -/
def valueOf (base : Nat) (digits : List Char) : Nat :=
  digits.foldl (fun value digit => value * base + (Text.hexDigit? digit).getD 0) 0

/-- A whole number, if it has 64 bits. -/
def inRange? (value : Int) : Option Int :=
  if -9223372036854775808 ≤ value ∧ value ≤ 9223372036854775807 then some value else none

/-- Whether a character is a digit of a base up to sixteen. -/
def isDigitOf (base : Nat) (character : Char) : Bool :=
  match Text.hexDigit? character with
  | some digit => digit < base
  | none => false

/-- Read a whole number of a base whose sign was read already. -/
def natural? (base : Nat) (place : Place) : Option (Value × Place) := do
  let (digits, rest) ← digits? (isDigitOf base) place
  let value ← inRange? (valueOf base digits)
  return (.integer value, rest)

/-- Read a whole number. -/
def integer? : Place → Option (Value × Place)
  | '0' :: 'x' :: rest => natural? 16 rest
  | '0' :: 'o' :: rest => natural? 8 rest
  | '0' :: 'b' :: rest => natural? 2 rest
  | place => do
    let (negative, rest) := sign place
    let (digits, rest) ← decimal? rest
    let magnitude : Int := valueOf 10 digits
    let value ← inRange? (if negative then -magnitude else magnitude)
    return (.integer value, rest)

/-- Read the digits after a point, if there is a point. -/
def fraction? : Place → Option (List Char × Place)
  | '.' :: rest => digits? Char.isDigit rest
  | place => some ([], place)

/-- Read an exponent, if there is one. -/
def exponent? : Place → Option (Int × Place)
  | character :: rest =>
    if character = 'e' ∨ character = 'E' then do
      let (negative, rest) := sign rest
      let (digits, rest) ← digits? Char.isDigit rest
      let magnitude : Int := valueOf 10 digits
      return (if negative then -magnitude else magnitude, rest)
    else
      some (0, character :: rest)
  | [] => some (0, [])

/-- Read infinity or the value that is no number, whose sign was read already. -/
def special? (negative : Bool) : Place → Option (Value × Place)
  | 'i' :: 'n' :: 'f' :: rest => some (.float (.infinite negative), rest)
  | 'n' :: 'a' :: 'n' :: rest => some (.float .nan, rest)
  | _ => none

/-- Read a floating-point number. -/
def float? (place : Place) : Option (Value × Place) :=
  let (negative, unsigned) := sign place
  (special? negative unsigned).or do
    let (whole, afterWhole) ← decimal? unsigned
    let (places, afterPoint) ← fraction? afterWhole
    let (exponent, rest) ← exponent? afterPoint
    if rest.length = afterWhole.length then
      none
    else
      let value := Binary64.ofDecimal negative (valueOf 10 (whole ++ places))
        (exponent - places.length)
      if value = .infinite false then none else some (.float value, rest)

end Workstream.Toml
