import Workstream.Toml.Value

/-!
# Dates and times in documents

A moment is a date, a time of day, or both with an optional offset. It is checked that
there is such a moment: that the month has the day, and that hours, minutes and seconds
are in their ranges, where a leap second is allowed. What the moment is does not matter
to any reader of a document, so it is not kept.
-/

namespace Workstream.Toml

/-- Read a number of exactly so many digits. -/
def fixedNumber? : Nat → Place → Option (Nat × Place)
  | count, place =>
    let digits := place.take count
    if digits.length = count ∧ digits.all Char.isDigit then
      some (digits.foldl (fun value digit => value * 10 + (digit.toNat - '0'.toNat)) 0,
        place.drop count)
    else
      none

/-- Read a number of two digits in a range. -/
def twoDigits? (low high : Nat) (place : Place) : Option (Nat × Place) :=
  match fixedNumber? 2 place with
  | some (value, rest) => if low ≤ value ∧ value ≤ high then some (value, rest) else none
  | none => none

/-- Read a given character. -/
def mark? (mark : Char) : Place → Option Place
  | character :: rest => if character = mark then some rest else none
  | [] => none

/-- Whether a year has a leap day. -/
def isLeapYear (year : Nat) : Bool :=
  year % 4 = 0 && (year % 100 ≠ 0 || year % 400 = 0)

/-- The number of days of a month. -/
def daysOf (year month : Nat) : Nat :=
  if month = 2 then (if isLeapYear year then 29 else 28)
  else if [4, 6, 9, 11].contains month then 30
  else 31

/-- Read a date. -/
def date? (place : Place) : Option Place := do
  let (year, rest) ← fixedNumber? 4 place
  let rest ← mark? '-' rest
  let (month, rest) ← twoDigits? 1 12 rest
  let rest ← mark? '-' rest
  let (_, rest) ← twoDigits? 1 (daysOf year month) rest
  return rest

/-- Read the fraction of a second, if there is one. -/
def secondFraction : Place → Place
  | '.' :: digit :: rest =>
    if digit.isDigit then rest.dropWhile Char.isDigit else '.' :: digit :: rest
  | place => place

/-- Read a time of day. -/
def time? (place : Place) : Option Place := do
  let (_, rest) ← twoDigits? 0 23 place
  let rest ← mark? ':' rest
  let (_, rest) ← twoDigits? 0 59 rest
  let rest ← mark? ':' rest
  let (_, rest) ← twoDigits? 0 60 rest
  return secondFraction rest

/-- Read an offset in hours and minutes. -/
def hoursAndMinutes? (place : Place) : Option Place := do
  let (_, rest) ← twoDigits? 0 23 place
  let rest ← mark? ':' rest
  let (_, rest) ← twoDigits? 0 59 rest
  return rest

/-- Read the offset from universal time, if there is one. -/
def offset? : Place → Option Place
  | 'Z' :: rest => some rest
  | 'z' :: rest => some rest
  | '+' :: rest => hoursAndMinutes? rest
  | '-' :: rest => hoursAndMinutes? rest
  | place => some place

/-- Read the time that follows a date, if there is one. A blank after the date may also
be the end of it. -/
def timeAfterDate? : Place → Option Place
  | 'T' :: rest => (time? rest).bind offset?
  | 't' :: rest => (time? rest).bind offset?
  | ' ' :: rest =>
    match time? rest with
    | some after => offset? after
    | none => some (' ' :: rest)
  | place => some place

/-- Read a moment. -/
def moment? (place : Place) : Option (Value × Place) :=
  (((date? place).bind timeAfterDate?).or (time? place)).map fun rest => (.moment, rest)

end Workstream.Toml
