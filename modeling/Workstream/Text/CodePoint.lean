/-!
# Code points in hexadecimal notation

Several notations name a character by the hexadecimal digits of its code point. A number
is a code point of a character when it is at most U+10FFFF and not a surrogate.
-/

namespace Workstream.Text

/-- The value of a hexadecimal digit. -/
def hexDigit? (character : Char) : Option Nat :=
  if '0' ≤ character ∧ character ≤ '9' then some (character.toNat - '0'.toNat)
  else if 'a' ≤ character ∧ character ≤ 'f' then some (character.toNat - 'a'.toNat + 10)
  else if 'A' ≤ character ∧ character ≤ 'F' then some (character.toNat - 'A'.toNat + 10)
  else none

/-- The character with a code point. -/
def ofCode? (code : Nat) : Option Char :=
  if code < 0xd800 ∨ 0xdfff < code ∧ code ≤ 0x10ffff then some (Char.ofNat code) else none

end Workstream.Text
