import Workstream.Malformed
import Workstream.Text.Segments

/-!
# Versions

A released version has three components, each a natural number below 2 ^ 31. Its text
is strict: exactly three decimal numerals with a dot between them, no sign and no
leading zero, so that a version has one text and `parse` accepts nothing else.
-/

namespace Workstream

/-- A component of a version. -/
abbrev VersionComponent := Fin 2147483648

/-- A released version. -/
structure Version where
  major : VersionComponent
  minor : VersionComponent
  patch : VersionComponent
deriving DecidableEq

namespace Version

/-- The largest component. -/
def largestComponent : Nat := 2147483647

/-- Versions are ordered by their first component, then the second, then the third. -/
instance : Ord Version :=
  ⟨compareLex (compareOn (·.major)) (compareLex (compareOn (·.minor)) (compareOn (·.patch)))⟩

instance : Std.TransOrd Version :=
  inferInstanceAs (Std.TransCmp (compareLex (compareOn Version.major)
    (compareLex (compareOn Version.minor) (compareOn Version.patch))))

instance : Std.LawfulEqOrd Version where
  eq_of_compare := by
    intro first second equal
    obtain ⟨sameMajor, rest⟩ := compareLex_eq_eq.1 equal
    obtain ⟨sameMinor, samePatch⟩ := compareLex_eq_eq.1 rest
    cases first
    cases second
    simp only [mk.injEq]
    exact ⟨Std.LawfulEqOrd.eq_of_compare sameMajor, Std.LawfulEqOrd.eq_of_compare sameMinor,
      Std.LawfulEqOrd.eq_of_compare samePatch⟩

/-- The version with three given components, when each is small enough. The first that
is too large is reported. -/
def ofComponents (major minor patch : Nat) : Except Malformed Version :=
  let refuse (component : Nat) : Except Malformed Version :=
    .error (.version (toString major ++ "." ++ toString minor ++ "." ++ toString patch)
      (.tooLarge component largestComponent))
  if majorFits : major < 2147483648 then
    if minorFits : minor < 2147483648 then
      if patchFits : patch < 2147483648 then
        .ok ⟨⟨major, majorFits⟩, ⟨minor, minorFits⟩, ⟨patch, patchFits⟩⟩
      else refuse patch
    else refuse minor
  else refuse major

/-- The text of a version. -/
def text (version : Version) : String :=
  toString version.major.val ++ "." ++ toString version.minor.val ++ "." ++
    toString version.patch.val

/-- One component of the text of a version. -/
def readComponent (numeral : List Char) : Except VersionFault VersionComponent :=
  if numeral.isEmpty then .error .emptyComponent
  else if !numeral.all Char.isDigit then .error .nonDigit
  else if 1 < numeral.length ∧ numeral.head? = some '0' then .error .leadingZero
  else
    let value := Nat.ofDigitChars 10 numeral 0
    if fits : value < 2147483648 then .ok ⟨value, fits⟩ else .error .outOfRange

/-- Three components, read from left to right. -/
def readComponents (major minor patch : List Char) : Except VersionFault Version := do
  let first ← readComponent major
  let second ← readComponent minor
  let third ← readComponent patch
  return ⟨first, second, third⟩

/-- The version that a text denotes. -/
def parse (text : String) : Except Malformed Version :=
  match Text.Segments.split '.' text.toList with
  | [major, minor, patch] => (readComponents major minor patch).mapError (.version text)
  | _ => .error (.version text .componentCount)

end Version

end Workstream
