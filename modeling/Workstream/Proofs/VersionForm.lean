import Mathlib.Data.Nat.Digits.Defs
import Workstream.Proofs.VersionText
import Workstream.Release.Tag

/-!
# The form of a version

Which texts are versions can be said without reading them: three decimal numerals with a dot
between them, none of which has a zero in front of other digits or denotes a number above the
largest component. This holds of numerals of any length, and the components of the version are
the numbers that they denote. A version that is made from three numbers is the one that is read
from their numerals, and the tag of a release is the text of its version behind a fixed opening,
so tags are read back as strictly as versions are.
-/

namespace Workstream

namespace Version

/-- A list of characters is the shortest way to write some number in decimal. -/
structure IsNumeral (numeral : List Char) : Prop where
  nonempty : numeral ≠ []
  digits : ∀ digit ∈ numeral, '0' ≤ digit ∧ digit ≤ '9'
  /-- Zero is the only number that is written with a zero in front. -/
  canonical : numeral.head? = some '0' → numeral = ['0']

/-- The number that a list of digits denotes, the last of which counts the ones. -/
def numeralValue (numeral : List Char) : Nat :=
  Nat.ofDigits 10 (numeral.reverse.map fun digit => digit.toNat - '0'.toNat)

/-- A numeral denotes the component of a version. -/
def Denotes (numeral : List Char) (component : VersionComponent) : Prop :=
  IsNumeral numeral ∧ numeralValue numeral = component.val

/-- The number that digits denote is found digit by digit. -/
theorem numeralValue_eq (numeral : List Char) :
    numeralValue numeral = Nat.ofDigitChars 10 numeral 0 := by
  induction numeral using List.reverseRecOn with
  | nil => rfl
  | append_singleton front last ih =>
    rw [Nat.ofDigitChars_append, ← ih]
    simp [numeralValue, Nat.ofDigits_cons, Nat.ofDigitChars_cons, Nat.add_comm]

/-- Every number has a numeral. -/
theorem isNumeral_toDigits (number : Nat) : IsNumeral (Nat.toDigits 10 number) where
  nonempty := Nat.toDigits_ne_nil
  digits digit member :=
    Char.isDigit_iff_toNat.1 (Nat.isDigit_of_mem_toDigits (by decide) (by decide) member)
  canonical zero := by
    rcases Nat.eq_zero_or_pos number with rfl | positive
    · rfl
    · exact absurd zero (head?_toDigits_ne_zero positive)

/-- The numeral of a number denotes it. -/
theorem numeralValue_toDigits (number : Nat) : numeralValue (Nat.toDigits 10 number) = number := by
  rw [numeralValue_eq, Nat.ofDigitChars_ten_toDigits]

/-- A number has no other numeral. -/
theorem IsNumeral.toDigits_numeralValue {numeral : List Char} (isNumeral : IsNumeral numeral) :
    Nat.toDigits 10 (numeralValue numeral) = numeral := by
  rw [numeralValue_eq]
  refine toDigits_ofDigitChars isNumeral.nonempty ?_ ?_
  · exact fun digit member => Char.isDigit_iff_toNat.2 (isNumeral.digits digit member)
  · intro long zero
    rw [isNumeral.canonical zero] at long
    exact absurd long (by decide)

theorem toDigits_injective {first second : Nat}
    (same : Nat.toDigits 10 first = Nat.toDigits 10 second) : first = second := by
  rw [← numeralValue_toDigits first, same, numeralValue_toDigits]

/-- The numeral of a component denotes it, and nothing else does. -/
theorem denotes_iff {numeral : List Char} {component : VersionComponent} :
    Denotes numeral component ↔ numeral = Nat.toDigits 10 component.val := by
  constructor
  · rintro ⟨isNumeral, value⟩
    rw [← value, isNumeral.toDigits_numeralValue]
  · rintro rfl
    exact ⟨isNumeral_toDigits _, numeralValue_toDigits _⟩

/-- The numerals of components are the numerals of numbers that are not too large. -/
theorem exists_denotes_iff {numeral : List Char} :
    (∃ component, Denotes numeral component) ↔
      IsNumeral numeral ∧ numeralValue numeral ≤ 2147483647 := by
  constructor
  · rintro ⟨component, isNumeral, value⟩
    exact ⟨isNumeral, by omega⟩
  · rintro ⟨isNumeral, small⟩
    exact ⟨⟨numeralValue numeral, by omega⟩, isNumeral, rfl⟩

/-- A version is read from the numerals of its components. -/
theorem parse_eq_ok_iff_denotes {text : String} {version : Version} :
    parse text = .ok version ↔ ∃ major minor patch, text.toList = dotted major minor patch ∧
      Denotes major version.major ∧ Denotes minor version.minor ∧
        Denotes patch version.patch := by
  simp only [denotes_iff, parse_eq_ok_iff]
  constructor
  · rintro rfl
    exact ⟨_, _, _, toList_numbers _ _ _, rfl, rfl, rfl⟩
  · rintro ⟨_, _, _, written, rfl, rfl, rfl⟩
    rw [← String.toList_inj, written]
    exact (toList_numbers _ _ _).symm

/-- A version can be read when three numerals are not too large. -/
theorem exists_parse_iff {text : String} :
    (∃ version, parse text = .ok version) ↔
      ∃ major minor patch, text.toList = dotted major minor patch ∧
        ∀ numeral ∈ [major, minor, patch],
          IsNumeral numeral ∧ numeralValue numeral ≤ 2147483647 := by
  simp only [parse_eq_ok_iff_denotes, ← exists_denotes_iff]
  constructor
  · rintro ⟨version, major, minor, patch, written, isMajor, isMinor, isPatch⟩
    refine ⟨major, minor, patch, written, ?_⟩
    simp only [List.forall_mem_cons]
    exact ⟨⟨_, isMajor⟩, ⟨_, isMinor⟩, ⟨_, isPatch⟩, List.forall_mem_nil _⟩
  · rintro ⟨major, minor, patch, written, denoting⟩
    simp only [List.forall_mem_cons] at denoting
    obtain ⟨⟨first, isFirst⟩, ⟨second, isSecond⟩, ⟨third, isThird⟩, _⟩ := denoting
    exact ⟨⟨first, second, third⟩, major, minor, patch, written, isFirst, isSecond, isThird⟩

/-- A version is made from its components. -/
theorem ofComponents_eq_ok_iff {major minor patch : Nat} {version : Version} :
    ofComponents major minor patch = .ok version ↔
      major = version.major.val ∧ minor = version.minor.val ∧ patch = version.patch.val := by
  obtain ⟨⟨first, firstFits⟩, ⟨second, secondFits⟩, ⟨third, thirdFits⟩⟩ := version
  constructor
  · intro made
    simp only [ofComponents] at made
    split_ifs at made
    cases made
    exact ⟨rfl, rfl, rfl⟩
  · rintro ⟨rfl, rfl, rfl⟩
    simp [ofComponents, firstFits, secondFits, thirdFits]

/-- A version is made from three numbers exactly when it is read from their numerals. -/
theorem ofComponents_eq_ok_iff_parse {major minor patch : Nat} {version : Version} :
    ofComponents major minor patch = .ok version ↔
      parse (toString major ++ "." ++ toString minor ++ "." ++ toString patch) = .ok version := by
  rw [ofComponents_eq_ok_iff, parse_eq_ok_iff]
  constructor
  · rintro ⟨rfl, rfl, rfl⟩
    rfl
  · intro written
    have same := split_dotted major minor patch
    rw [← toList_numbers, written, split_text] at same
    obtain ⟨sameMajor, rest⟩ := List.cons.inj same
    obtain ⟨sameMinor, rest⟩ := List.cons.inj rest
    obtain ⟨samePatch, _⟩ := List.cons.inj rest
    exact ⟨(toDigits_injective sameMajor).symm, (toDigits_injective sameMinor).symm,
      (toDigits_injective samePatch).symm⟩

end Version

namespace ReleaseTag

/-- What is left without an opening is what comes after it. -/
theorem dropOpening?_eq_some_iff {front text rest : List Char} :
    dropOpening? front text = some rest ↔ text = front ++ rest := by
  fun_induction dropOpening? front text with
  | case1 text => simp
  | case2 wanted front => simp
  | case3 front character text ih => simpa using ih
  | case4 wanted front character text differs => simp [differs]

/-- A tag is read as the version that it is the tag of, and no other text is a tag. -/
theorem parse?_eq_some_iff {text : String} {version : Version} :
    parse? text = some version ↔ text = name version := by
  have read (value : Except Malformed Version) :
      value.toOption = some version ↔ value = .ok version := by
    cases value <;> simp [Except.toOption]
  simp only [parse?, bind, Option.bind_eq_some_iff, dropOpening?_eq_some_iff, read,
    Version.parse_eq_ok_iff]
  constructor
  · rintro ⟨rest, written, isText⟩
    rw [← String.toList_inj, written, name, ← isText]
    simp
  · rintro rfl
    exact ⟨version.text.toList, by simp [name], by simp⟩

end ReleaseTag

namespace Version

/-- A text is a version exactly when it consists of three numerals without needless zeros, with
a dot between them, which denote numbers up to 2147483647. These numbers are the components of
the version, and the text is the text of the version. A version that is made from three numbers
is the one that is read from their numerals. A tag is read as the version that it is the tag of,
and only the tag of a version is read at all. -/
theorem texts_strict :
    (∀ text, (∃ version, parse text = .ok version) ↔
      ∃ major minor patch, text.toList = dotted major minor patch ∧
        ∀ numeral ∈ [major, minor, patch],
          IsNumeral numeral ∧ numeralValue numeral ≤ 2147483647) ∧
    (∀ text version, parse text = .ok version →
      (∃ major minor patch, text.toList = dotted major minor patch ∧
        Denotes major version.major ∧ Denotes minor version.minor ∧
          Denotes patch version.patch) ∧ version.text = text) ∧
    (∀ (major minor patch : Nat) version, ofComponents major minor patch = .ok version ↔
      parse (toString major ++ "." ++ toString minor ++ "." ++ toString patch) = .ok version) ∧
    (∀ version, ReleaseTag.parse? (ReleaseTag.name version) = some version) ∧
    ∀ text version, ReleaseTag.parse? text = some version → ReleaseTag.name version = text := by
  refine ⟨fun _ => exists_parse_iff, fun text version read => ?_,
    fun _ _ _ _ => ofComponents_eq_ok_iff_parse, fun _ => ReleaseTag.parse?_eq_some_iff.2 rfl,
    fun _ _ read => (ReleaseTag.parse?_eq_some_iff.1 read).symm⟩
  exact ⟨parse_eq_ok_iff_denotes.1 read, (parse_eq_ok_iff.1 read).symm⟩

/-- The largest component can be read, and the tag of the release with it. -/
theorem texts_strict_largest :
    parse "10.0.2147483647" = .ok ⟨10, 0, 2147483647⟩ ∧
      Version.text ⟨10, 0, 2147483647⟩ = "10.0.2147483647" ∧
      (∃ major minor patch, "10.0.2147483647".toList = dotted major minor patch ∧
        numeralValue major = 10 ∧ numeralValue minor = 0 ∧ numeralValue patch = 2147483647) ∧
      ReleaseTag.name ⟨10, 0, 2147483647⟩ = "release-10.0.2147483647" := by
  obtain ⟨_, texts, _, _, tags⟩ := texts_strict
  have read : parse "10.0.2147483647" = .ok ⟨10, 0, 2147483647⟩ :=
    parse_eq_ok_iff.2 (by decide +kernel)
  have tagRead : ReleaseTag.parse? "release-10.0.2147483647" = some ⟨10, 0, 2147483647⟩ := by
    decide +kernel
  obtain ⟨⟨major, minor, patch, written, isMajor, isMinor, isPatch⟩, sameText⟩ :=
    texts _ _ read
  exact ⟨read, sameText, ⟨major, minor, patch, written, isMajor.2, isMinor.2, isPatch.2⟩,
    tags _ _ tagRead⟩

end Version

end Workstream
