import Mathlib.Data.List.Induction
import Mathlib.Tactic.SplitIfs
import Workstream.Results
import Workstream.Version

/-!
# The text of a version

`parse` and `text` are inverse to each other: a version is read back from its own text,
and no other text is read as that version. The numerals of the three components carry
this, since a numeral without a leading zero is determined by its value.
-/

namespace Workstream.Version

/-- A digit is the numeral of its own value. -/
theorem digitChar_of_isDigit {digit : Char} (isDigit : digit.isDigit) :
    digit.toNat - 48 < 10 ∧ (digit.toNat - 48).digitChar = digit := by
  have bounds : 48 ≤ digit.toNat ∧ digit.toNat ≤ 57 := by
    simp only [Char.isDigit, Bool.and_eq_true, decide_eq_true_eq] at isDigit
    exact isDigit
  refine ⟨by omega, ?_⟩
  have code : digit.toNat ∈ List.range' 48 10 := by
    rw [List.mem_range'_1]
    omega
  have named : ∀ value ∈ List.range' 48 10, (value - 48).digitChar = Char.ofNat value := by decide
  rw [named digit.toNat code, Char.ofNat_toNat]

/-- A numeral without a leading zero is the numeral of its value. -/
theorem toDigits_ofDigitChars {numeral : List Char} (nonempty : numeral ≠ [])
    (digits : ∀ digit ∈ numeral, digit.isDigit)
    (canonical : 1 < numeral.length → numeral.head? ≠ some '0') :
    Nat.toDigits 10 (Nat.ofDigitChars 10 numeral 0) = numeral := by
  induction numeral using List.reverseRecOn with
  | nil => exact absurd rfl nonempty
  | append_singleton front last ih =>
    obtain ⟨small, lastNumeral⟩ := digitChar_of_isDigit (digits last (by simp))
    have value : Nat.ofDigitChars 10 (front ++ [last]) 0 =
        10 * Nat.ofDigitChars 10 front 0 + (last.toNat - 48) := by
      simp [Nat.ofDigitChars_append, Nat.ofDigitChars_cons]
    rw [value]
    cases front with
    | nil => simp [Nat.toDigits_of_lt_base small, lastNumeral]
    | cons head tail =>
      have headNonzero : head ≠ '0' := by simpa using canonical (by simp)
      have frontNumeral : Nat.toDigits 10 (Nat.ofDigitChars 10 (head :: tail) 0) = head :: tail :=
        ih (by simp) (fun digit member => digits digit (List.mem_append_left _ member))
          (fun _ => by simpa using headNonzero)
      have positive : 0 < Nat.ofDigitChars 10 (head :: tail) 0 := by
        refine Nat.pos_of_ne_zero fun zero => headNonzero ?_
        rw [zero, Nat.toDigits_zero] at frontNumeral
        exact (List.cons.inj frontNumeral).1.symm
      rw [← Nat.toDigits_append_toDigits (by decide) positive small, frontNumeral,
        Nat.toDigits_of_lt_base small, lastNumeral]

/-- The numeral of a positive number does not start with a zero. -/
theorem head?_toDigits_ne_zero {number : Nat} (positive : 0 < number) :
    (Nat.toDigits 10 number).head? ≠ some '0' := by
  induction number using Nat.strongRecOn with
  | ind number ih =>
    by_cases small : number < 10
    · have named : ∀ digit ∈ List.range' 1 9, digit.digitChar ≠ '0' := by decide
      have listed : number ∈ List.range' 1 9 := by
        rw [List.mem_range'_1]
        omega
      simpa [Nat.toDigits_of_lt_base small] using named number listed
    · have front := ih (number / 10) (by omega) (by omega)
      rw [Nat.toDigits_of_base_le (by decide) (Nat.le_of_not_lt small)]
      rwa [List.head?_append, Option.or_of_isSome]
      simp [Nat.toDigits_ne_nil]

/-- A component is read from its numeral and from nothing else. -/
theorem readComponent_eq_ok_iff {numeral : List Char} {component : VersionComponent} :
    readComponent numeral = .ok component ↔ numeral = Nat.toDigits 10 component.val := by
  constructor
  · intro read
    simp only [readComponent] at read
    split_ifs at read with empty nonDigit leadingZero fits
    obtain rfl := Except.ok.inj read
    refine (toDigits_ofDigitChars (by simpa using empty) (by simpa using nonDigit) ?_).symm
    exact fun long zero => leadingZero ⟨long, zero⟩
  · rintro rfl
    have digits : (Nat.toDigits 10 component.val).all Char.isDigit = true :=
      List.all_eq_true.2 fun digit member =>
        Nat.isDigit_of_mem_toDigits (by decide) (by decide) member
    have canonical : ¬ (1 < (Nat.toDigits 10 component.val).length ∧
        (Nat.toDigits 10 component.val).head? = some '0') := by
      rintro ⟨long, zero⟩
      refine head?_toDigits_ne_zero (Nat.pos_of_ne_zero fun none => ?_) zero
      simp [none, Nat.toDigits_zero] at long
    simp [readComponent, Nat.toDigits_ne_nil, digits, canonical, component.isLt]

/-- Three components are read from their numerals and from nothing else. -/
theorem readComponents_eq_ok_iff {major minor patch : List Char} {version : Version} :
    readComponents major minor patch = .ok version ↔
      major = Nat.toDigits 10 version.major.val ∧ minor = Nat.toDigits 10 version.minor.val ∧
        patch = Nat.toDigits 10 version.patch.val := by
  rw [← readComponent_eq_ok_iff, ← readComponent_eq_ok_iff, ← readComponent_eq_ok_iff]
  unfold readComponents
  obtain ⟨first, second, third⟩ := version
  cases readComponent major <;> cases readComponent minor <;> cases readComponent patch <;>
    simp

/-- The text of a version holds nothing but digits and dots. -/
theorem isDigit_or_dot_of_mem_text {version : Version} {char : Char}
    (member : char ∈ version.text.toList) : char.isDigit ∨ char = '.' := by
  have digits : ∀ number, char ∈ Nat.toDigits 10 number → char.isDigit :=
    fun number => Nat.isDigit_of_mem_toDigits (by decide) (by decide)
  simp only [text, Nat.toString_eq_repr, String.toList_append, List.mem_append,
    Nat.toList_repr] at member
  rcases member with (((major | dot) | minor) | dot) | patch
  · exact .inl (digits _ major)
  · exact .inr (by simpa using dot)
  · exact .inl (digits _ minor)
  · exact .inr (by simpa using dot)
  · exact .inl (digits _ patch)

/-- The text of a version is not empty. -/
theorem text_ne_empty (version : Version) : version.text ≠ "" := by
  simp [text, ← String.toList_inj]

/-- Three lists of characters with a dot between them. -/
def dotted (major minor patch : List Char) : List Char :=
  major ++ '.' :: (minor ++ '.' :: patch)

/-- Three numbers with a dot between them are written as their numerals are. -/
theorem toList_numbers (major minor patch : Nat) :
    (toString major ++ "." ++ toString minor ++ "." ++ toString patch).toList =
      dotted (Nat.toDigits 10 major) (Nat.toDigits 10 minor) (Nat.toDigits 10 patch) := by
  simp [dotted]

/-- Dots between numerals can be told from the numerals. -/
theorem split_dotted (major minor patch : Nat) :
    Text.Segments.split '.'
        (dotted (Nat.toDigits 10 major) (Nat.toDigits 10 minor) (Nat.toDigits 10 patch)) =
      [Nat.toDigits 10 major, Nat.toDigits 10 minor, Nat.toDigits 10 patch] := by
  have undotted (number : Nat) : '.' ∉ Nat.toDigits 10 number := fun member =>
    absurd (Nat.isDigit_of_mem_toDigits (by decide) (by decide) member) (by decide)
  rw [dotted, Text.Segments.split_append_separator (undotted major),
    Text.Segments.split_append_separator (undotted minor),
    Text.Segments.split_of_not_mem (undotted patch)]

/-- The segments of the text of a version are the numerals of its components. -/
theorem split_text (version : Version) :
    Text.Segments.split '.' version.text.toList =
      [Nat.toDigits 10 version.major.val, Nat.toDigits 10 version.minor.val,
        Nat.toDigits 10 version.patch.val] := by
  rw [text, toList_numbers, split_dotted]

/-- A version is read from its own text and from no other. -/
theorem parse_eq_ok_iff {text : String} {version : Version} :
    parse text = .ok version ↔ text = version.text := by
  constructor
  · intro read
    unfold parse at read
    split at read
    · rename_i major minor patch cut
      cases components : readComponents major minor patch with
      | error fault => simp [components, Except.mapError] at read
      | ok found =>
        obtain rfl : found = version := by simpa [components, Except.mapError] using read
        obtain ⟨rfl, rfl, rfl⟩ := readComponents_eq_ok_iff.1 components
        rw [← split_text] at cut
        rw [← String.toList_inj, ← Text.Segments.join_split '.' text.toList, cut,
          Text.Segments.join_split]
    · cases read
  · rintro rfl
    have components : readComponents (Nat.toDigits 10 version.major.val)
        (Nat.toDigits 10 version.minor.val) (Nat.toDigits 10 version.patch.val) = .ok version :=
      readComponents_eq_ok_iff.2 ⟨rfl, rfl, rfl⟩
    simp [parse, split_text, components, Except.mapError]

end Workstream.Version
