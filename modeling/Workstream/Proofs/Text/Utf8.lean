import Mathlib.Tactic.SplitIfs
import Workstream.Text.Utf8

/-!
# Texts and the bytes that encode them

A text is encoded character by character, and strict reading finds exactly the texts whose
encoding is given. The byte of a line feed stands for a line feed only: no other character has
it among its bytes. So a line feed at the end of a byte string is the encoding of one at the end
of a text, and whether the bytes before it are text does not depend on it.
-/

namespace Workstream.Text

/-- A text is encoded one character after the other. -/
theorem encodeUtf8_eq_flatMap (text : String) :
    encodeUtf8 text = text.toList.flatMap String.utf8EncodeChar := by
  have characters : text.toByteArray = text.toList.utf8Encode := by
    rw [← String.toByteArray_ofList, String.ofList_toList]
  rw [encodeUtf8, String.toUTF8_eq_toByteArray, characters, List.utf8Encode]
  simp

/-- Texts that follow each other are encoded one after the other. -/
theorem encodeUtf8_append (first second : String) :
    encodeUtf8 (first ++ second) = encodeUtf8 first ++ encodeUtf8 second := by
  simp only [encodeUtf8_eq_flatMap, String.toList_append, List.flatMap_append]

/-- Bytes are read as the text that they encode, if there is one. -/
theorem decodeUtf8_eq_some_iff {bytes : List UInt8} {text : String} :
    decodeUtf8 bytes = some text ↔ encodeUtf8 text = bytes := by
  unfold decodeUtf8 String.fromUTF8? encodeUtf8
  constructor
  · intro read
    split at read
    · obtain rfl := Option.some.inj read
      rfl
    · cases read
  · rintro rfl
    exact dif_pos text.isValidUTF8

/-- No character but the line feed has the byte of the line feed in its encoding. -/
theorem eq_lineFeed_of_mem {character : Char}
    (member : 10 ∈ String.utf8EncodeChar character) : character = '\n' := by
  have isCode : character.val.toNat = 10 := by
    -- A character of several bytes has none below 128.
    simp only [String.utf8EncodeChar] at member
    generalize character.val.toNat = code at member ⊢
    split_ifs at member <;>
      simp only [List.mem_cons, List.not_mem_nil, or_false, ← UInt8.toNat_inj, UInt8.toNat_ofNat',
        UInt8.toNat_ofNat] at member <;>
      omega
  exact Char.ext (UInt32.toNat_inj.1 isCode)

/-- The bytes of a text hold the one of a line feed when the text holds a line feed. -/
theorem lineFeed_mem_encodeUtf8_iff {text : String} :
    10 ∈ encodeUtf8 text ↔ '\n' ∈ text.toList := by
  rw [encodeUtf8_eq_flatMap, List.mem_flatMap]
  constructor
  · rintro ⟨character, listed, member⟩
    exact eq_lineFeed_of_mem member ▸ listed
  · intro listed
    exact ⟨'\n', listed, by decide⟩

/-- A text whose bytes end in the one of a line feed ends in a line feed. -/
theorem exists_of_encodeUtf8_eq_append {text : String} {bytes : List UInt8}
    (encoded : encodeUtf8 text = bytes ++ [10]) :
    ∃ front, encodeUtf8 front = bytes ∧ text = front ++ "\n" := by
  obtain ⟨front, last, characters⟩ : ∃ front last, text.toList = front ++ [last] := by
    rcases List.eq_nil_or_concat text.toList with none | some
    · simp [encodeUtf8_eq_flatMap, none] at encoded
    · simpa using some
  rw [encodeUtf8_eq_flatMap, characters, List.flatMap_append, List.flatMap_singleton] at encoded
  have nonempty : String.utf8EncodeChar last ≠ [] := by
    simp [← List.length_eq_zero_iff, Nat.ne_of_gt last.utf8Size_pos]
  obtain ⟨byte, isFinal⟩ := Option.isSome_iff_exists.1 (List.getLast?_isSome.2 nonempty)
  have isLineFeed := congrArg List.getLast? encoded
  rw [List.getLast?_append, isFinal, Option.some_or, List.getLast?_concat] at isLineFeed
  obtain rfl := Option.some.inj isLineFeed
  obtain rfl := eq_lineFeed_of_mem (List.mem_of_getLast? isFinal)
  refine ⟨String.ofList front, ?_, ?_⟩
  · rw [encodeUtf8_eq_flatMap, String.toList_ofList]
    exact List.append_cancel_right encoded
  · apply String.toList_inj.1
    simp [characters]

/-- Bytes with a line feed after them are text when they are text without it, and the text ends
in a line feed then. -/
theorem decodeUtf8_append_lineFeed (bytes : List UInt8) :
    decodeUtf8 (bytes ++ [10]) = (decodeUtf8 bytes).map (· ++ "\n") := by
  apply Option.ext
  intro text
  simp only [Option.map_eq_some_iff, decodeUtf8_eq_some_iff]
  constructor
  · intro encoded
    obtain ⟨front, isFront, rfl⟩ := exists_of_encodeUtf8_eq_append encoded
    exact ⟨front, isFront, rfl⟩
  · rintro ⟨front, rfl, rfl⟩
    have lineFeed : encodeUtf8 "\n" = [10] := by decide
    rw [encodeUtf8_append, lineFeed]

end Workstream.Text
