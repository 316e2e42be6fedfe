import Mathlib
import Workstream.Proofs.Text.Utf8

/-!
# The order of texts is the order of their bytes

Texts are compared character by character. Since the first byte of a character tells how many
bytes there are and more bytes are for larger characters, comparing the encodings byte by byte
gives the same order.
-/

namespace Workstream.Text

/-- Numbers that fit into a byte are told apart as bytes. -/
theorem ofNat_eq_ofNat_iff {first second : Nat} (fits : first < 256) (otherFits : second < 256) :
    UInt8.ofNat first = UInt8.ofNat second ↔ first = second := by
  rw [← UInt8.toNat_inj, UInt8.toNat_ofNat_of_lt' fits, UInt8.toNat_ofNat_of_lt' otherFits]

/-- Every character is a number below the end of the code points. -/
theorem val_toNat_lt (character : Char) : character.val.toNat < 0x110000 := by
  rcases character.valid with low | ⟨_, high⟩
  · exact Nat.lt_trans low (by decide)
  · exact high

/-- The bytes of a smaller character come before those of a larger one, whatever follows
them. -/
theorem utf8EncodeChar_append_lt {first second : Char} (smaller : first < second)
    (rest otherRest : List UInt8) :
    String.utf8EncodeChar first ++ rest < String.utf8EncodeChar second ++ otherRest := by
  have smaller : first.val.toNat < second.val.toNat := smaller
  have bounded := val_toNat_lt second
  -- The bytes after the first one hold six bits each, so the numbers are compared in base 64.
  have twice (number : Nat) : number / 4096 = number / 64 / 64 := by omega
  have thrice (number : Nat) : number / 262144 = number / 64 / 64 / 64 := by omega
  simp only [String.utf8EncodeChar, twice, thrice]
  split_ifs <;>
    simp (disch := (show _ < 256; omega)) only [List.cons_append, List.nil_append,
      List.cons_lt_cons_iff, UInt8.ofNat_lt_iff_lt, ofNat_eq_ofNat_iff] <;>
    omega

/-- The encodings of lists of characters are ordered like the lists. -/
theorem flatMap_utf8EncodeChar_lt {first second : List Char} (smaller : first < second) :
    first.flatMap String.utf8EncodeChar < second.flatMap String.utf8EncodeChar := by
  induction smaller with
  | @nil character rest =>
    cases encoded : String.utf8EncodeChar character with
    | nil => exact absurd (congrArg List.length encoded) (by simp [character.utf8Size_pos.ne'])
    | cons byte bytes => simp [encoded]
  | rel smaller => exact utf8EncodeChar_append_lt smaller _ _
  | cons _ ih => exact List.append_left_lt ih

/-- The bytes of a smaller text come before those of a larger one. -/
theorem encodeUtf8_lt {first second : String} (smaller : compare first second = .lt) :
    encodeUtf8 first < encodeUtf8 second := by
  have smaller : first < second := compareOfLessAndEq_eq_lt.1 smaller
  rw [encodeUtf8_eq_flatMap, encodeUtf8_eq_flatMap]
  exact flatMap_utf8EncodeChar_lt (String.lt_iff_toList_lt.1 smaller)

end Workstream.Text
