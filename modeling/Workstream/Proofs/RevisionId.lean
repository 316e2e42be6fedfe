import Mathlib
import Workstream.Proofs.Text.Utf8
import Workstream.Store.Snapshot

/-!
# Ids of revisions

An id is a fixed number of hexadecimal digits, and so takes a fixed number of bytes. The bytes
that an id is computed from put the id of the parent, if there is one, and the number of the
commit before everything whose length is not fixed. This is why the number can be read off
them again, although nothing separates the parts: see `sequence_eq_of_preimage_eq`.
-/

namespace Workstream

/-- What is written in pieces of one length is as many times as long as there are pieces. -/
theorem length_flatMap_of_forall {Source Target : Type} {write : Source → List Target}
    {size : Nat} {sources : List Source}
    (each : ∀ source ∈ sources, (write source).length = size) :
    (sources.flatMap write).length = sources.length * size := by
  induction sources with
  | nil => simp
  | cons source rest ih =>
    obtain ⟨first, others⟩ := List.forall_mem_cons.1 each
    rw [List.flatMap_cons, List.length_append, first, ih others, List.length_cons,
      Nat.succ_mul, Nat.add_comm]

namespace Sha256

/-- A number is written in as many bytes as are asked for. -/
theorem length_bigEndian (count number : Nat) : (bigEndian count number).length = count := by
  induction count generalizing number with
  | zero => rfl
  | succ count ih => simp [bigEndian, ih]

/-- Numbers that fit are told apart by their bytes. -/
theorem bigEndian_inj {count number other : Nat} (fits : number < 256 ^ count)
    (otherFits : other < 256 ^ count) (same : bigEndian count number = bigEndian count other) :
    number = other := by
  induction count generalizing number other with
  | zero =>
    rw [Nat.pow_zero] at fits otherFits
    omega
  | succ count ih =>
    have lengths := (length_bigEndian count (number / 256)).trans
      (length_bigEndian count (other / 256)).symm
    obtain ⟨front, last⟩ := List.append_inj same lengths
    have quotients : number / 256 = other / 256 := by
      rw [Nat.pow_succ, Nat.mul_comm] at fits otherFits
      exact ih (Nat.div_lt_of_lt_mul fits) (Nat.div_lt_of_lt_mul otherFits) front
    have remainders := congrArg UInt8.toNat (List.head_eq_of_cons_eq last)
    simp only [UInt8.toNat_ofNat'] at remainders
    omega

/-- A digest has 32 bytes. -/
theorem length_digest (message : List UInt8) : (digest message).length = 32 := rfl

/-- Every byte of a digest is written in two digits. -/
theorem length_hexDigest (message : List UInt8) : (hexDigest message).length = 64 := by
  have each : ∀ byte ∈ digest message, (hexOfByte byte).length = 2 := fun _ _ => rfl
  rw [hexDigest, length_flatMap_of_forall each, length_digest]

end Sha256

/-- A hexadecimal digit in lower case. -/
def isHexDigit (character : Char) : Bool :=
  character.isDigit || ('a' ≤ character && character ≤ 'f')

/-- Numbers below sixteen have hexadecimal digits. -/
theorem isHexDigit_digitChar : ∀ number < 16, isHexDigit (Nat.digitChar number) = true := by
  decide

/-- A digest is written in hexadecimal digits. -/
theorem isHexDigit_of_mem_hexDigest {message : List UInt8} {character : Char}
    (member : character ∈ Sha256.hexDigest message) : isHexDigit character = true := by
  obtain ⟨byte, _, member⟩ := List.mem_flatMap.1 member
  have small := byte.toNat_lt
  rcases List.mem_cons.1 member with rfl | member
  · exact isHexDigit_digitChar _ (by omega)
  · rw [List.mem_singleton] at member
    exact member ▸ isHexDigit_digitChar _ (by omega)

/-- A hexadecimal digit is encoded in one byte. -/
theorem utf8Size_of_isHexDigit {character : Char} (digit : isHexDigit character = true) :
    character.utf8Size = 1 := by
  rw [Char.utf8Size_eq_one_iff]
  simp only [isHexDigit, Char.isDigit, Bool.or_eq_true, Bool.and_eq_true, decide_eq_true_eq,
    Char.le_def] at digit
  rcases digit with ⟨_, below⟩ | ⟨_, below⟩
  · exact UInt32.le_trans below (by decide)
  · exact UInt32.le_trans below (by decide)

namespace RevisionId

/-- The text of the id is made of forty hexadecimal digits in lower case. -/
def IsHexadecimal (id : RevisionId) : Prop :=
  id.text.length = digits ∧ ∀ character ∈ id.text.toList, isHexDigit character = true

/-- What is computed from bytes is a proper id. -/
theorem isHexadecimal_ofPreimage (bytes : List UInt8) : (ofPreimage bytes).IsHexadecimal := by
  constructor
  · simp [ofPreimage, Sha256.length_hexDigest, digits]
  · intro character member
    rw [ofPreimage, String.toList_ofList] at member
    exact isHexDigit_of_mem_hexDigest (List.mem_of_mem_take member)

/-- A proper id takes one byte for each digit. -/
theorem IsHexadecimal.length_encodeUtf8 {id : RevisionId} (proper : id.IsHexadecimal) :
    (Text.encodeUtf8 id.text).length = digits := by
  have single : ∀ character ∈ id.text.toList, (String.utf8EncodeChar character).length = 1 :=
    fun character member => (String.length_utf8EncodeChar character).trans
      (utf8Size_of_isHexDigit (proper.2 character member))
  rw [Text.encodeUtf8_eq_flatMap, length_flatMap_of_forall single, String.length_toList,
    proper.1, Nat.mul_one]

variable {sequence otherSequence : Nat} {message otherMessage : String}
  {entities otherEntities : Entities}

/-- Without parents, the number of the commit comes first. -/
theorem sequence_eq_of_preimage_none (fits : sequence < 2 ^ 64)
    (otherFits : otherSequence < 2 ^ 64)
    (same : preimage none sequence message entities =
      preimage none otherSequence otherMessage otherEntities) : sequence = otherSequence := by
  simp only [preimage, List.nil_append, List.append_assoc] at same
  have numbers := (List.append_inj same (by simp only [Sha256.length_bigEndian])).1
  exact Sha256.bigEndian_inj fits otherFits numbers

/-- With parents, the number of the commit comes after an id of fixed length. -/
theorem sequence_eq_of_preimage_some {parent otherParent : RevisionId}
    (proper : parent.IsHexadecimal) (otherProper : otherParent.IsHexadecimal)
    (fits : sequence < 2 ^ 64) (otherFits : otherSequence < 2 ^ 64)
    (same : preimage (some parent) sequence message entities =
      preimage (some otherParent) otherSequence otherMessage otherEntities) :
    sequence = otherSequence := by
  simp only [preimage, List.append_assoc] at same
  -- Nothing marks the end of the parent's id, but all ids are equally long.
  have lengths := proper.length_encodeUtf8.trans otherProper.length_encodeUtf8.symm
  have numbered := (List.append_inj same lengths).2
  have numbers := (List.append_inj numbered (by simp only [Sha256.length_bigEndian])).1
  exact Sha256.bigEndian_inj fits otherFits numbers

/-- A parent makes the bytes longer than those of a short message alone. -/
theorem preimage_some_ne_none {parent : RevisionId} (proper : parent.IsHexadecimal)
    (short : (Text.encodeUtf8 otherMessage).length < digits) :
    preimage (some parent) sequence message entities ≠
      preimage none otherSequence otherMessage ∅ := by
  intro same
  have lengths := congrArg List.length same
  have plain : (∅ : Entities).entries = [] := rfl
  simp only [preimage, plain, List.flatMap_nil, List.append_nil, List.nil_append,
    List.length_append, Sha256.length_bigEndian, proper.length_encodeUtf8] at lengths
  omega

end RevisionId

end Workstream
