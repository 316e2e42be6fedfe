/-!
# Text from bytes

Bytes from outside are read as UTF-8. Strict reading refuses a malformed sequence;
lenient reading puts U+FFFD in its place, once for each longest run of bytes that
begins a well-formed sequence, or once for a single byte that begins none.

Places inside a text are counted in bytes too. A cut at such a place is possible between
two characters only.
-/

namespace Workstream.Text

/-- The text that the bytes encode, if they are well-formed UTF-8. -/
def decodeUtf8 (bytes : List UInt8) : Option String :=
  String.fromUTF8? ⟨bytes.toArray⟩

/-- The bytes that encode a text. -/
def encodeUtf8 (text : String) : List UInt8 :=
  text.toUTF8.data.toList

/-- The inclusive ranges of the bytes that may follow a lead byte, in order;
nothing for a byte that leads no sequence. -/
def continuationRanges (lead : UInt8) : Option (List (UInt8 × UInt8)) :=
  let tail : UInt8 × UInt8 := (0x80, 0xbf)
  if lead < 0x80 then some []
  else if 0xc2 ≤ lead && lead ≤ 0xdf then some [tail]
  else if lead = 0xe0 then some [(0xa0, 0xbf), tail]
  else if lead = 0xed then some [(0x80, 0x9f), tail]
  else if 0xe1 ≤ lead && lead ≤ 0xef then some [tail, tail]
  else if lead = 0xf0 then some [(0x90, 0xbf), tail, tail]
  else if lead = 0xf4 then some [(0x80, 0x8f), tail, tail]
  else if 0xf1 ≤ lead && lead ≤ 0xf3 then some [tail, tail, tail]
  else none

/-- How many of the next bytes fit the ranges, one byte for each range. -/
def fittingBytes : List (UInt8 × UInt8) → List UInt8 → Nat
  | (low, high) :: ranges, byte :: rest =>
    if low ≤ byte && byte ≤ high then fittingBytes ranges rest + 1 else 0
  | _, _ => 0

/-- The code point of a well-formed sequence. -/
def sequenceCode (lead : UInt8) (continuation : List UInt8) : Nat :=
  let high := match continuation.length with
    | 0 => lead.toNat
    | 1 => lead.toNat % 0x20
    | 2 => lead.toNat % 0x10
    | _ => lead.toNat % 0x08
  continuation.foldl (fun code byte => code * 0x40 + byte.toNat % 0x40) high

/-- The characters of a byte string, with U+FFFD for what is malformed. -/
def decodeLenient : List UInt8 → List Char
  | [] => []
  | lead :: rest =>
    match continuationRanges lead with
    | none => '\ufffd' :: decodeLenient rest
    | some ranges =>
      let count := fittingBytes ranges rest
      let character :=
        if count = ranges.length then Char.ofNat (sequenceCode lead (rest.take count))
        else '\ufffd'
      character :: decodeLenient (rest.drop count)
termination_by bytes => bytes.length
decreasing_by
  · simp
  · simp only [List.length_cons, List.length_drop]
    omega

/-- The characters at the front that are encoded in exactly the given number of bytes. -/
def takeBytes? : Nat → List Char → Option (List Char)
  | 0, _ => some []
  | _ + 1, [] => none
  | size + 1, character :: rest =>
    if character.utf8Size ≤ size + 1 then
      (takeBytes? (size + 1 - character.utf8Size) rest).map (character :: ·)
    else
      none

/-- What follows the characters at the front that are encoded in exactly the given number
of bytes. -/
def dropBytes? (size : Nat) (characters : List Char) : Option (List Char) :=
  (takeBytes? size characters).map fun front => characters.drop front.length

/-- The number of bytes that encode characters. -/
def byteCount : List Char → Nat
  | [] => 0
  | character :: rest => character.utf8Size + byteCount rest

/-- Lines with one more byte in front of them. A line feed is a line of its own there. -/
def addByte (byte : UInt8) (lines : List (List UInt8)) : List (List UInt8) :=
  if byte = 10 then
    [byte] :: lines
  else
    match lines with
    | [] => [[byte]]
    | line :: more => (byte :: line) :: more

/-- The lines of a byte string. A line feed ends a line and belongs to it; what
follows the last line feed is a line when it is not empty. -/
def byteLines (bytes : List UInt8) : List (List UInt8) := bytes.foldr addByte []

end Workstream.Text
