/-!
# Keys as they are written

A message about a key shows it in the shortest form in which a document could hold it:
bare where its characters allow that, otherwise in double quotes, and in single quotes
where double quotes would need an escape for a quote or a backslash. A key that fits
neither kind of quotes as it is stands in double quotes with escapes.
-/

namespace Workstream.Toml

/-- Whether a key with the character needs no quotes. -/
def isBareKey (character : Char) : Bool :=
  character.isAlphanum || character = '-' || character = '_'

/-- Whether a character can only stand in a key as an escape. A tab can stand for itself. -/
def needsEscape (character : Char) : Bool :=
  (character.toNat < 0x20 && character ≠ '\t') || character = '\x7f'

/-- A character between double quotes. -/
def escapeKeyChar (character : Char) : List Char :=
  match character with
  | '\x08' => ['\\', 'b']
  | '\t' => ['\\', 't']
  | '\n' => ['\\', 'n']
  | '\x0c' => ['\\', 'f']
  | '\r' => ['\\', 'r']
  | '"' => ['\\', '"']
  | '\\' => ['\\', '\\']
  | _ =>
    if character.toNat < 0x10 then
      ['\\', 'u', '0', '0', '0'] ++ (Nat.toDigits 16 character.toNat).map Char.toUpper
    else if needsEscape character then
      ['\\', 'u', '0', '0'] ++ (Nat.toDigits 16 character.toNat).map Char.toUpper
    else
      [character]

/-- The written form of the characters of a key. -/
def writeKeyChars (key : List Char) : List Char :=
  let escaped := '"' :: (key.flatMap escapeKeyChar ++ ['"'])
  if !key.isEmpty && key.all isBareKey then key
  else if key.any needsEscape then escaped
  else if !key.contains '"' && !key.contains '\\' then escaped
  else if !key.contains '\'' then '\'' :: (key ++ ['\''])
  else escaped

/-- The written form of a key. -/
def writeKey (key : String) : String := String.ofList (writeKeyChars key.toList)

end Workstream.Toml
