/-!
# JSON values

The values that are exchanged with other programs, and their compact written form:
no blanks between tokens, fields in the order in which the object lists them, and
in strings only the escapes that the grammar demands.
-/

namespace Workstream

/-- A JSON value. -/
inductive Json where
  | null
  | bool (value : Bool)
  /-- The number `digits / 10 ^ places`. -/
  | number (digits : Int) (places : Nat)
  | text (value : String)
  | array (items : List Json)
  /-- An object. Field names are not repeated. -/
  | object (fields : List (String × Json))
deriving Inhabited

namespace Json

/-- A whole number. -/
def ofNat (value : Nat) : Json := .number value 0

/-- A string, or `null` in place of a missing one. -/
def ofText? (value : Option String) : Json :=
  match value with
  | some present => .text present
  | none => .null

/-- The value of a field of an object. -/
def field? (value : Json) (name : String) : Option Json :=
  match value with
  | .object fields => fields.lookup name
  | _ => none

/-- The written form of one character of a string. -/
def escape (character : Char) : List Char :=
  match character with
  | '"' => ['\\', '"']
  | '\\' => ['\\', '\\']
  | '\n' => ['\\', 'n']
  | '\r' => ['\\', 'r']
  | '\t' => ['\\', 't']
  | '\x08' => ['\\', 'b']
  | '\x0c' => ['\\', 'f']
  | _ =>
    if character.toNat < 0x10 then
      ['\\', 'u', '0', '0', '0'] ++ Nat.toDigits 16 character.toNat
    else if character.toNat < 0x20 then
      ['\\', 'u', '0', '0'] ++ Nat.toDigits 16 character.toNat
    else
      [character]

/-- The written form of a string. -/
def renderText (value : String) : String :=
  String.ofList ('"' :: (value.toList.flatMap escape ++ ['"']))

/-- The written form of a number: its digits, with a point before the decimal places. -/
def renderNumber (digits : Int) (places : Nat) : String :=
  let sign := if digits < 0 then "-" else ""
  if places = 0 then
    sign ++ toString digits.natAbs
  else
    let all := Nat.toDigits 10 digits.natAbs
    let padded := List.replicate (places + 1 - all.length) '0' ++ all
    let whole := padded.length - places
    sign ++ String.ofList (padded.take whole ++ '.' :: padded.drop whole)

mutual

/-- The compact written form of a value. -/
def render : Json → String
  | .null => "null"
  | .bool value => if value then "true" else "false"
  | .number digits places => renderNumber digits places
  | .text value => renderText value
  | .array items => "[" ++ ",".intercalate (renderItems items) ++ "]"
  | .object fields => "\x7b" ++ ",".intercalate (renderFields fields) ++ "\x7d"

/-- The written forms of the items of an array. -/
def renderItems : List Json → List String
  | [] => []
  | item :: rest => render item :: renderItems rest

/-- The written forms of the fields of an object. -/
def renderFields : List (String × Json) → List String
  | [] => []
  | (name, value) :: rest => (renderText name ++ ":" ++ render value) :: renderFields rest

end

end Json

end Workstream
