import Workstream.Text.CodePoint
import Workstream.Toml.Trivia

/-!
# Strings in documents

A basic string stands in double quotes and knows escapes, a literal string stands in
single quotes and knows none. Three quotes open a long string, which may run over
several lines and hold up to two quotes in a row. A line feed that follows the opening
quotes directly does not belong to the string.

The readers take the text after the opening quotes.
-/

namespace Workstream.Toml

/-- Whether a character stands for itself in a string, quotes and backslashes apart. -/
def isPlain (character : Char) : Bool :=
  character = '\t' || (0x20 ≤ character.toNat && character.toNat ≠ 0x7f)

/-- The character that a letter stands for after a backslash. -/
def escaped? : Char → Option Char
  | 'b' => some '\x08'
  | 'f' => some '\x0c'
  | 'n' => some '\n'
  | 'r' => some '\r'
  | 't' => some '\t'
  | '\\' => some '\\'
  | '"' => some '"'
  | _ => none

/-- How far the reading of a backslash and what belongs to it has come. -/
inductive EscapeState where
  | none
  | opened
  /-- A code point is read, of which so many digits are missing. -/
  | code (missing value : Nat)
  /-- The backslash stands at the end of a line, and blanks before the line end are read. -/
  | lineEnd
  /-- The backslash stood at the end of a line, and blanks and line ends are left out. -/
  | skipping

/-- Read a basic string. What was read already is given in reverse. -/
def readBasic (state : EscapeState) (front : List Char) : Place → Except Error (String × Place)
  | [] => unexpected []
  | character :: rest =>
    match state with
    | .none =>
      if character = '"' then .ok (String.ofList front.reverse, rest)
      else if character = '\\' then readBasic .opened front rest
      else if isPlain character then readBasic .none (character :: front) rest
      else unexpected (character :: rest)
    | .opened =>
      match escaped? character with
      | some meant => readBasic .none (meant :: front) rest
      | none =>
        if character = 'u' then readBasic (.code 4 0) front rest
        else if character = 'U' then readBasic (.code 8 0) front rest
        else unexpected rest
    | .code missing value =>
      match Text.hexDigit? character with
      | none => unexpected (character :: rest)
      | some digit =>
        if missing ≤ 1 then
          match Text.ofCode? (value * 16 + digit) with
          | some meant => readBasic .none (meant :: front) rest
          | none => unexpected rest
        else
          readBasic (.code (missing - 1) (value * 16 + digit)) front rest
    | _ => unexpected (character :: rest)

/-- Read a literal string. -/
def readLiteral (place : Place) : Except Error (String × Place) :=
  let accepts := fun character => isPlain character && character ≠ '\''
  match place.dropWhile accepts with
  | '\'' :: rest => .ok (String.ofList (place.takeWhile accepts), rest)
  | stop => unexpected stop

/-- The end of a long string at a run of at least three quotes: the quotes that belong to
the string, and what follows those that close it. -/
def closeLong (quote : Char) (place : Place) : List Char × Place :=
  let extra := min 2 ((place.takeWhile (· = quote)).length - 3)
  (List.replicate extra quote, place.drop (extra + 3))

/-- Whether a long string ends here. -/
def closesLong (quote : Char) : Place → Bool
  | first :: second :: third :: _ => first = quote && second = quote && third = quote
  | _ => false

/-- Read a long basic string. -/
def readLongBasic (state : EscapeState) (front : List Char) :
    Place → Except Error (String × Place)
  | [] => unexpected []
  | '\r' :: '\n' :: rest =>
    match state with
    | .none => readLongBasic .none ('\n' :: front) rest
    | .opened | .lineEnd | .skipping => readLongBasic .skipping front rest
    | .code _ _ => unexpected ('\r' :: '\n' :: rest)
  | character :: rest =>
    match state with
    | .none | .skipping =>
      let skips := match state with
        | .skipping => isBlank character || character = '\n'
        | _ => false
      if skips then readLongBasic .skipping front rest
      else if closesLong '"' (character :: rest) then
        let (extra, after) := closeLong '"' (character :: rest)
        .ok (String.ofList (front.reverse ++ extra), after)
      else if character = '\\' then readLongBasic .opened front rest
      else if isPlain character || character = '\n' then
        readLongBasic .none (character :: front) rest
      else unexpected (character :: rest)
    | .opened =>
      match escaped? character with
      | some meant => readLongBasic .none (meant :: front) rest
      | none =>
        if character = 'u' then readLongBasic (.code 4 0) front rest
        else if character = 'U' then readLongBasic (.code 8 0) front rest
        else if character = '\n' then readLongBasic .skipping front rest
        else if isBlank character then readLongBasic .lineEnd front rest
        else unexpected rest
    | .lineEnd =>
      if character = '\n' then readLongBasic .skipping front rest
      else if isBlank character then readLongBasic .lineEnd front rest
      else unexpected (character :: rest)
    | .code missing value =>
      match Text.hexDigit? character with
      | none => unexpected (character :: rest)
      | some digit =>
        if missing ≤ 1 then
          match Text.ofCode? (value * 16 + digit) with
          | some meant => readLongBasic .none (meant :: front) rest
          | none => unexpected rest
        else
          readLongBasic (.code (missing - 1) (value * 16 + digit)) front rest

/-- Read a long literal string. -/
def readLongLiteral (front : List Char) : Place → Except Error (String × Place)
  | [] => unexpected []
  | '\r' :: '\n' :: rest => readLongLiteral ('\n' :: front) rest
  | character :: rest =>
    if closesLong '\'' (character :: rest) then
      let (extra, after) := closeLong '\'' (character :: rest)
      .ok (String.ofList (front.reverse ++ extra), after)
    else if isPlain character || character = '\n' then
      readLongLiteral (character :: front) rest
    else
      unexpected (character :: rest)

/-- What follows a line end at the front, if there is one. -/
def dropLineEnd (place : Place) : Place := (lineEnd? place).getD place

/-- Read a string that stays on one line. -/
def readShortText : Place → Except Error (String × Place)
  | '"' :: rest => readBasic .none [] rest
  | '\'' :: rest => readLiteral rest
  | place => unexpected place

/-- Read a string. -/
def readText (place : Place) : Except Error (String × Place) :=
  match place with
  | '"' :: '"' :: '"' :: rest => readLongBasic .none [] (dropLineEnd rest)
  | '\'' :: '\'' :: '\'' :: rest => readLongLiteral [] (dropLineEnd rest)
  | _ => readShortText place

end Workstream.Toml
