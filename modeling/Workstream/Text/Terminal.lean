import Workstream.Text.Utf8

/-!
# Terminal sequences

A terminal takes some characters as commands and shows the others. Where a text from
outside stands in a message, only what a terminal would show of it is kept.

A command begins with the escape character. What follows decides how long it is: a
single character, a control sequence up to its final letter, or a string up to its
terminator. The table is the usual one for terminals of the VT500 series.
-/

namespace Workstream.Text

/-- What a terminal is reading. -/
inductive TerminalState where
  | ground
  /-- A command, of which nothing but the escape character was read. -/
  | escape
  /-- A command with a character that announces another one. -/
  | escapeIntermediate
  | control
  | deviceStart
  | deviceParameter
  | deviceIntermediate
  | string
  | systemCommand
deriving DecidableEq

/-- The control characters that move on in the text. -/
def layoutControls : List Char := ['\t', '\n', '\x0c', '\r']

/-- Whether a character is a control character of ASCII that moves nothing. -/
def isTerminalControl (character : Char) : Bool :=
  character.toNat = 0x7f || (character.toNat < 0x20 && !layoutControls.contains character)

namespace TerminalState

/-- The state after the character that follows the escape character. -/
def afterEscape (code : Nat) : TerminalState :=
  if code < 0x20 || 0x7f ≤ code then .escape
  else if code < 0x30 then .escapeIntermediate
  else if code = 0x50 then .deviceStart
  else if code = 0x5b then .control
  else if code = 0x5d then .systemCommand
  else if code = 0x58 || code = 0x5e || code = 0x5f then .string
  else .ground

/-- The state after a character at the beginning of a device control string or in its
parameters. -/
def afterDevice (state : TerminalState) (code : Nat) : TerminalState :=
  if code < 0x20 || 0x7f ≤ code then state
  else if code < 0x30 then .deviceIntermediate
  else if code < 0x3c || (code < 0x40 && state = .deviceStart) then .deviceParameter
  else .string

/-- Whether a character ends a string, which it does when U+009C, as a single byte, is
among the bytes that encode it. -/
def endsString (character : Char) : Bool :=
  (encodeUtf8 character.toString).contains 0x9c

/-- The state after a character that is not shown. -/
def after (state : TerminalState) (character : Char) : TerminalState :=
  let code := character.toNat
  if code = 0x18 || code = 0x1a then .ground
  else if code = 0x1b then .escape
  else
    match state with
    | .ground => .ground
    | .escape => afterEscape code
    | .escapeIntermediate => if 0x30 ≤ code && code < 0x7f then .ground else state
    | .control => if 0x40 ≤ code && code < 0x7f then .ground else state
    | .deviceStart | .deviceParameter => afterDevice state code
    | .deviceIntermediate => if 0x30 ≤ code && code < 0x7f then .string else state
    | .string => if endsString character then .ground else state
    | .systemCommand => if code = 0x07 then .ground else state

/-- Whether a character that is no control character is shown. Line ends and tabs are
also shown in the midst of most commands. -/
def shows (state : TerminalState) (character : Char) : Bool :=
  match state with
  | .ground => true
  | .escape | .escapeIntermediate | .control => character.toNat < 0x20
  | _ => false

end TerminalState

/-- The characters that are shown. After a character that is shown others are shown up to
the next control character, whatever the state; a command that was interrupted goes on
there, unless a character outside ASCII came between. -/
def shownFrom (state : TerminalState) (showing : Bool) : List Char → List Char
  | [] => []
  | character :: rest =>
    if !isTerminalControl character && (showing || state.shows character) then
      let state := if character.toNat < 0x80 then state else .ground
      character :: shownFrom state true rest
    else shownFrom (state.after character) false rest

/-- What a terminal shows of a text. -/
def withoutSequences (text : String) : String :=
  String.ofList (shownFrom .ground false text.toList)

end Workstream.Text
