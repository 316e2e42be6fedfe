import Workstream.Text.Unprintable

/-!
# Quoted text in messages

A rejected value is shown in a message between double quotes, so that blanks at its
ends and characters without a visible form stay recognisable. Inside the quotes the
quote, the backslash, the line feed, the carriage return, the tab and the null
character have a two-character form; any other character without a visible form is
written as `\u` with its code point in braces, in lower-case hexadecimal digits; all
else stands for itself. A single quote needs no escape.
-/

namespace Workstream.Text

/-- The form of one character inside quotes. -/
def quoteChar (character : Char) : List Char :=
  match character with
  | '"' => ['\\', '"']
  | '\\' => ['\\', '\\']
  | '\n' => ['\\', 'n']
  | '\r' => ['\\', 'r']
  | '\t' => ['\\', 't']
  | '\x00' => ['\\', '0']
  | _ =>
    if isUnprintable character then
      ['\\', 'u', '\x7b'] ++ Nat.toDigits 16 character.toNat ++ ['\x7d']
    else
      [character]

/-- A text between double quotes. -/
def quoted (text : String) : String :=
  String.ofList ('"' :: (text.toList.flatMap quoteChar ++ ['"']))

end Workstream.Text
