import Workstream.Text.Segments

/-!
# Wrapped text

Text for a page with so many columns. A line that does not fit is broken between words;
the blanks there are left out, and all others stay. A word that is longer than a line
stays whole. Every character takes one column.
-/

namespace Workstream.Text

/-- Words with a character in front of them. Each word comes with the number of blanks
that follow it. -/
def addToWords (character : Char) (words : List (List Char × Nat)) : List (List Char × Nat) :=
  match character, words with
  | ' ', ([], blanks) :: rest => ([], blanks + 1) :: rest
  | ' ', words => ([], 1) :: words
  | character, [] => [([character], 0)]
  | character, (word, blanks) :: rest => (character :: word, blanks) :: rest

/-- The words of a line, each with the number of blanks that follow it. Blanks in front
of all words follow an empty one. -/
def words (line : List Char) : List (List Char × Nat) := line.foldr addToWords []

/-- Words in lines of at most so many columns, where some columns of the first line are
taken. -/
def fill (columns taken : Nat) : List (List Char × Nat) → List Char
  | [] => []
  | [(word, _)] => word
  | (word, blanks) :: (next, nextBlanks) :: rest =>
    let place := taken + word.length + blanks
    word ++
      if place + next.length ≤ columns then
        List.replicate blanks ' ' ++ fill columns place ((next, nextBlanks) :: rest)
      else
        '\n' :: fill columns 0 ((next, nextBlanks) :: rest)

/-- A text with every line wrapped. -/
def wrap (columns : Nat) (text : String) : String :=
  "\n".intercalate ((Segments.splitString '\n' text).map fun line =>
    String.ofList (fill columns 0 (words line.toList)))

/-- A text whose lines begin after so many blanks, empty lines and the first one apart. -/
def hang (blanks : Nat) (text : String) : String :=
  match Segments.splitString '\n' text with
  | [] => ""
  | first :: rest =>
    "\n".intercalate (first :: rest.map fun line =>
      if line = "" then "" else "".pushn ' ' blanks ++ line)

end Workstream.Text
