import Workstream.Text.Alphanumeric
import Workstream.Text.Blank
import Workstream.Text.CodePoint

/-!
# Patterns for the values of fields

A directive of a log filter may ask for a value of a field, either as a number or as a
regular expression. No event carries a field that is compared with such a pattern here,
so only the form of a pattern counts: `isWellFormed` tells whether it is one.

A regular expression is well-formed when

* its groups are closed, their names differ, and their flags are known ones;
* its sets of characters are closed and their ranges ascend;
* what is repeated is something that can be repeated;
* every backslash introduces something known.

Counted repetition needs braces, and a value ends at the first closing one, so an
opening brace outside a set is never well-formed. Looking ahead or behind and the ends
of words are not supported.
-/

namespace Workstream.ValuePattern

/-- The rest of a pattern. -/
abbrev Place := List Char

/-- What stands at a place of a pattern. -/
inductive Item where
  | character (value : Char)
  | set
  /-- A condition on the place, which no character belongs to. -/
  | condition

/-- Skip blanks and comments, where a comment reaches from `#` to the end of the line. -/
def skipBlanks (inComment : Bool) : Place → Place
  | [] => []
  | character :: rest =>
    if inComment then skipBlanks (character ≠ '\n') rest
    else if Text.isBlank character then skipBlanks false rest
    else if character = '#' then skipBlanks true rest
    else character :: rest

/-- Skip what has no meaning. Blanks and comments have none in a spaced pattern. -/
def skip (spaced : Bool) (place : Place) : Place :=
  if spaced then skipBlanks false place else place

/-- The number of hexadecimal digits that a letter announces. -/
def digitCount? : Char → Option Nat
  | 'x' => some 2
  | 'u' => some 4
  | 'U' => some 8
  | _ => none

/-- Read so many hexadecimal digits of a code point. -/
def readDigits (spaced : Bool) : Nat → Nat → Place → Option (Item × Place)
  | 0, value, place => (Text.ofCode? value).map fun character => (.character character, place)
  | _ + 1, _, [] => none
  | count + 1, value, digit :: rest =>
    (Text.hexDigit? digit).bind fun digit =>
      readDigits spaced count (value * 16 + digit) (skip spaced rest)

/-- The letters that name a general category of characters. -/
def categories : List Char := ['L', 'M', 'N', 'P', 'S', 'Z', 'C']

/-- Read the letter of a general category. -/
def readCategory (spaced : Bool) : Place → Option (Item × Place)
  | letter :: rest =>
    if categories.contains letter.toUpper then some (.set, skip spaced rest) else none
  | [] => none

/-- What a letter stands for that nothing belongs to. -/
def letterItem? : Char → Option Item
  | 'a' => some (.character '\x07')
  | 'f' => some (.character '\x0c')
  | 't' => some (.character '\t')
  | 'n' => some (.character '\n')
  | 'r' => some (.character '\r')
  | 'v' => some (.character '\x0b')
  | 'd' | 'D' | 's' | 'S' | 'w' | 'W' => some .set
  | 'A' | 'z' => some .condition
  | _ => none

/-- Whether a character that is not a letter or a digit stands for itself after a
backslash. -/
def isEscapable (character : Char) : Bool :=
  character.toNat < 0x80 && !character.isAlphanum && character ≠ '<' && character ≠ '>'

/-- Read what follows a backslash. -/
def readEscape (spaced : Bool) : Place → Option (Item × Place)
  | [] => none
  | character :: rest =>
    match digitCount? character, letterItem? character with
    | some count, _ => readDigits spaced count 0 (skip spaced rest)
    | none, some item => some (item, rest)
    | none, none =>
      if character = 'p' || character = 'P' then readCategory spaced (skip spaced rest)
      else if isEscapable character then some (.character character, rest)
      else none

/-- The names of sets that stand between colons in brackets of their own. -/
def setNames : List String :=
  ["alnum", "alpha", "ascii", "blank", "cntrl", "digit", "graph", "lower", "print", "punct",
   "space", "upper", "word", "xdigit"]

/-- Read a named set inside a set, after its opening bracket. -/
def readNamedSet : Place → Option Place
  | ':' :: rest =>
    let rest := match rest with
      | '^' :: rest => rest
      | _ => rest
    let name := rest.takeWhile (· ≠ ':')
    match rest.drop name.length with
    | ':' :: ']' :: rest => if setNames.contains (String.ofList name) then some rest else none
    | _ => none
  | _ => none

/-- Read a member of a set, or one end of a range. -/
def readMember (spaced : Bool) : Place → Option (Item × Place)
  | [] => none
  | '\\' :: rest => readEscape spaced rest
  | character :: rest => some (.character character, rest)

/-- Read a member of a set or a range. A dash before another one or before the closing
bracket makes no range. -/
def readRange (spaced : Bool) (place : Place) : Option Place := do
  let (first, rest) ← readMember spaced place
  let rest := skip spaced rest
  let alone := match first with
    | .condition => none
    | _ => some rest
  match rest with
  | '-' :: after =>
    let after := skip spaced after
    if after.head? = some ']' || after.head? = some '-' then alone
    else
      match first, ← readMember spaced after with
      | .character low, (.character high, rest) => if low ≤ high then some rest else none
      | _, _ => none
  | _ => alone

/-- How much of a set was read. -/
inductive SetPlace where
  /-- Nothing, so that a closing bracket stands for itself. -/
  | start
  /-- Nothing but dashes, so that another dash stands for itself. -/
  | dashes
  | inside

/-- Skip the sign that turns a set into its complement. -/
def skipComplement (spaced : Bool) (place : Place) : Place :=
  match skip spaced place with
  | '^' :: rest => rest
  | place => place

/-- Read a set after its opening bracket, at a depth inside other sets. The steps are at
least as many as there are characters. -/
def readSet (spaced : Bool) : Nat → Nat → SetPlace → Place → Option Place
  | 0, _, _, _ => none
  | steps + 1, depth, setPlace, place =>
    match setPlace, skip spaced place with
    | _, [] => none
    | .start, ']' :: rest => readSet spaced steps depth .inside rest
    | .start, '-' :: rest | .dashes, '-' :: rest => readSet spaced steps depth .dashes rest
    | _, '[' :: rest =>
      match readNamedSet rest with
      | some rest => readSet spaced steps depth .inside rest
      | none => readSet spaced steps (depth + 1) .start (skipComplement spaced rest)
    | _, ']' :: rest =>
      match depth with
      | 0 => some rest
      | depth + 1 => readSet spaced steps depth .inside rest
    | _, '&' :: '&' :: rest | _, '-' :: '-' :: rest | _, '~' :: '~' :: rest =>
      readSet spaced steps depth .inside rest
    | _, place => (readRange spaced place).bind (readSet spaced steps depth .inside)

/-- The letters of the flags. -/
def flagLetters : List Char := ['i', 'm', 's', 'U', 'u', 'R', 'x']

/-- Read flags and the character that ends them. Those that were read already are given
in reverse. Flags after the dash are switched off, so at least one has to follow it. -/
def readFlags (front : List Char) : Place → Option (List Char × Char × Place)
  | [] => none
  | character :: rest =>
    if character = ':' || character = ')' then
      if front.head? = some '-' then none else some (front, character, rest)
    else if front.contains character then none
    else if character = '-' || flagLetters.contains character then
      readFlags (character :: front) rest
    else none

/-- Whether a pattern is spaced under flags that are given in reverse. -/
def isSpaced (spaced : Bool) (flags : List Char) : Bool :=
  if flags.contains 'x' then !(flags.dropWhile (· ≠ 'x')).contains '-' else spaced

/-- Whether a text is the name of a group. -/
def isGroupName : List Char → Bool
  | [] => false
  | first :: rest =>
    (first = '_' || (Text.isAlphanumeric first && !first.isDigit)) &&
      rest.all fun character =>
        ['_', '.', '[', ']'].contains character || Text.isAlphanumeric character

/-- What an opening parenthesis begins. -/
inductive Opening where
  /-- A group, spaced or not, perhaps with a name. -/
  | group (spaced : Bool) (name : Option (List Char))
  | flags (spaced : Bool)

/-- Read the name of a group up to the bracket that ends it. -/
def readGroupName (spaced : Bool) (place : Place) : Option (Opening × Place) :=
  let name := place.takeWhile (· ≠ '>')
  match place.drop name.length with
  | _ :: rest => if isGroupName name then some (.group spaced (some name), rest) else none
  | [] => none

/-- Read what belongs to an opening parenthesis. -/
def readOpening (spaced : Bool) (place : Place) : Option (Opening × Place) :=
  match skip spaced place with
  | '?' :: 'P' :: '<' :: rest => readGroupName spaced rest
  | '?' :: '<' :: rest => readGroupName spaced rest
  | '?' :: rest =>
    match readFlags [] rest with
    | none => none
    | some (flags, ending, rest) =>
      if ending = ':' then some (.group (isSpaced spaced flags) none, rest)
      else if flags = [] then none
      else some (.flags (isSpaced spaced flags), rest)
  | rest => some (.group spaced none, rest)

/-- How far the reading of a pattern has come. -/
structure Progress where
  /-- Whether blanks have no meaning. -/
  spaced : Bool
  /-- The same for what surrounds each open group, the innermost one first. -/
  outer : List Bool
  names : List (List Char)
  repeatable : Bool

/-- The progress at the beginning of a pattern. -/
def Progress.start : Progress :=
  { spaced := false, outer := [], names := [], repeatable := false }

/-- Open a group, whose name is a new one, or change flags. -/
def Progress.enter (progress : Progress) : Opening → Option Progress
  | .flags spaced => some { progress with spaced, repeatable := false }
  | .group spaced name =>
    if name.any progress.names.contains then none
    else some
      { spaced, outer := progress.spaced :: progress.outer,
        names := name.toList ++ progress.names, repeatable := false }

/-- Read one part of a pattern that is not at its end. -/
def readPart (progress : Progress) : Place → Option (Progress × Place)
  | [] => none
  | '(' :: rest =>
    (readOpening progress.spaced rest).bind fun (opening, rest) =>
      (progress.enter opening).map fun progress => (progress, rest)
  | ')' :: rest =>
    match progress.outer with
    | [] => none
    | spaced :: outer => some ({ progress with spaced, outer, repeatable := true }, rest)
  | '|' :: rest => some ({ progress with repeatable := false }, rest)
  | '[' :: rest =>
    (readSet progress.spaced (rest.length + 1) 0 .start
      (skipComplement progress.spaced rest)).map fun rest =>
        ({ progress with repeatable := true }, rest)
  | '{' :: _ => none
  | '\\' :: rest =>
    (readEscape progress.spaced rest).map fun (_, rest) =>
      ({ progress with repeatable := true }, rest)
  | character :: rest =>
    if ['*', '+', '?'].contains character then
      if progress.repeatable then
        some (progress, if rest.head? = some '?' then rest.drop 1 else rest)
      else none
    else some ({ progress with repeatable := true }, rest)

/-- Whether the rest of a pattern is well-formed. The steps are more than there are
characters. -/
def isComplete : Nat → Progress → Place → Bool
  | 0, _, _ => false
  | steps + 1, progress, place =>
    match skip progress.spaced place with
    | [] => progress.outer.isEmpty
    | place =>
      match readPart progress place with
      | some (progress, rest) => isComplete steps progress rest
      | none => false

/-- Whether a text is a decimal number, perhaps with an exponent, without a sign. -/
def isNumber (text : List Char) : Bool :=
  let whole := text.takeWhile Char.isDigit
  let (places, rest) := match text.drop whole.length with
    | '.' :: rest => (rest.takeWhile Char.isDigit, rest.dropWhile Char.isDigit)
    | rest => ([], rest)
  let exponent := match rest with
    | [] => true
    | mark :: '+' :: digits | mark :: '-' :: digits | mark :: digits =>
      mark.toLower = 'e' && !digits.isEmpty && digits.all Char.isDigit
  !(whole ++ places).isEmpty && exponent

/-- The words that stand for numbers. -/
def numberWords : List String := ["inf", "infinity", "nan"]

/-- Whether a text is well-formed as the value of a field. A plus sign in front belongs
to a number, since as a regular expression it would repeat nothing. -/
def isWellFormed : List Char → Bool
  | '+' :: number =>
    isNumber number || numberWords.contains (String.ofList (number.map Char.toLower))
  | pattern => isComplete (pattern.length + 1) .start pattern

end Workstream.ValuePattern
