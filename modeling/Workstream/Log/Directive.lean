import Workstream.Log.ValuePattern
import Workstream.Log
import Workstream.Text.Utf8

/-!
# Directives of log filters

A directive is one of

* a level: `debug`
* the beginning of the path of a source, with a level or without one: `sdlc=debug`
* one of these with a span in brackets, perhaps with a field in braces:
  `sdlc[name{field=value}]=debug`

A directive with a field alone selects the events that have the field. One with the name
of a span or with the value of a field selects events inside spans; no event that is
filtered here lies in a span.

The form of a directive is found in its text without the blank characters at the ends,
while its parts are cut from the whole text at the same distances from the beginning,
counted in bytes. So each blank character in front moves all parts, and those at the end
belong to the last part. A cut inside a character is not possible.
-/

namespace Workstream

/-- The least important level that is written; nothing is written without one. -/
abbrev LogThreshold := Option LogLevel

/-- One directive of a filter. -/
structure LogDirective where
  /-- What the path of the source has to begin with. -/
  target : String
  /-- The field that an event has to have. -/
  field : Option String
  /-- Whether it selects events inside spans. -/
  inSpan : Bool
  threshold : LogThreshold
deriving DecidableEq

/-- Why a text is no directive. -/
inductive DirectiveError where
  | malformed
  /-- A part would have to be cut inside a character. -/
  | insideCharacter
deriving DecidableEq

namespace LogThreshold

/-- The levels by their numbers. -/
def byNumber : List LogThreshold :=
  [none, some .error, some .warn, some .info, some .debug, some .trace]

/-- The name of a threshold. -/
def name : LogThreshold → String
  | none => "off"
  | some level => level.label.toLower

/-- The threshold with a number. A plus sign may stand in front of it. -/
def ofNumber? (text : List Char) : Option LogThreshold :=
  let digits := match text with
    | '+' :: digits => digits
    | digits => digits
  if digits.isEmpty || !digits.all Char.isDigit then none
  else byNumber[digits.foldl (fun number digit => number * 10 + (digit.toNat - 48)) 0]?

/-- The threshold that a number or a name stands for, without regard to the case of
letters. -/
def parse? (text : List Char) : Option LogThreshold :=
  match byNumber.find? fun threshold => threshold.name = (String.ofList text).toLower with
  | some threshold => some threshold
  | none => ofNumber? text

/-- The threshold after an equals sign. A missing one lets everything through. -/
def assigned (text : List Char) : Except DirectiveError LogThreshold :=
  if text = [] then .ok (some .trace)
  else
    match parse? text with
    | some threshold => .ok threshold
    | none => .error .malformed

end LogThreshold

namespace LogDirective

/-- The part of a text between two distances from its beginning. -/
def cut (text : List Char) (start stop : Nat) : Except DirectiveError (List Char) :=
  match (Text.dropBytes? start text).bind (Text.takeBytes? (stop - start)) with
  | some part => .ok part
  | none => .error .insideCharacter

/-- The part of a text from a distance on. -/
def cutFrom (text : List Char) (start : Nat) : Except DirectiveError (List Char) :=
  match Text.dropBytes? start text with
  | some part => .ok part
  | none => .error .insideCharacter

/-- Whether a directive without a span in front may begin with a character. -/
def canBegin (character : Char) : Bool :=
  Text.isAlphanumeric character || ['-', ':', '_'].contains character

/-- A directive with nothing but a level or a path. -/
def ofWord (text : List Char) : LogDirective :=
  match LogThreshold.parse? text with
  | some threshold => { target := "", field := none, inSpan := false, threshold }
  | none =>
    { target := String.ofList text, field := none, inSpan := false, threshold := some .trace }

/-- The name of a field, and whether a value is asked for. -/
def parseField (text : List Char) : Except DirectiveError (String × Bool) :=
  let name := text.takeWhile (· ≠ '=')
  let value? := match text.drop name.length with
    | [] => none
    | _ :: rest => some (rest.takeWhile (· ≠ '='))
  if text = [] || !(value?.all ValuePattern.isWellFormed) then .error .malformed
  else .ok (String.ofList name, value?.isSome)

/-- Read the level that may follow a span, at a distance from the beginning. -/
def readThreshold (text : List Char) (start : Nat) :
    List Char → Except DirectiveError LogThreshold
  | [] => .ok (some .trace)
  | '=' :: _ => do LogThreshold.assigned (← cutFrom text (start + 1))
  | _ => .error .malformed

/-- Read a span after its opening bracket, at a distance from the beginning. -/
def readSpan (text : List Char) (target : String) (start : Nat) (rest : List Char) :
    Except DirectiveError LogDirective := do
  let name := rest.takeWhile fun character => character ≠ ']' && character ≠ '{'
  let stop := start + Text.byteCount name
  match rest.drop name.length with
  | ']' :: rest =>
    let _ ← cut text start stop
    let threshold ← readThreshold text (stop + 1) rest
    return { target, field := none, inSpan := true, threshold }
  | _ :: rest =>
    let span ← cut text start stop
    let field := rest.takeWhile (· ≠ '}')
    match rest.drop field.length with
    | [] => .error .malformed
    | _ :: rest =>
      let fieldStop := stop + 1 + Text.byteCount field
      let (field, valued) ← parseField (← cut text (stop + 1) fieldStop)
      match rest with
      | ']' :: rest =>
        let threshold ← readThreshold text (fieldStop + 2) rest
        return { target, field := some field, inSpan := span ≠ [] || valued, threshold }
      | _ => .error .malformed
  | [] => .error .malformed

/-- Read a directive. -/
def parse (directive : String) : Except DirectiveError LogDirective :=
  let text := directive.toList
  let inner := Text.trimChars text
  match inner with
  | [] => .error .malformed
  | '[' :: rest => readSpan text "" 1 rest
  | first :: _ =>
    if canBegin first then do
      let word := inner.takeWhile fun character => character ≠ '=' && character ≠ '['
      let stop := Text.byteCount word
      match inner.drop word.length with
      | [] => return ofWord text
      | '[' :: rest =>
        readSpan text (String.ofList (← cut text 0 stop)) (stop + 1) rest
      | _ =>
        let target := String.ofList (← cut text 0 stop)
        let threshold ← LogThreshold.assigned (← cutFrom text (stop + 1))
        return { target, field := none, inSpan := false, threshold }
    else .error .malformed

/-- Whether a directive applies to an event. -/
def appliesTo (directive : LogDirective) (event : LogEvent) : Bool :=
  !directive.inSpan && directive.target.toList.isPrefixOf event.source.path.toList &&
    directive.field.all event.hasField

/-- Whether a directive is at least as specific as another one that applies to the same
event. A longer path is more specific, then a field, of two fields the greater one. -/
def isAsSpecific (directive other : LogDirective) : Bool :=
  if directive.target.length = other.target.length then
    match directive.field, other.field with
    | _, none => true
    | none, some _ => false
    | some name, some otherName => otherName ≤ name
  else other.target.length < directive.target.length

end LogDirective

end Workstream
