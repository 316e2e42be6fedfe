import Workstream.Log
import Workstream.Text.Blank
import Workstream.Text.Quoted

/-!
# Log modes

Log events are written to the standard error stream in one of two layouts, or not at
all. The mode is chosen by the value of an environment variable.
-/

namespace Workstream

/-- How log events are written. -/
inductive LogMode where
  | off
  /-- Each event as a JSON object on a line of its own. -/
  | json
  | pretty
deriving DecidableEq

namespace LogMode

/-- The mode that a value stands for, without regard to blank characters at its ends. A
value that names no mode stands for JSON. -/
def ofValue : Option String → LogMode
  | none => .off
  | some value =>
    let name := Text.trim value
    if name = "" then .off
    else if name.toLower = "pretty" then .pretty
    else .json

/-- The JSON form of an event. -/
def eventJson (event : LogEvent) : Json :=
  .object [("level", .text event.level.label),
    ("fields", .object ((LogEvent.messageField, .text event.message) :: event.fieldsJson)),
    ("target", .text event.source.path)]

/-- The written form of a field of an event for human readers. -/
def fieldText (field : String × LogValue) : String :=
  let (name, value) := field
  name ++ "=" ++ match value with
    | .text value => value
    | .quoted value => Text.quoted value
    | .number value => toString value
    | .flag value => if value then "true" else "false"

/-- What is written for an event, without the line feed at the end. For human readers it
may take several lines, since a text that is not quoted keeps its line feeds. -/
def line? : LogMode → LogEvent → Option String
  | .off, _ => none
  | .json, event => some (eventJson event).render
  | .pretty, event =>
    some (" ".intercalate ([event.level.label, event.source.path ++ ":", event.message] ++
      event.fields.map fieldText))

end LogMode

end Workstream
