import Workstream.Json

/-!
# Log events

What an operation has to say about its run is returned beside its result, as a list of
events. An event has a level, the part of the program that reports it, a message and
named fields.
-/

namespace Workstream

/-- How important an event is, the most important first. -/
inductive LogLevel where
  | error
  | warn
  | info
  | debug
  | trace
deriving DecidableEq

namespace LogLevel

/-- The name of a level in log lines. -/
def label : LogLevel → String
  | .error => "ERROR"
  | .warn => "WARN"
  | .info => "INFO"
  | .debug => "DEBUG"
  | .trace => "TRACE"

/-- The number of a level; a filter for a level lets every smaller number through. -/
def verbosity : LogLevel → Nat
  | .error => 1
  | .warn => 2
  | .info => 3
  | .debug => 4
  | .trace => 5

end LogLevel

/-- The parts of the program that report events. -/
inductive LogSource where
  | branchNames
  | branchCommand
  | store
  | resources
deriving DecidableEq

/-- The path by which filters select a source. -/
def LogSource.path : LogSource → String
  | .branchNames => "sdlc_core::branch"
  | .branchCommand => "sdlc::branch_cmd"
  | .store => "sdlc::backend::memory"
  | .resources => "sdlc::resources"

/-- The value of a field of an event. -/
inductive LogValue where
  /-- A text, which human readers see as it is. -/
  | text (value : String)
  /-- A text, which human readers see between quotes. -/
  | quoted (value : String)
  | number (value : Nat)
  | flag (value : Bool)
deriving DecidableEq

/-- The JSON form of a value. -/
def LogValue.json : LogValue → Json
  | .text value => .text value
  | .quoted value => .text value
  | .number value => .ofNat value
  | .flag value => .bool value

/-- Something that an operation reports about its run. -/
structure LogEvent where
  level : LogLevel
  source : LogSource
  message : String
  fields : List (String × LogValue)
deriving DecidableEq

namespace LogEvent

/-- The name under which the message is found among the fields. -/
def messageField : String := "message"

/-- Whether an event has a field, where the message counts as one. -/
def hasField (event : LogEvent) (name : String) : Bool :=
  name = messageField || event.fields.any (·.1 = name)

/-- The JSON form of the fields. -/
def fieldsJson (event : LogEvent) : List (String × Json) :=
  event.fields.map fun (name, value) => (name, value.json)

end LogEvent

end Workstream
