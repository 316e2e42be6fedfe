import Workstream.Log.Filter
import Workstream.Log.Mode

/-!
# Writing log events

Events that the filter lets through are written in the layout of the mode, each with a
line feed at its end.
-/

namespace Workstream

/-- How log events are written, and which. -/
structure LogWriter where
  mode : LogMode
  filter : LogFilter

namespace LogWriter

/-- The writer that a value for the mode and one for the filter stand for. The value for
the filter counts only when something is written; there is no writer when it stands for
no filter then. -/
def ofValues? (modeValue filterValue : Option String) : Option LogWriter :=
  match LogMode.ofValue modeValue with
  | .off => some { mode := .off, filter := .upTo .info }
  | mode => (LogFilter.ofValue? filterValue).map fun filter => { mode, filter }

/-- What is written for events. -/
def text (writer : LogWriter) (events : List LogEvent) : String :=
  String.join (((events.filter writer.filter.lets).filterMap writer.mode.line?).map (· ++ "\n"))

end LogWriter

end Workstream
