import Workstream.Log.Directive
import Workstream.Text.Segments

/-!
# Log filters

A filter is a comma-separated list of directives. Of the directives that apply to an
event, the most specific one decides: the event is written when its level is not below
the level of the directive. Of equally specific ones the last one decides. An event to
which no directive applies is not written.
-/

namespace Workstream

/-- Which log events are written. -/
structure LogFilter where
  directives : List LogDirective

namespace LogFilter

/-- The filter that writes every event up to a level. -/
def upTo (level : LogLevel) : LogFilter :=
  ⟨[{ target := "", field := none, inSpan := false, threshold := some level }]⟩

/-- Read a filter. An empty list of directives lets errors through. -/
def parse (text : String) : Except DirectiveError LogFilter :=
  let parts := (Text.Segments.splitString ',' text).filter (· ≠ "")
  if parts = [] then .ok (upTo .error)
  else do
    let directives ← parts.mapM LogDirective.parse
    return ⟨directives⟩

/-- The filter that a value stands for. A missing or malformed one stands for all events
up to the level of information. A value stands for no filter when one of its directives
would have to be cut inside a character. -/
def ofValue? : Option String → Option LogFilter
  | none => some (upTo .info)
  | some value =>
    match parse value with
    | .ok filter => some filter
    | .error .malformed => some (upTo .info)
    | .error .insideCharacter => none

/-- The more specific of two directives, the second one when they are equally specific. -/
def moreSpecific : Option LogDirective → LogDirective → Option LogDirective
  | none, directive => some directive
  | some best, directive =>
    if directive.isAsSpecific best then some directive else some best

/-- The directive that decides about an event. -/
def deciding? (filter : LogFilter) (event : LogEvent) : Option LogDirective :=
  (filter.directives.filter (·.appliesTo event)).foldl moreSpecific none

/-- Whether an event is written. -/
def lets (filter : LogFilter) (event : LogEvent) : Bool :=
  match (filter.deciding? event).bind (·.threshold) with
  | some level => event.level.verbosity ≤ level.verbosity
  | none => false

end LogFilter

end Workstream
