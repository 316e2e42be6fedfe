import Workstream.Branch.Record
import Workstream.CommandLine.Invocation
import Workstream.Log.Writer
import Workstream.Settings.Reader

/-!
# Carrying out commands

A command turns the settings and what comes in on the standard input stream into a
report: what is printed, what is logged, and the exit status. Nothing else is read or
changed.
-/

namespace Workstream.CommandLine

/-- What a command leaves behind. -/
structure Report where
  exit : Nat
  output : String
  errors : String
  /-- What is logged, oldest first. -/
  events : List LogEvent

namespace Report

/-- The exit status for a result that is only partly good. -/
def status (good : Bool) : Nat := if good then 0 else 1

/-- The report about a failure. -/
def failure (message : String) : Report :=
  { exit := 1, output := "", errors := "Error: " ++ message ++ "\n", events := [] }

/-- A message with the cause of what it tells, which stands on lines of its own. -/
def withCause (message cause : String) : String :=
  message ++ "\n\nCaused by:\n    " ++
    "\n    ".intercalate (Text.Segments.splitString '\n' cause)

/-- The report about a notice. -/
def ofNotice (notice : Notice) : Report :=
  { exit := notice.exit, output := notice.output, errors := notice.errors, events := [] }

/-- The report that nothing was done, because there is no log writer. -/
def withoutWriter : Report :=
  { exit := 101
    output := ""
    errors := "\nThe log filter cannot be read.\n" ++
      "One of its directives would have to be cut inside a character.\n" ++
      "Leave out the blank characters in front of the directives.\n"
    events := [] }

/-- What is printed on the standard error stream, what is logged first. -/
def errorStream (writer : LogWriter) (report : Report) : String :=
  writer.text report.events ++ report.errors

end Report

namespace Task

/-- Print the name of the branch of a workspace. -/
def encodeReport (settings : Settings) (format : OutputFormat)
    (specification : Specification) : Report :=
  match BranchRecord.ofSpecification settings.user specification with
  | .ok record =>
    { exit := 0, output := record.encodedLine format ++ "\n", errors := "", events := [] }
  | .error cause =>
    Report.failure (Report.withCause ("cannot name " ++ specification.display) cause.message)

/-- Tell which workspaces branches belong to. -/
def decodeReport (project : String) (format : OutputFormat) (names : List String) : Report :=
  let records := names.map BranchRecord.ofName
  { exit := Report.status (records.all BranchRecord.isWorkspace)
    output := BranchRecord.print format records
    errors := ""
    events := names.flatMap (BranchName.decodeEvents project) }

/-- Pick the branches of workspaces out of a list. -/
def scanReport (project : String) (format : OutputFormat) (input : List UInt8) : Report :=
  { exit := 0
    output := BranchRecord.print format (BranchRecord.scan input)
    errors := ""
    events := BranchRecord.scanEvents project input }

/-- Check a name against a grammar. -/
def checkReport (format : OutputFormat) (kind : NameKind) (value : String) : Report :=
  { exit := Report.status (kind.accepts value)
    output := kind.verdict value format ++ "\n"
    errors := ""
    events := [] }

/-- Whether a task needs the standard input stream. -/
def readsInput : Task → Bool
  | .scan _ => true
  | _ => false

/-- Carry out a task. -/
def run (settings : Settings) (format : OutputFormat) (input : List UInt8) : Task → Report
  | .encode specification => encodeReport settings format specification
  | .decode names project => decodeReport (project.getD settings.project) format names
  | .scan project => scanReport (project.getD settings.project) format input
  | .check kind value => checkReport format kind value

end Task

/-- Carry out an invocation, given what comes of reading its file with settings and what
comes in on the standard input stream. -/
def Invocation.run (invocation : Invocation) (file : FileReading) (input : List UInt8) :
    Report :=
  match Settings.load invocation.config file with
  | .error error => .failure error.message
  | .ok settings =>
    invocation.task.run settings (invocation.format.getD settings.format) input

end Workstream.CommandLine
