import Workstream.Branch.Name
import Workstream.Interchange
import Workstream.Settings
import Workstream.Text.Blank
import Workstream.Text.Utf8

/-!
# Records of branches

The command line prints one record per branch: its name with the specification that
the name stands for. `ofName` makes the record of a given name, `scan` reads names from
a stream of bytes and keeps those that belong to workspaces.

Scanning works line by line. A line that is not text is passed over, and so is a line
without the name of a workspace; no line has an influence on the others.
-/

namespace Workstream

/-- A branch with the specification that its name stands for, if it belongs to a
workspace. -/
structure BranchRecord where
  name : String
  specification : Option Specification
deriving DecidableEq

namespace BranchRecord

/-- The record of the branch with a given name. -/
def ofName (name : String) : BranchRecord :=
  { name, specification := BranchName.decode? name }

/-- Whether the branch belongs to a workspace. -/
def isWorkspace (record : BranchRecord) : Bool := record.specification.isSome

/-- What is printed in place of a specification. -/
def noWorkspace : String := "not a workspace branch"

/-- The line for a record, without the line feed. -/
def line (record : BranchRecord) : OutputFormat → String
  | .text =>
    record.name ++ "\t" ++ (record.specification.map Specification.display).getD noWorkspace
  | .json =>
    (Json.object [("branch", .text record.name),
      ("specification", (record.specification.map Interchange.ofSpecification).getD .null)]).render

/-- The lines for records. -/
def print (format : OutputFormat) (records : List BranchRecord) : String :=
  String.join (records.map fun record => record.line format ++ "\n")

/-- The record of the branch of a workspace. A user that is named is reported as it was
given, and otherwise the specification is read back from the name. -/
def ofSpecification (currentUser : Option String) (specification : Specification) :
    Except BranchName.NamingError BranchRecord := do
  let name ← BranchName.encode currentUser specification
  let resolved := match specification.user? with
    | some _ => specification
    | none => (BranchName.decode? name).getD specification
  return { name, specification := some resolved }

/-- The line for the record of a workspace, without the line feed. Only the name is
printed as text. -/
def encodedLine (record : BranchRecord) : OutputFormat → String
  | .text => record.name
  | .json => record.line .json

/-- The name on a line, if the line is text. -/
def nameOnLine? (line : List UInt8) : Option String :=
  (Text.decodeUtf8 line).map Text.trim

/-- The record of the branch that is named on a line, if it belongs to a workspace. -/
def ofLine? (line : List UInt8) : Option BranchRecord :=
  match nameOnLine? line with
  | some name => if BranchName.isWorkspace name then some (ofName name) else none
  | none => none

/-- The records of the branches of workspaces that are named in a stream of bytes, one on
each line. -/
def scan (bytes : List UInt8) : List BranchRecord :=
  (Text.byteLines bytes).filterMap ofLine?

/-- What is reported about a line. -/
def lineEvents (project : String) (line : List UInt8) : List LogEvent :=
  match nameOnLine? line with
  | some name => BranchName.decodeEvents project name
  | none =>
    [{ level := .debug
       source := .branchCommand
       message := "skipping branch name that is not UTF-8"
       fields := [("project", .text project),
         ("branch", .text (String.ofList (Text.trimEndChars (Text.decodeLenient line))))] }]

/-- What is reported about a stream of bytes. -/
def scanEvents (project : String) (bytes : List UInt8) : List LogEvent :=
  (Text.byteLines bytes).flatMap (lineEvents project)

end BranchRecord

end Workstream
