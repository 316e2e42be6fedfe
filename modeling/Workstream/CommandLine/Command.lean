/-!
# Commands

The commands of the command line form a tree. The inner nodes only group others; the
leaves do something.
-/

namespace Workstream.CommandLine

/-- A command. -/
inductive Command where
  | root
  | branch
  | encode
  | decode
  | scan
  | name
  | check
deriving DecidableEq

namespace Command

/-- The word that selects a command. -/
def word : Command → String
  | .root => "sdlc"
  | .branch => "branch"
  | .encode => "encode"
  | .decode => "decode"
  | .scan => "scan"
  | .name => "name"
  | .check => "check"

/-- The words that lead to a command, from the root. -/
def words : Command → List String
  | .root => ["sdlc"]
  | .branch => ["sdlc", "branch"]
  | .encode => ["sdlc", "branch", "encode"]
  | .decode => ["sdlc", "branch", "decode"]
  | .scan => ["sdlc", "branch", "scan"]
  | .name => ["sdlc", "name"]
  | .check => ["sdlc", "name", "check"]

/-- The commands that a command groups. -/
def subcommands : Command → List Command
  | .root => [.branch, .name]
  | .branch => [.encode, .decode, .scan]
  | .name => [.check]
  | _ => []

/-- Whether a command only groups others. -/
def isGroup (command : Command) : Bool := !command.subcommands.isEmpty

/-- What a command is for. -/
def about : Command → String
  | .root =>
    "Workspace branch naming, patch-release resources, and an in-memory backend for Legend SDLC"
  | .branch => "Encode and decode workspace branch names"
  | .encode => "Print the branch name for a workspace"
  | .decode => "Decode branch names into workspace specifications"
  | .scan => "Read branch names from stdin and print the workspace branches"
  | .name => "Check names against the naming grammar"
  | .check => "Check a value against a grammar; exits with status 1 if it does not match"

/-- What a command is for at length, in paragraphs. -/
def description : Command → List String
  | .root =>
    ["legend-sdlc workspace tooling",
     "Encode and decode the git branch names that back SDLC workspaces, and check entity, " ++
       "package, and classifier names against the naming grammar.",
     "BRANCH NAMES:",
     "workspace/<user>/<id>          user workspace " ++
       "backup/<user>/<id>             user workspace backup " ++
       "resolution/<user>/<id>         user conflict resolution " ++
       "group/<id>                     group workspace " ++
       "group-backup/<id>              group workspace backup " ++
       "group-resolution/<id>          group conflict resolution",
     "Prefix any of these with patch/<M.N.P>/ for a patch release stream."]
  | .decode =>
    [about .decode, "Exits with status 1 if any name is not a workspace branch."]
  | command => [command.about]

/-- What is said about a command after everything else. -/
def epilogue? : Command → Option String
  | .root => some "See 'sdlc <command> --help' for more information on a specific command."
  | _ => none

/-- The command that a word selects among those that a command groups. -/
def subcommand? (command : Command) (word : String) : Option Command :=
  command.subcommands.find? (·.word = word)

/-- The word that asks for help about a command, where commands are grouped. -/
def helpWord : String := "help"

/-- Whether a word selects anything where a command is expected. -/
def isSelected (command : Command) (word : String) : Bool :=
  (command.subcommand? word).isSome || (command.isGroup && word = helpWord)

/-- The version of the program. -/
def version : String := "0.1.0"

/-- The line that tells the version. -/
def versionLine (command : Command) : String :=
  "-".intercalate command.words ++ " " ++ version

end Command

end Workstream.CommandLine
