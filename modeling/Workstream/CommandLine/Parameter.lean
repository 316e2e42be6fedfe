import Workstream.CommandLine.Command
import Workstream.Naming.Kind
import Workstream.Workspace.Specification

/-!
# Parameters of commands

A parameter is an option, which is given by its name, or positional. `Parameter.store`
checks a value that is given for a parameter and keeps what it means.
-/

namespace Workstream.CommandLine

/-- A parameter. -/
inductive Parameter where
  /-- The path of the file with the settings. -/
  | config
  | format
  | workspace
  | group
  | access
  | patch
  | user
  /-- The project that messages refer to. -/
  | project
  | names
  | kind
  | value
deriving DecidableEq

/-- What is given for the parameters of a command. -/
structure Arguments where
  config : Option String
  format : Option OutputFormat
  workspace : Option WorkspaceId
  group : Bool
  access : Option Access
  patch : Option Version
  user : Option String
  project : Option String
  names : List String
  kind : Option NameKind
  value : Option String
deriving DecidableEq

/-- Nothing is given. -/
def Arguments.none : Arguments :=
  { config := .none, format := .none, workspace := .none, group := false, access := .none,
    patch := .none, user := .none, project := .none, names := [], kind := .none,
    value := .none }

/-- Why a value cannot be given for a parameter. -/
inductive Refusal where
  /-- It is empty, which counts as no value. -/
  | missing
  | invalid (reason : Option String)

namespace Parameter

/-- The name of an option. Positional parameters have none. -/
def option? : Parameter → Option String
  | .config => some "config"
  | .format => some "format"
  | .group => some "group"
  | .access => some "access"
  | .patch => some "patch"
  | .user => some "user"
  | .project => some "project"
  | _ => none

/-- Whether a parameter is given without a value. -/
def isFlag (parameter : Parameter) : Bool := parameter = .group

/-- Whether a parameter collects values. -/
def isRepeatable (parameter : Parameter) : Bool := parameter = .names

/-- What a value of a parameter is called. -/
def valueName : Parameter → String
  | .config => "CONFIG"
  | .format => "FORMAT"
  | .workspace => "WORKSPACE_ID"
  | .group => ""
  | .access => "ACCESS"
  | .patch => "M.N.P"
  | .user => "USER"
  | .project => "PROJECT"
  | .names => "NAMES"
  | .kind => "KIND"
  | .value => "VALUE"

/-- What a parameter is for. -/
def about : Parameter → String
  | .config => "Configuration file"
  | .format => "Output format (overrides the configuration file)"
  | .workspace => "Workspace id"
  | .group => "Group workspace (default: user workspace)"
  | .access => "Access type: workspace, backup, or resolution"
  | .patch => "Patch release version (default: the project's main line)"
  | .user => "Owning user (default: identity.user from the configuration)"
  | .project => "Project id for diagnostics (default: project.id from the configuration)"
  | .names => "Branch names"
  | .kind => "Which grammar to check against"
  | .value => "The name or path to check"

/-- The path of the file with the settings when none is given. -/
def defaultConfig : String := "sdlc.toml"

/-- The value that counts when none is given, where it is always the same one. -/
def default? : Parameter → Option String
  | .config => some defaultConfig
  | .access => Access.live.words.head?
  | _ => none

/-- The values that can be chosen, some with what they are for. -/
def choices : Parameter → List (String × Option String)
  | .format => OutputFormat.all.map fun format => (format.name, some format.about)
  | .kind => NameKind.all.map fun kind => (kind.name, none)
  | _ => []

/-- How a parameter is written in messages. -/
def display (parameter : Parameter) : String :=
  let value := "<" ++ parameter.valueName ++ ">"
  match parameter.option? with
  | some name => if parameter.isFlag then "--" ++ name else "--" ++ name ++ " " ++ value
  | none => if parameter.isRepeatable then value ++ "..." else value

/-- Whether something is given for a parameter. -/
def isGiven (parameter : Parameter) (arguments : Arguments) : Bool :=
  match parameter with
  | .config => arguments.config.isSome
  | .format => arguments.format.isSome
  | .workspace => arguments.workspace.isSome
  | .group => arguments.group
  | .access => arguments.access.isSome
  | .patch => arguments.patch.isSome
  | .user => arguments.user.isSome
  | .project => arguments.project.isSome
  | .names => !arguments.names.isEmpty
  | .kind => arguments.kind.isSome
  | .value => arguments.value.isSome

/-- A value that must not be empty. -/
def present (value : String) : Except Refusal String :=
  if value = "" then .error .missing else .ok value

/-- A value that is one of several names. -/
def chosen {Choice : Type} (ofName? : String → Option Choice) (value : String) :
    Except Refusal Choice := do
  let name ← present value
  match ofName? name with
  | some choice => return choice
  | none => .error (.invalid none)

/-- A value with a grammar of its own. -/
def parsed {Content : Type} (result : Except Malformed Content) : Except Refusal Content :=
  result.mapError fun report => .invalid (some report.message)

/-- Keep a value that is given for a parameter. -/
def store (parameter : Parameter) (value : String) (arguments : Arguments) :
    Except Refusal Arguments :=
  match parameter with
  | .config => do return { arguments with config := some (← present value) }
  | .format => do
    return { arguments with format := some (← chosen OutputFormat.ofName? value) }
  | .workspace => do
    return { arguments with workspace := some (← parsed (WorkspaceId.parse value)) }
  | .group => .ok { arguments with group := true }
  | .access => do
    return { arguments with access := some (← parsed (Access.parse value)) }
  | .patch => do
    return { arguments with patch := some (← parsed (Version.parse value)) }
  | .user => .ok { arguments with user := some value }
  | .project => .ok { arguments with project := some value }
  | .names => .ok { arguments with names := arguments.names ++ [value] }
  | .kind => do return { arguments with kind := some (← chosen NameKind.ofName? value) }
  | .value => .ok { arguments with value := some value }

end Parameter

namespace Command

/-- The options that every command knows. -/
def commonOptions : List Parameter := [.config, .format]

/-- The options of a command. -/
def options : Command → List Parameter
  | .encode => [.group, .access, .patch, .user] ++ commonOptions
  | .decode => [.project] ++ commonOptions
  | .scan => [.project] ++ commonOptions
  | _ => commonOptions

/-- The positional parameters of a command, all of which have to be given. -/
def positionals : Command → List Parameter
  | .encode => [.workspace]
  | .decode => [.names]
  | .check => [.kind, .value]
  | _ => []

/-- The option of a command with a given name. -/
def option? (command : Command) (name : String) : Option Parameter :=
  command.options.find? (·.option? = some name)

end Command

end Workstream.CommandLine
