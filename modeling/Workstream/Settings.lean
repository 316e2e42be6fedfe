import Workstream.Text.Quoted
import Workstream.Toml.Value

/-!
# Settings

The settings of the command line: who the current user is, to which project messages
refer, and how results are printed. `SettingsError` says why settings cannot be loaded,
with the line in question where there is one.
-/

namespace Workstream

/-- How results are printed. -/
inductive OutputFormat where
  | text
  | json
deriving DecidableEq

namespace OutputFormat

/-- Both formats. -/
def all : List OutputFormat := [.text, .json]

/-- The name of a format. -/
def name : OutputFormat → String
  | .text => "text"
  | .json => "json"

/-- What a format is for. -/
def about : OutputFormat → String
  | .text => "One human-readable line per result"
  | .json => "One JSON document per result"

/-- The format with a given name. -/
def ofName? (name : String) : Option OutputFormat := all.find? (·.name = name)

end OutputFormat

/-- The settings of the command line. -/
structure Settings where
  /-- The user who owns the workspaces that name no owner. -/
  user : Option String
  /-- The project that messages refer to. -/
  project : String
  format : OutputFormat
deriving DecidableEq

namespace Settings

/-- The project that messages refer to when none is chosen. -/
def defaultProject : String := "default"

/-- The settings when none are chosen. -/
def default : Settings := { user := none, project := defaultProject, format := .text }

end Settings

/-- Why the bytes of a file cannot be had. -/
inductive FileFault where
  | isDirectory
  | notADirectory
  | notText
  | other (reason : String)
deriving DecidableEq

/-- The reason in words. -/
def FileFault.message : FileFault → String
  | .isDirectory => "Is a directory (os error 21)"
  | .notADirectory => "Not a directory (os error 20)"
  | .notText => "stream did not contain valid UTF-8"
  | .other reason => reason

/-- What comes of reading a file. -/
inductive FileReading where
  | missing
  | contents (bytes : List UInt8)
  | refused (fault : FileFault)

/-- What is wrong with settings. -/
inductive SettingsFault where
  | unknownField (name : String) (expected : List String)
  | unknownChoice (name : String) (expected : List String)
  | wrongType (found expected : String)
  | malformedChoice (reason : String)
  | document (fault : Toml.Fault)
  | emptyUser
  | unreadable (fault : FileFault)

namespace SettingsFault

/-- A list of alternatives in words. -/
def alternatives (names : List String) : String :=
  match names.map fun name => "`" ++ name ++ "`" with
  | [first, second] => first ++ " or " ++ second
  | [only] => only
  | several => "one of " ++ ", ".intercalate several

/-- The fault in words. -/
def message : SettingsFault → String
  | .unknownField name expected =>
    "unknown field `" ++ name ++ "`, expected " ++ alternatives expected
  | .unknownChoice name expected =>
    "unknown variant `" ++ name ++ "`, expected " ++ alternatives expected
  | .wrongType found expected => "invalid type: " ++ found ++ ", expected " ++ expected
  | .malformedChoice reason => reason
  | .document fault => fault.message
  | .emptyUser => "identity.user may not be empty"
  | .unreadable fault => "could not read file: " ++ fault.message

end SettingsFault

/-- Why settings cannot be loaded. -/
structure SettingsError where
  /-- The path of the file, if the settings come from a file. -/
  path : Option String
  line : Option Nat
  fault : SettingsFault

/-- The error in words. -/
def SettingsError.message (error : SettingsError) : String :=
  let source := match error.path with
    | some path => path ++ ": "
    | none => "config error: "
  let line := match error.line with
    | some line => "line " ++ toString line ++ ": "
    | none => ""
  source ++ line ++ error.fault.message

end Workstream
