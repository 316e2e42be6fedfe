import Workstream.Settings
import Workstream.Text.Utf8
import Workstream.Toml.Document

/-!
# Reading settings

Settings are kept in a TOML document with the tables `identity`, `project` and
`output`, each of which has a single field. Everything may be missing; nothing else may
be there. An array can stand in for a table, with the field as its first item.

The tables and their entries are looked at in the order in which they were added, and
the first fault is reported.
-/

namespace Workstream.Settings

open Toml

/-- A fault of the settings and its place in the document. -/
abbrev Complaint := Placed SettingsFault

/-- What a value is called when it has the wrong type. -/
def describe : Value → String
  | .text value => "string " ++ Text.quoted value
  | .integer value => "integer `" ++ toString value ++ "`"
  | .float value => "floating point `" ++ value.text ++ "`"
  | .boolean value => "boolean `" ++ (if value then "true" else "false") ++ "`"
  | .moment => "map"
  | .array _ => "sequence"
  | .table _ _ => "map"
  | .tables _ => "sequence"

/-- The complaint about a value of the wrong type. -/
def wrongType {Content : Type} (value : Placed Value) (expected : String) :
    Except Complaint Content :=
  .error { place := value.place, content := .wrongType (describe value.content) expected }

/-- Read a string. -/
def readString (value : Placed Value) : Except Complaint String :=
  match value.content with
  | .text text => .ok text
  | _ => wrongType value "a string"

/-- A format by its name. -/
def readFormatName (name : String) (place : Place) : Except Complaint OutputFormat :=
  match OutputFormat.ofName? name with
  | some format => .ok format
  | none =>
    .error { place, content := .unknownChoice name (OutputFormat.all.map OutputFormat.name) }

/-- Check that nothing is attached to a choice. A table without a place of its own is
reported at the place of the choice. -/
def checkUnit (choice : Place) (value : Placed Value) : Except Complaint Unit :=
  match value.content with
  | .array [] => .ok ()
  | .table _ [] => .ok ()
  | .array _ => .error { place := value.place, content := .malformedChoice "expected empty table" }
  | .table form _ =>
    let place := if form = .passed ∨ form = .dotted then choice else value.place
    .error { place, content := .malformedChoice "expected empty table" }
  | .tables _ => .error { place := value.place, content := .malformedChoice "expected empty array" }
  | other =>
    .error { place := value.place,
             content := .malformedChoice ("expected table, found " ++ other.kind) }

/-- Read a format: its name, or a table whose only key is its name. -/
def readFormat (value : Placed Value) : Except Complaint OutputFormat :=
  let malformed := fun reason =>
    Except.error { place := value.place, content := SettingsFault.malformedChoice reason }
  match value.content with
  | .text name => readFormatName name value.place
  | .table _ [] => malformed "wanted exactly 1 element, found 0 elements"
  | .table _ [entry] => do
    let format ← readFormatName entry.key.text entry.key.place
    checkUnit value.place entry.value
    return format
  | .table _ _ => malformed "wanted exactly 1 element, more than 1 element"
  | _ => malformed "wanted string or table"

/-- The name of the field that a moment seems to have when it is taken for a table. -/
def momentField : String := "$__toml_private_datetime"

/-- Read a table with a single field. The default stands in for a missing field. -/
def readSection {Content : Type} (table field : String) (default : Content)
    (readField : Placed Value → Except Complaint Content) (value : Placed Value) :
    Except Complaint Content :=
  match value.content with
  | .table _ entries =>
    entries.foldlM (fun _ entry =>
      if entry.key.text = field then readField entry.value
      else .error { place := entry.key.place, content := .unknownField entry.key.text [field] })
      default
  | .array [] => .ok default
  | .array (item :: _) => readField item
  | .tables [] => .ok default
  | .tables (element :: _) =>
    readField { place := element.place, content := .table .header element.content }
  | .moment => .error { place := value.place, content := .unknownField momentField [field] }
  | _ => wrongType value ("struct " ++ table)

/-- The names of the tables. -/
def sections : List String := ["identity", "project", "output"]

/-- Read an entry of the document. -/
def readEntry (settings : Settings) (entry : Entry Value) : Except Complaint Settings :=
  if entry.key.text = "identity" then do
    let user ← readSection "IdentityConfig" "user" none
      (fun value => some <$> readString value) entry.value
    return { settings with user }
  else if entry.key.text = "project" then do
    let project ← readSection "ProjectConfig" "id" defaultProject readString entry.value
    return { settings with project }
  else if entry.key.text = "output" then do
    let format ← readSection "OutputConfig" "format" .text readFormat entry.value
    return { settings with format }
  else
    .error { place := entry.key.place, content := .unknownField entry.key.text sections }

/-- Read the entries of a document. -/
def readEntries (entries : Entries) : Except Complaint Settings :=
  entries.foldlM readEntry default

/-- Read the settings in a text. -/
def parse (text : String) : Except SettingsError Settings :=
  let document := text.toList
  let report := fun (complaint : Complaint) =>
    { path := none, line := some (lineOf document complaint.place),
      fault := complaint.content : SettingsError }
  match Toml.read document with
  | .error error => .error (report { place := error.place, content := .document error.fault })
  | .ok entries =>
    match readEntries entries with
    | .error complaint => .error (report complaint)
    | .ok settings =>
      if settings.user = some "" then
        .error { path := none, line := none, fault := .emptyUser }
      else
        .ok settings

/-- Load the settings from a file. A missing file leaves all settings at their defaults. -/
def load (path : String) (reading : FileReading) : Except SettingsError Settings :=
  match reading with
  | .missing => .ok default
  | .refused fault => .error { path := some path, line := none, fault := .unreadable fault }
  | .contents bytes =>
    match Text.decodeUtf8 bytes with
    | none => .error { path := some path, line := none, fault := .unreadable .notText }
    | some text => (parse text).mapError fun error => { error with path := some path }

end Workstream.Settings
