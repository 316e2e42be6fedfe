import Workstream.Number.Binary64
import Workstream.Toml.KeyText

/-!
# Values of TOML documents

A document is a tree of tables. Keys and values keep the place where they stand, so
that a reader of the tree can say where something is wrong. A place in a document is
given by the characters from there to the end.
-/

namespace Workstream.Toml

/-- A place in a document: what follows it. -/
abbrev Place := List Char

/-- The number of the line of a place in a document, counted from one. -/
def lineOf (document : List Char) (place : Place) : Nat :=
  document.count '\n' - place.count '\n' + 1

/-- A key. -/
structure Key where
  text : String
  place : Place

/-- Something that stands at a place. -/
structure Placed (Content : Type) where
  place : Place
  content : Content

/-- A key with the value that it is given. -/
structure Entry (Content : Type) where
  key : Key
  value : Placed Content

/-- How a table came into being, which decides what may be added to it. -/
inductive TableForm where
  /-- Written in braces. It is complete. -/
  | inline
  /-- Opened by a header. -/
  | header
  /-- Named by a header on the way to another table. -/
  | passed
  /-- Named by a dotted key. -/
  | dotted
deriving DecidableEq

/-- A value. -/
inductive Value where
  | text (value : String)
  | integer (value : Int)
  | float (value : Binary64)
  | boolean (value : Bool)
  | moment
  | array (items : List (Placed Value))
  | table (form : TableForm) (entries : List (Entry Value))
  /-- The tables that were opened by repeated headers. -/
  | tables (elements : List (Placed (List (Entry Value))))

/-- The entries of a table, in the order in which they were added. -/
abbrev Entries := List (Entry Value)

/-- The kind of a value in words. -/
def Value.kind : Value → String
  | .text _ => "string"
  | .integer _ => "integer"
  | .float _ => "float"
  | .boolean _ => "boolean"
  | .moment => "datetime"
  | .array _ => "array"
  | .table .inline _ => "inline table"
  | .table _ _ => "table"
  | .tables _ => "array of tables"

/-- What is wrong with a document. -/
inductive Fault where
  | unexpected
  /-- Arrays, inline tables or dotted keys are nested too deeply. -/
  | tooDeep
  /-- The key is in use already, in the table with the given path if it is known. -/
  | duplicateKey (key : String) (table : Option (List String))
  /-- A header opens a table under a key that is in use in the table with the given path. -/
  | taken (key : String) (table : List String)
  /-- A dotted key leads through a value that is not an open table. -/
  | closed (path : List String) (kind : String)
  | header (cause : Fault)

/-- A table in words, by its path. -/
def tableName : List String → String
  | [] => "document root"
  | table => "table `" ++ ".".intercalate table ++ "`"

/-- The fault in words. -/
def Fault.message : Fault → String
  | .unexpected => "unexpected text"
  | .tooDeep => "recursion limit exceeded"
  | .duplicateKey key none => "duplicate key `" ++ key ++ "`"
  | .duplicateKey key (some table) => "duplicate key `" ++ key ++ "` in " ++ tableName table
  | .taken key table => "duplicate key `" ++ writeKey key ++ "` in " ++ tableName table
  | .closed path kind =>
    "dotted key `" ++ ".".intercalate path ++ "` attempted to extend non-table type (" ++
      kind ++ ")"
  | .header cause => "invalid table header\n" ++ cause.message

/-- A fault and its place. -/
structure Error where
  place : Place
  fault : Fault

/-- The result of meeting something that is not allowed at its place. -/
def unexpected {Content : Type} (place : Place) : Except Error Content :=
  .error { place, fault := .unexpected }

end Workstream.Toml
