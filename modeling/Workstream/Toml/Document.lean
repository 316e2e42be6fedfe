import Workstream.Toml.Statement

/-!
# Documents

The statements of a document are carried out one after the other. A header opens a
table that is not there yet, or one that was only passed on the way to another table;
such a table then counts as added where it is opened. Assignments go into the table
that was opened last, and before the first header into the document itself.

Of several faults, the one that comes first in the document is reported.
-/

namespace Workstream.Toml

/-- A document that is being built. -/
structure Draft where
  entries : Entries
  /-- The path of the table that was opened last. -/
  current : Option Path

/-- Open a table in the table that is to hold it. -/
def openTable (path : Path) (place : Place) (entries : Entries) : Except Fault Entries :=
  let key := path.key
  match find? entries key.text with
  | none => .ok (entries ++ [{ key, value := { place, content := .table .header [] } }])
  | some { place := _, content := .table .passed inner } =>
    .ok (entries.filter (·.key.text ≠ key.text) ++
      [{ key, value := { place, content := .table .header inner } }])
  | some _ => .error (.taken key.text (path.parents.map (·.text)))

/-- Open the next table of several in the table that is to hold them. -/
def openNextTable (path : Path) (place : Place) (entries : Entries) :
    Except Fault Entries :=
  let key := path.key
  match find? entries key.text with
  | none =>
    .ok (entries ++ [{ key, value := { place, content := .tables [{ place, content := [] }] } }])
  | some { place := _, content := .tables elements } =>
    .ok (replace entries key.text (.tables (elements ++ [{ place, content := [] }])))
  | some _ => .error (.taken key.text (path.parents.map (·.text)))

/-- Carry out a header. -/
def Draft.header (draft : Draft) (repeated : Bool) (path : Path) (place : Place) :
    Except Fault Draft := do
  let change := if repeated then openNextTable path place else openTable path place
  let entries ← (changeTable .passed (fun _ => change) [] path.parents .header
    draft.entries).mapError .header
  return { entries, current := some path }

/-- Carry out an assignment. -/
def Draft.assign (draft : Draft) (assignment : Assignment) : Except Fault Draft := do
  let (table, keys) := match draft.current with
    | some path => (path.texts, path.parents ++ [path.key])
    | none => ([], [])
  let entries ← changeTable .passed
    (fun form entries => Toml.assign (some table) form entries assignment) [] keys .header
    draft.entries
  return { draft with entries }

/-- Carry out a statement. -/
def Draft.carryOut (draft : Draft) (statement : Placed Statement) : Except Error Draft :=
  let outcome := match statement.content with
    | .header repeated path => draft.header repeated path statement.place
    | .assignment assignment => draft.assign assignment
  outcome.mapError fun fault => { place := statement.place, fault }

/-- A mark that may stand in front of a document and does not belong to it. -/
def byteOrderMark : Char := '\ufeff'

/-- The document after the mark in front of it. -/
def dropMark (document : List Char) : Place :=
  if document.head? = some byteOrderMark then document.drop 1 else document

/-- Read a document. -/
def read (document : List Char) : Except Error Entries := do
  let (statements, error) := readStatements (document.length + 1) (dropMark document)
  let draft ← statements.foldlM Draft.carryOut { entries := [], current := none }
  match error with
  | some error => .error error
  | none => return draft.entries

end Workstream.Toml
