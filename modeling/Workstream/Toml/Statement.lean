import Workstream.Toml.Moment
import Workstream.Toml.Numeral

/-!
# Statements of documents

A document is a list of statements, each on lines of its own: a header opens a table,
and an assignment gives a key a value in the table that was opened last.

Values may be nested. How deep they are is limited by `depthLimit`, and the readers
recurse on the depth that is left.
-/

namespace Workstream.Toml

/-- Arrays, inline tables and dotted keys have to stay below this depth. -/
def depthLimit : Nat := 80

/-- A path to a value: the keys on the way and the last one. -/
structure Path where
  parents : List Key
  key : Key

/-- The texts of all keys of a path. -/
def Path.texts (path : Path) : List String :=
  path.parents.map (·.text) ++ [path.key.text]

/-- A key with the value that it is to have. -/
structure Assignment where
  path : Path
  value : Placed Value

/-- A statement. -/
inductive Statement where
  /-- Open a table, or the next one of several tables of one name. -/
  | header (repeated : Bool) (path : Path)
  | assignment (assignment : Assignment)

/-- Read a key. -/
def readKey (place : Place) : Except Error (Key × Place) :=
  match place with
  | '"' :: _ | '\'' :: _ => do
    let (text, rest) ← readShortText place
    return ({ text, place }, rest)
  | _ =>
    let text := place.takeWhile isBareKey
    if text = [] then unexpected place
    else .ok ({ text := String.ofList text, place }, place.dropWhile isBareKey)

/-- Read a dotted key of a limited number of keys. -/
def readPath : Nat → Place → Except Error (Path × Place)
  | 0, place => .error { place, fault := .tooDeep }
  | limit + 1, place => do
    let (key, rest) ← readKey (skipBlanks place)
    match skipBlanks rest with
    | '.' :: rest => do
      let (path, rest) ← readPath limit rest
      return ({ path with parents := key :: path.parents }, rest)
    | rest => return ({ parents := [], key }, rest)

/-- Read a given character. -/
def readMark (mark : Char) (place : Place) : Except Error Place :=
  match mark? mark place with
  | some rest => .ok rest
  | none => unexpected place

/-- The value of a key. -/
def find? (entries : Entries) (key : String) : Option (Placed Value) :=
  (entries.find? (·.key.text = key)).map (·.value)

/-- The entries with another value for a key that is in use. -/
def replace (entries : Entries) (key : String) (value : Value) : Entries :=
  entries.map fun entry =>
    if entry.key.text = key then { entry with value.content := value } else entry

/-- Change the table at the end of a path. A table that is missing on the way is put in
with the given form, which is also the reason for the way: dotted keys must not lead
through tables that were opened by a header. The texts of the keys that were passed are
given for the report of a fault. -/
def changeTable (way : TableForm) (change : TableForm → Entries → Except Fault Entries) :
    List String → List Key → TableForm → Entries → Except Fault Entries
  | _, [], form, entries => change form entries
  | passed, key :: keys, _, entries => do
    let passed := passed ++ [key.text]
    match find? entries key.text with
    | none =>
      let inner ← changeTable way change passed keys way []
      return entries ++ [{ key, value := { place := key.place, content := .table way inner } }]
    | some { place := _, content := .table .inline _ } =>
      .error (.closed passed (Value.table .inline []).kind)
    | some { place := _, content := .table form inner } =>
      if way = .dotted ∧ form = .header then
        .error (.duplicateKey key.text none)
      else
        let inner ← changeTable way change passed keys form inner
        return replace entries key.text (.table form inner)
    | some { place := _, content := .tables elements } =>
      match elements.getLast? with
      | none => .error (.duplicateKey key.text none)
      | some last =>
        let inner ← changeTable way change passed keys .header last.content
        return replace entries key.text
          (.tables (elements.dropLast ++ [{ last with content := inner }]))
    | some { place := _, content := other } => .error (.closed passed other.kind)

/-- Carry out an assignment in a table. The path of the table is given for the report of
a fault if it is known. A key without dots must not go into a table that was named by
dotted keys, and a dotted key only into such a table. -/
def assign (table : Option (List String)) (form : TableForm) (entries : Entries)
    (assignment : Assignment) : Except Fault Entries :=
  let path := assignment.path
  let put := fun (form : TableForm) (entries : Entries) =>
    if (form == .dotted) == path.parents.isEmpty then
      Except.error (.duplicateKey path.key.text none)
    else if (find? entries path.key.text).isSome then
      Except.error (.duplicateKey path.key.text table)
    else
      Except.ok (entries ++ [{ key := path.key, value := assignment.value }])
  changeTable .dotted put [] path.parents form entries

/-- Read the items of an array up to its end. The fuel bounds the number of items.

An item counts only together with the line ends and comments that follow it. When these
are malformed, the item is given up, and it is its own place where the end of the array is
missed. -/
def readItems (readValue : Place → Except Error (Value × Place)) :
    Nat → Place → Except Error (List (Placed Value) × Place)
  | 0, place => unexpected place
  | fuel + 1, place => do
    match ← skipTrivia place with
    | ']' :: rest => return ([], rest)
    | start => do
      let (content, rest) ← readValue start
      let item : Placed Value := { place := start, content }
      match skipTrivia rest with
      | .error _ => unexpected start
      | .ok (',' :: rest) => do
        let (items, rest) ← readItems readValue fuel rest
        return (item :: items, rest)
      | .ok stop => do
        let rest ← readMark ']' stop
        return ([item], rest)

/-- Read a key with its value. -/
def readAssignment (readValue : Place → Except Error (Value × Place)) (place : Place) :
    Except Error (Assignment × Place) := do
  let (path, rest) ← readPath (depthLimit - 1) place
  let rest ← readMark '=' rest
  let start := skipBlanks rest
  let (content, rest) ← readValue start
  return ({ path, value := { place := start, content } }, rest)

/-- Read assignments with commas between them. The fuel bounds their number. -/
def readAssignments (readValue : Place → Except Error (Value × Place)) :
    Nat → Place → Except Error (List Assignment × Place)
  | 0, place => unexpected place
  | fuel + 1, place => do
    let (assignment, rest) ← readAssignment readValue place
    match skipBlanks rest with
    | ',' :: rest => do
      let (assignments, rest) ← readAssignments readValue fuel rest
      return (assignment :: assignments, rest)
    | rest => return ([assignment], rest)

/-- Read an inline table after its opening brace. The table is built before its end is
looked for. -/
def readInline (readValue : Place → Except Error (Value × Place)) (place : Place) :
    Except Error (Value × Place) := do
  let start := skipBlanks place
  if start.head? = some '\x7d' then
    return (.table .inline [], start.drop 1)
  else
    let (assignments, rest) ← readAssignments readValue (place.length + 1) start
    match assignments.foldlM (assign none .inline) [] with
    | .error fault => .error { place, fault }
    | .ok entries => do
      let rest ← readMark '\x7d' rest
      return (.table .inline entries, rest)

/-- Read a number, a moment or a word. -/
def readScalar (place : Place) : Except Error (Value × Place) :=
  match place with
  | 't' :: 'r' :: 'u' :: 'e' :: rest => .ok (.boolean true, rest)
  | 'f' :: 'a' :: 'l' :: 's' :: 'e' :: rest => .ok (.boolean false, rest)
  | _ =>
    match ((moment? place).or (float? place)).or (integer? place) with
    | some reading => .ok reading
    | none => unexpected place

/-- Read a value that may be nested to a limited depth. -/
def readValue : Nat → Place → Except Error (Value × Place)
  | depth, place =>
    match place with
    | '"' :: _ | '\'' :: _ => do
      let (text, rest) ← readText place
      return (.text text, rest)
    | '[' :: rest =>
      match depth with
      | 0 => .error { place, fault := .tooDeep }
      | depth + 1 => do
        let (items, rest) ← readItems (readValue depth) (rest.length + 1) rest
        return (.array items, rest)
    | '\x7b' :: rest =>
      match depth with
      | 0 => .error { place, fault := .tooDeep }
      | depth + 1 => readInline (readValue depth) rest
    | _ => readScalar place

/-- Read a header after its opening bracket. -/
def readHeader (repeated : Bool) (place : Place) : Except Error (Statement × Place) := do
  let (path, rest) ← readPath (depthLimit - 1) place
  let rest ← readMark ']' rest
  let rest ← if repeated then readMark ']' rest else .ok rest
  let rest ← finishLine rest
  return (.header repeated path, rest)

/-- Read a statement at whose first character the text begins. -/
def readStatement (place : Place) : Except Error (Statement × Place) :=
  match place with
  | '[' :: '[' :: rest => readHeader true rest
  | '[' :: rest => readHeader false rest
  | _ => do
    let (assignment, rest) ← readAssignment (readValue (depthLimit - 1)) place
    let rest ← finishLine rest
    return (.assignment assignment, rest)

/-- The statements of a document up to the first one that cannot be read, and the error
that ends the list if there is one. The fuel bounds the number of lines. -/
def readStatements : Nat → Place → List (Placed Statement) × Option Error
  | 0, place => ([], some { place, fault := .unexpected })
  | fuel + 1, place =>
    let start := skipBlanks place
    match start with
    | [] => ([], none)
    | '#' :: _ | '\n' :: _ | '\r' :: _ =>
      match finishLine start with
      | .ok rest => readStatements fuel rest
      | .error error => ([], some error)
    | _ =>
      match readStatement start with
      | .ok (content, rest) =>
        let (statements, error) := readStatements fuel rest
        ({ place := start, content } :: statements, error)
      | .error error => ([], some error)

end Workstream.Toml
