import Workstream.Json
import Workstream.Workspace.Specification

/-!
# Values in exchanged data

The JSON forms of versions, ids, streams and specifications. Fields are listed in the
order of their names. A value that carries a text with a grammar of its own is checked
when it is read: `Unreadable.malformed` reports a text of the right shape that the
grammar refuses, `Unreadable.shape` a value that has the wrong shape to begin with.
-/

namespace Workstream

/-- Why a JSON value does not denote a value of the wanted type. -/
inductive Unreadable where
  | shape
  | malformed (report : Malformed)

namespace Interchange

/-- The JSON form of a version: its text. -/
def ofVersion (version : Version) : Json := .text version.text

/-- The JSON form of a stream: its kind, and the version of a patch stream. -/
def ofStream : DevelopmentStream → Json
  | .mainLine => .object [("type", .text "project")]
  | .patch version => .object [("type", .text "patch"), ("version", ofVersion version)]

/-- The JSON form of a specification. An open user is left out. -/
def ofSpecification (specification : Specification) : Json :=
  let user := match specification.user? with
    | some user => [("user_id", Json.text user)]
    | none => []
  .object ([("access_type", .text specification.access.tag),
    ("development_stream", ofStream specification.stream)] ++ user ++
    [("workspace_id", .text specification.id.text),
     ("workspace_type", .text specification.ownership.tag)])

/-- A text. -/
def readText : Json → Except Unreadable String
  | .text value => .ok value
  | _ => .error .shape

/-- A version. -/
def readVersion (value : Json) : Except Unreadable Version := do
  let text ← readText value
  (Version.parse text).mapError .malformed

/-- A workspace id. -/
def readWorkspaceId (value : Json) : Except Unreadable WorkspaceId := do
  let text ← readText value
  (WorkspaceId.parse text).mapError .malformed

/-- The name of one of several alternatives: a text, or an object whose only field has
that name and no content. -/
def readAlternative : Json → Except Unreadable String
  | .text name => .ok name
  | .object [(name, .null)] => .ok name
  | _ => .error .shape

/-- An ownership kind. -/
def readOwnership (value : Json) : Except Unreadable Ownership := do
  let name ← readAlternative value
  match Ownership.ofTag? name with
  | some ownership => .ok ownership
  | none => .error .shape

/-- An access kind. -/
def readAccess (value : Json) : Except Unreadable Access := do
  let name ← readAlternative value
  match Access.ofTag? name with
  | some access => .ok access
  | none => .error .shape

/-- The stream of a kind with a given name and a given content. The main line has no
content. -/
def streamOf (kind : String) (content : Option Json) : Except Unreadable DevelopmentStream :=
  if kind = "project" then
    match content with
    | none | some .null => .ok .mainLine
    | some _ => .error .shape
  else if kind = "patch" then
    match content with
    | none => .error .shape
    | some version => .patch <$> readVersion version
  else
    .error .shape

/-- A stream: an object with a kind and a content, or an array of the two, where the kind
has to be a text. Other fields of the object are ignored. Further items of the array are
refused, but only after the content was found to be good. -/
def readStream (value : Json) : Except Unreadable DevelopmentStream :=
  match value with
  | .array (kind :: content :: more) => do
    let name ← readText kind
    let stream ← streamOf name (some content)
    if more.isEmpty then return stream else .error .shape
  | .object _ =>
    match value.field? "type" with
    | some kind => do
      let name ← readAlternative kind
      streamOf name (value.field? "version")
    | none => .error .shape
  | _ => .error .shape

end Interchange

end Workstream
