import Workstream.Log
import Workstream.Workspace.Specification

/-!
# Branch names

Each branch of a workspace has a name that is computed from its specification. The
name is the only form in which a specification is stored, so it can be read back.

A name consists of segments with a slash between them: for a patch stream the word
`patch` and the version, then a token for the ownership and the access kind, then
for a user's workspace the user, and at last the workspace id.

`encode` needs a user for the workspace of a user; one that the specification leaves
open is the current user. `decode` accepts exactly the names that `encode` gives.
-/

namespace Workstream.BranchName

/-- The first segment of the name of a branch on a patch stream. -/
def patchSegment : String := "patch"

/-- The branches that hold a main line. They belong to no workspace. -/
def mainLineNames : List String := ["main", "master"]

/-- The segment for an ownership and an access kind. -/
def token : Ownership → Access → String
  | .user, .live => "workspace"
  | .user, .backup => "backup"
  | .user, .resolution => "resolution"
  | .group, .live => "group"
  | .group, .backup => "group-backup"
  | .group, .resolution => "group-resolution"

/-- The ownership and the access kind for a segment. -/
def ofToken? (segment : String) : Option (Ownership × Access) :=
  (Ownership.all.flatMap fun ownership => Access.all.map fun access => (ownership, access)).find?
    fun (ownership, access) => token ownership access = segment

/-- Why a text cannot be the user in a branch name. -/
inductive UserFault where
  | empty
  | slash
deriving DecidableEq

/-- The reason in words. -/
def UserFault.reason : UserFault → String
  | .empty => "user id must not be empty"
  | .slash => "user id must not contain '/'"

/-- Why a specification has no branch name. -/
inductive NamingError where
  /-- The specification leaves the user open and there is no current user. -/
  | missingUser (workspace : WorkspaceId)
  | invalidUser (workspace : WorkspaceId) (user : String) (fault : UserFault)
deriving DecidableEq

/-- The error in words. -/
def NamingError.message : NamingError → String
  | .missingUser workspace =>
    "cannot determine the user for user workspace `" ++ workspace.text ++ "`"
  | .invalidUser workspace user fault =>
    "invalid user id " ++ Text.quoted user ++ " for workspace `" ++ workspace.text ++
      "`: " ++ fault.reason

/-- What is wrong with a user as a segment of a name. -/
def userFault? (user : String) : Option UserFault :=
  if user = "" then some .empty
  else if '/' ∈ user.toList then some .slash
  else none

/-- The user in the branch name of a user's workspace. -/
def resolveUser (currentUser : Option String) (workspace : WorkspaceId)
    (pinned : Option String) : Except NamingError String :=
  match pinned.or currentUser with
  | none => .error (.missingUser workspace)
  | some user =>
    match userFault? user with
    | some fault => .error (.invalidUser workspace user fault)
    | none => .ok user

/-- The segments for the stream. -/
def streamSegments : DevelopmentStream → List String
  | .mainLine => []
  | .patch version => [patchSegment, version.text]

/-- The segments of the name of a branch. -/
def segments (currentUser : Option String) (specification : Specification) :
    Except NamingError (List String) := do
  let owner ← match specification.owner with
    | .user pinned => do
      let user ← resolveUser currentUser specification.id pinned
      pure [user]
    | .group => pure []
  return streamSegments specification.stream ++
    token specification.ownership specification.access :: (owner ++ [specification.id.text])

/-- The name of a branch. -/
def encode (currentUser : Option String) (specification : Specification) :
    Except NamingError String := do
  let parts ← segments currentUser specification
  return Text.Segments.joinStrings '/' parts

/-- Why a name belongs to no branch of a workspace. -/
inductive Rejection where
  | empty
  | mainLine
  | emptySegment
  | invalidPatchVersion
  | missingPatchVersion
  | missingToken
  | unknownToken
  /-- The number of segments after the token is wrong. -/
  | segmentCount
  | invalidWorkspaceId
deriving DecidableEq

/-- The reason in words. -/
def Rejection.reason : Rejection → String
  | .empty => "empty branch name"
  | .mainLine => "main line branch"
  | .emptySegment => "empty segment"
  | .invalidPatchVersion => "invalid patch version"
  | .missingPatchVersion => "missing patch version"
  | .missingToken => "missing workspace token"
  | .unknownToken => "unknown workspace token"
  | .segmentCount => "wrong number of segments"
  | .invalidWorkspaceId => "invalid workspace id"

/-- The specification with given parts and an id that is still a text. -/
def finish (owner : Owner) (access : Access) (stream : DevelopmentStream) (id : String) :
    Except Rejection Specification :=
  match WorkspaceId.parse id with
  | .ok id => .ok { id, owner, access, stream }
  | .error _ => .error .invalidWorkspaceId

/-- Read the segments that follow those of the stream. -/
def decodeWorkspace (stream : DevelopmentStream) : List String → Except Rejection Specification
  | [] => .error .missingToken
  | first :: rest =>
    match ofToken? first, rest with
    | none, _ => .error .unknownToken
    | some (.group, access), [id] => finish .group access stream id
    | some (.user, access), [user, id] => finish (.user (some user)) access stream id
    | some _, _ => .error .segmentCount

/-- Read the segments of a name. -/
def decodeSegments : List String → Except Rejection Specification
  | [] => decodeWorkspace .mainLine []
  | first :: rest =>
    if first = patchSegment then
      match rest with
      | [] => .error .missingPatchVersion
      | version :: rest =>
        match Version.parse version with
        | .ok version => decodeWorkspace (.patch version) rest
        | .error _ => .error .invalidPatchVersion
    else
      decodeWorkspace .mainLine (first :: rest)

/-- The specification of the branch with a given name. -/
def decode (name : String) : Except Rejection Specification :=
  if name = "" then .error .empty
  else if name ∈ mainLineNames then .error .mainLine
  else
    let segments := Text.Segments.splitString '/' name
    if "" ∈ segments then .error .emptySegment
    else decodeSegments segments

/-- The specification of the branch with a given name, if it belongs to a workspace. -/
def decode? (name : String) : Option Specification :=
  (decode name).toOption

/-- Whether a branch belongs to a workspace. -/
def isWorkspace (name : String) : Bool := (decode? name).isSome

/-- What is reported about a name that is read on behalf of a project. -/
def decodeEvents (project name : String) : List LogEvent :=
  match decode name with
  | .ok _ => []
  | .error rejection =>
    [{ level := .debug
       source := .branchNames
       message := "not a workspace branch"
       fields := [("project", .quoted project), ("branch", .quoted name),
         ("reason", .quoted rejection.reason)] }]

end Workstream.BranchName
