import Workstream.Branch.Name

/-!
# Failures of requests

A request that cannot be carried out fails with its cause. The status puts the cause
into one of four classes for clients that do not read messages.
-/

namespace Workstream

/-- The class of a failure. -/
inductive Status where
  | badRequest
  | notFound
  | conflict
  | internal
deriving DecidableEq

namespace Status

/-- The number of a status. -/
def code : Status → Nat
  | .badRequest => 400
  | .notFound => 404
  | .conflict => 409
  | .internal => 500

/-- The name of a status. -/
def reason : Status → String
  | .badRequest => "Bad Request"
  | .notFound => "Not Found"
  | .conflict => "Conflict"
  | .internal => "Internal Server Error"

/-- The number and the name of a status. -/
def display (status : Status) : String := toString status.code ++ " " ++ status.reason

end Status

/-- Where a revision was looked for. -/
inductive RevisionPlace where
  | branch (specification : Specification)
  | history (stream : DevelopmentStream) (project : String)
deriving DecidableEq

/-- The place in words. -/
def RevisionPlace.display : RevisionPlace → String
  | .branch specification => specification.display
  | .history stream project => stream.display ++ " of " ++ project

/-- Why a request cannot be carried out. -/
inductive Failure where
  | unknownProject (project : String)
  | unknownPatchStream (project : String) (version : Version)
  | unknownWorkspace (specification : Specification)
  | unknownVersion (project : String) (version : Version)
  | unknownReview (project review : String) (stream : DevelopmentStream)
  | unknownRevision (revision : String) (place : RevisionPlace)
  | invalidEntityPath (path : String)
  | missingEntity (path : String)
  | projectExists (project : String)
  | versionExists (project : String) (version : Version)
  | patchStreamExists (project : String) (version : Version)
  | workspaceExists (project : String) (specification : Specification)
  /-- Branches of this kind only come into being through other operations. -/
  | notCreatable (access : Access)
  | notUpdatable (access : Access)
  /-- The conflicts of the last update have to be resolved first. -/
  | inConflictResolution (specification : Specification)
  /-- The workspace would be overwritten by its backup. -/
  | wouldOverwrite (specification : Specification)
  | malformed (report : Malformed)
  | unnamed (cause : BranchName.NamingError)
  /-- The name of a branch cannot be read back. -/
  | undecodable (name : String) (specification : Specification)
  /-- A failure with a wording of its own. -/
  | other (status : Status) (text : String)

namespace Failure

/-- The class of a failure. -/
def status : Failure → Status
  | .unknownProject _ => .notFound
  | .unknownPatchStream _ _ => .notFound
  | .unknownWorkspace _ => .notFound
  | .unknownVersion _ _ => .notFound
  | .unknownReview _ _ _ => .notFound
  | .unknownRevision _ _ => .notFound
  | .invalidEntityPath _ => .badRequest
  | .missingEntity _ => .badRequest
  | .projectExists _ => .conflict
  | .versionExists _ _ => .conflict
  | .patchStreamExists _ _ => .conflict
  | .workspaceExists _ _ => .conflict
  | .notCreatable _ => .badRequest
  | .notUpdatable _ => .badRequest
  | .inConflictResolution _ => .conflict
  | .wouldOverwrite _ => .conflict
  | .malformed _ => .badRequest
  | .unnamed _ => .badRequest
  | .undecodable _ _ => .internal
  | .other status _ => status

/-- What is put before the text of a failure of the store itself. -/
def internalMessage (text : String) : String := "internal error: " ++ text

/-- The failure in words. -/
def message : Failure → String
  | .unknownProject project => "unknown project: " ++ project
  | .unknownPatchStream project version =>
    "patch release version " ++ version.text ++ " does not exist for project " ++ project
  | .unknownWorkspace specification => "unknown " ++ specification.display
  | .unknownVersion project version =>
    "version " ++ version.text ++ " of project " ++ project ++ " does not exist"
  | .unknownReview project review stream =>
    "unknown review " ++ review ++ " in project " ++ project ++ " for " ++ stream.display
  | .unknownRevision revision place =>
    "unknown revision " ++ revision ++ " in " ++ place.display
  | .invalidEntityPath path => "invalid entity path: " ++ path
  | .missingEntity path => "entity " ++ path ++ " does not exist"
  | .projectExists project => "project " ++ project ++ " already exists"
  | .versionExists project version =>
    "version " ++ version.text ++ " of project " ++ project ++ " already exists"
  | .patchStreamExists project version =>
    "patch release version " ++ version.text ++ " already exists for project " ++ project
  | .workspaceExists project specification =>
    specification.display ++ " already exists in project " ++ project
  | .notCreatable access => "cannot create a " ++ access.label ++ " directly"
  | .notUpdatable access => "cannot update a " ++ access.label
  | .inConflictResolution specification =>
    specification.display ++ " is in conflict resolution mode"
  | .wouldOverwrite specification =>
    specification.display ++ " already exists; recover with force to overwrite it"
  | .malformed report => report.message
  | .unnamed cause => cause.message
  | .undecodable name specification =>
    internalMessage ("branch name " ++ Text.quoted name ++ " for " ++ specification.display ++
      " does not decode")
  | .other .internal text => internalMessage text
  | .other _ text => text

end Failure

/-- The value of a parameter that has to be present. -/
def required {Value : Type} (value : Option Value) (message : String) : Except Failure Value :=
  match value with
  | some present => .ok present
  | none => .error (.other .badRequest message)

end Workstream
