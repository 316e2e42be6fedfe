import Workstream.Store.Action
import Workstream.Store.Change

/-!
# Workspaces in the store

A request names a workspace by a specification that may leave the user open. Every
answer is about the specification with the user filled in, and `find` is where that
happens: it looks for the branch under the name that the specification encodes to.

Listing has no index to go by. It reads the names of all branches back and keeps the
live workspaces of the stream.
-/

namespace Workstream

/-- A workspace as it is reported to clients. -/
structure Workspace where
  project : String
  /-- Which workspace it is. A user's workspace names its user. -/
  specification : Specification
deriving DecidableEq

namespace Workspaces

/-- A workspace that was found in the store. -/
structure Found where
  /-- The name of its branch. -/
  name : String
  /-- The specification without an open user. -/
  specification : Specification
  project : Project
  branch : Branch

/-- Look for a workspace. -/
def find (project : String) (specification : Specification) (session : Session) :
    Except Failure Found := do
  let (name, resolved) ← session.locate specification
  let state ← session.store.project project
  let branch ← state.branch name resolved
  return { name, specification := resolved, project := state, branch }

/-- Whether a listing that is restricted to a user, or to none, may show a workspace.
Shared workspaces are shown to everyone. -/
def visibleTo (viewer : Option String) (specification : Specification) : Bool :=
  match specification.owner, viewer with
  | .user owner, some user => owner = some user
  | _, _ => true

/-- Whether a listing of a stream shows a branch: it is a live workspace of the stream
and of one of the wanted kinds, and the viewer may see it. -/
def isListed (stream : DevelopmentStream) (kinds : List Ownership) (viewer : Option String)
    (specification : Specification) : Bool :=
  specification.stream = stream && specification.access = .live &&
    kinds.contains specification.ownership && visibleTo viewer specification

/-- The workspaces that a viewer may see, in the order of the names of their branches. -/
def listFor (viewer : Option String) (project : String) (stream : DevelopmentStream)
    (kinds : List Ownership) (session : Session) : Except Failure (List Workspace) := do
  let state ← session.store.project project
  let _ ← state.history project stream
  let listed := (state.branches.keys.filterMap BranchName.decode?).filter
    (isListed stream kinds viewer)
  return listed.map fun specification => { project, specification }

/-- The workspaces of every user and the shared ones. -/
def listAll (project : String) (stream : DevelopmentStream) (kinds : List Ownership) :
    Session → Except Failure (List Workspace) :=
  listFor none project stream kinds

/-- The workspaces of the current user and the shared ones. Without a current user only
the shared ones are left. -/
def list (project : String) (stream : DevelopmentStream) (kinds : List Ownership)
    (session : Session) : Except Failure (List Workspace) :=
  match session.currentUser with
  | some user => listFor (some user) project stream kinds session
  | none => listFor none project stream (kinds.filter (· = .group)) session

/-- The workspace, if it exists. -/
def get (project : String) (specification : Specification) (session : Session) :
    Except Failure Workspace := do
  let found ← find project specification session
  return { project, specification := found.specification }

/-- Whether the stream has moved on since the workspace was cut from it. -/
def isOutdated (project : String) (specification : Specification) (session : Session) :
    Except Failure Bool := do
  let found ← find project specification session
  let head ← found.project.head project found.specification.stream
  return found.branch.base.revision.id ≠ head.revision.id

/-- Whether the conflicts of the last update of a workspace are still to be resolved. -/
def isInConflict (project : String) (specification : Specification) (session : Session) :
    Except Failure Bool := do
  let (resolutionName, _) ← session.locate (specification.withAccess .resolution)
  let found ← find project (specification.withAccess .live) session
  return found.project.branches.contains resolutionName

/-- What the workspace has changed since it was cut from its stream. -/
def creationComparison (project : String) (specification : Specification)
    (session : Session) : Except Failure Comparison := do
  let found ← find project specification session
  return .of found.branch.base found.branch.head

/-- How the workspace differs from the latest revision of its stream. -/
def streamComparison (project : String) (specification : Specification)
    (session : Session) : Except Failure Comparison := do
  let found ← find project specification session
  let head ← found.project.head project found.specification.stream
  return .of head found.branch.head

/-- Cut a workspace from the head of its stream. -/
def create (project : String) (specification : Specification) : Action Workspace := do
  Action.refuseIf (specification.access ≠ .live) (.notCreatable specification.access)
  let (name, resolved) ← Action.locate specification
  let state ← Action.project project
  Action.refuseIf (state.branches.contains name) (.workspaceExists project resolved)
  let head ← Action.ofExcept (state.head project resolved.stream)
  Action.modifyProject project (·.putBranch name (.fresh head))
  Action.inform "created workspace" project [("branch", .text name)]
  return { project, specification := resolved }

/-- Commit changes to the head of a workspace. -/
def commit (project : String) (specification : Specification) (message : String)
    (changes : List Change) : Action Revision := do
  let found ← Action.read (find project specification)
  let head := found.branch.head
  let contents ← Action.ofExcept (Change.applyAll changes head.contents)
  let next ← Action.commit (some head) message contents
  Action.modifyProject project (·.pushCommit found.name next)
  return next.revision

/-- The name of the branch that has to go together with a branch: the conflict resolution
of a live workspace. -/
def companionName? (specification : Specification) (session : Session) :
    Except Failure (Option String) :=
  if specification.access = .live then do
    let (name, _) ← session.locate (specification.withAccess .resolution)
    return some name
  else
    return none

/-- Delete the branch that goes together with a deleted one, if it exists. -/
def deleteCompanion (project : String) : Option String → Action Unit
  | none => Action.done ()
  | some name => do
    let state ← Action.project project
    if state.branches.contains name then
      Action.modifyProject project (·.dropBranch name)
      Action.inform "deleted conflict resolution" project [("branch", .text name)]
    else
      Action.done ()

/-- Delete a workspace, and its conflict resolution with it. The backup stays, so that
the workspace can still be recovered. -/
def delete (project : String) (specification : Specification) : Action Unit := do
  let (name, resolved) ← Action.locate specification
  let companion ← Action.read (companionName? resolved)
  let state ← Action.project project
  let _ ← Action.ofExcept (state.branch name resolved)
  Action.modifyProject project (·.dropBranch name)
  deleteCompanion project companion
  Action.inform "deleted workspace" project [("branch", .text name)]

end Workspaces

end Workstream
