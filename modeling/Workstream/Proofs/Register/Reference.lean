import Workstream.Proofs.Store.Step

/-!
# A store without names

A register files each branch of a project under its specification, in which no user is left
open. There are no names to be written or read: a request fills in the user and goes straight
to the shelf of the project. Only a listing makes names, of what it has found already, because
it is sorted by them.

Everything else is kept in a session whose projects hold no branches, the ledger, and requests
that have nothing to do with branches are performed there.
-/

namespace Workstream

/-- A store that files branches under their specifications. -/
structure Register where
  /-- Everything but the branches. -/
  ledger : Session
  /-- The branches of each project under their specifications. -/
  shelves : SortedMap String (SortedMap Specification Branch)

namespace Register

/-- A register without projects. -/
def start (currentUser : Option String) (structureVersion : Nat) : Register :=
  { ledger := .start currentUser structureVersion, shelves := ∅ }

/-- The branches of a project. -/
def shelf (register : Register) (project : String) : SortedMap Specification Branch :=
  (register.shelves.get? project).getD ∅

/-- The register with other branches of a project. -/
def setShelf (register : Register) (project : String)
    (shelf : SortedMap Specification Branch) : Register :=
  { register with shelves := register.shelves.insert project shelf }

/-- The register with a branch in place of any earlier one. -/
def put (register : Register) (project : String) (specification : Specification)
    (branch : Branch) : Register :=
  register.setShelf project ((register.shelf project).insert specification branch)

/-- The register without a branch. -/
def drop (register : Register) (project : String) (specification : Specification) : Register :=
  register.setShelf project ((register.shelf project).erase specification)

/-- The register after a commit was counted. -/
def advance (register : Register) : Register :=
  { register with ledger := register.ledger.advance }

/-- Whether there is a branch. -/
def holds (register : Register) (project : String) (specification : Specification) : Bool :=
  (register.shelf project).contains specification

/-- End with a failure if a condition holds. -/
def refuseIf (condition : Bool) (failure : Failure) : Except Failure Unit :=
  if condition then .error failure else .ok ()

/-- The specification with its user filled in. -/
def resolve (register : Register) (specification : Specification) :
    Except Failure Specification :=
  match specification.owner with
  | .group => .ok specification
  | .user pinned =>
    match BranchName.resolveUser register.ledger.currentUser specification.id pinned with
    | .ok user => .ok (specification.withUser user)
    | .error cause => .error (.unnamed cause)

/-- The project with a given name, without its branches. -/
def project (register : Register) (name : String) : Except Failure Project :=
  register.ledger.store.project name

/-- The branch of a workspace. -/
def branch (register : Register) (project : String) (resolved : Specification) :
    Except Failure Branch :=
  match (register.shelf project).get? resolved with
  | some branch => .ok branch
  | none => .error (.unknownWorkspace resolved)

/-- A workspace that was found in the register. -/
structure Found where
  specification : Specification
  /-- The project that it belongs to, without its branches. -/
  project : Project
  branch : Branch

variable (project : String) (specification : Specification) (register : Register)

/-- Look for a workspace. -/
def find : Except Failure Found := do
  let resolved ← register.resolve specification
  let state ← register.project project
  let branch ← register.branch project resolved
  return { specification := resolved, project := state, branch }

/-- The workspace, if it exists. -/
def get : Except Failure Workspace := do
  let found ← find project specification register
  return { project, specification := found.specification }

/-- Whether the stream has moved on since the workspace was cut from it. -/
def isOutdated : Except Failure Bool := do
  let found ← find project specification register
  let head ← found.project.head project found.specification.stream
  return found.branch.base.revision.id ≠ head.revision.id

/-- Whether the conflicts of the last update of a workspace are still to be resolved. -/
def isInConflict : Except Failure Bool := do
  let resolution ← register.resolve (specification.withAccess .resolution)
  let _ ← find project (specification.withAccess .live) register
  return register.holds project resolution

/-- What the workspace has changed since it was cut from its stream. -/
def creationComparison : Except Failure Comparison := do
  let found ← find project specification register
  return .of found.branch.base found.branch.head

/-- How the workspace differs from the latest revision of its stream. -/
def streamComparison : Except Failure Comparison := do
  let found ← find project specification register
  let head ← found.project.head project found.specification.stream
  return .of head found.branch.head

/-- The configuration at the head of a workspace. -/
def configuration : Except Failure Configuration := do
  let found ← find project specification register
  return found.branch.head.contents.configuration

/-- The configuration at a revision of a workspace. -/
def revisionConfiguration (revision : String) : Except Failure Configuration := do
  let found ← find project specification register
  match found.branch.find? revision with
  | some snapshot => return snapshot.contents.configuration
  | none => .error (.unknownRevision revision (.branch specification))

/-- What a revision of a workspace depends on. -/
def dependencies (revision : String) (transitive : Bool) :
    Except Failure (SortedSet Dependency) := do
  let found ← find project specification register
  match found.branch.find? revision with
  | none => .error (.unknownRevision revision (.branch found.specification))
  | some snapshot =>
    let declared := snapshot.contents.configuration.dependencies
    if transitive then Dependencies.closure register.ledger.store declared else .ok declared

/-- The name that a workspace is sorted by. -/
def nameOf (specification : Specification) : String :=
  ((BranchName.encode none specification).toOption).getD ""

/-- Specifications in the order of their names. -/
def sorted (specifications : List Specification) : List Specification :=
  specifications.mergeSort fun earlier later => (compare (nameOf earlier) (nameOf later)).isLE

variable (stream : DevelopmentStream) (kinds : List Ownership)

/-- The workspaces that a viewer may see, in the order of their names. -/
def listFor (viewer : Option String) : Except Failure (List Workspace) := do
  let state ← register.project project
  let _ ← state.history project stream
  return (sorted ((register.shelf project).keys.filter
    (Workspaces.isListed stream kinds viewer))).map (Workspace.mk project)

/-- The workspaces of the current user and the shared ones. Without a current user only
the shared ones are left. -/
def list : Except Failure (List Workspace) :=
  match register.ledger.currentUser with
  | some user => listFor project register stream kinds (some user)
  | none => listFor project register stream (kinds.filter (· = .group)) none

/-- Cut a workspace from the head of its stream. -/
def create : Except Failure (Workspace × Register) := do
  refuseIf (specification.access ≠ .live) (.notCreatable specification.access)
  let resolved ← register.resolve specification
  let state ← register.project project
  refuseIf (register.holds project resolved) (.workspaceExists project resolved)
  let head ← state.head project resolved.stream
  return ({ project, specification := resolved }, register.put project resolved (.fresh head))

/-- Commit changes to the head of a workspace. -/
def commit (message : String) (changes : List Change) :
    Except Failure (Revision × Register) := do
  let found ← find project specification register
  let head := found.branch.head
  let contents ← Change.applyAll changes head.contents
  let next := register.ledger.minted (some head) message contents
  return (next.revision,
    register.advance.put project found.specification (found.branch.push next))

/-- The register without a branch, and without the conflict resolution that goes together
with a live workspace. -/
def dropAll (resolved : Specification) : Register :=
  if resolved.access = .live then
    (register.drop project resolved).drop project (resolved.withAccess .resolution)
  else
    register.drop project resolved

/-- Delete a workspace, and its conflict resolution with it. -/
def delete : Except Failure (Unit × Register) := do
  let resolved ← register.resolve specification
  let _ ← register.project project
  let _ ← register.branch project resolved
  return ((), dropAll project register resolved)

/-- The branch of a workspace that is carried over to the head of its stream. -/
def replay (head : Snapshot) (merge : Merge) : Branch × Register :=
  if merge.carriesOver then
    ({ base := head
       commits := [register.ledger.minted (some head) Workspaces.replayMessage merge.contents] },
      register.advance)
  else
    (.fresh head, register)

/-- Put an updated branch in place of a live workspace and keep the old one as its backup. -/
def replace (live : Specification) (old updated : Branch) : UpdateReport × Register :=
  (.updated updated.head.revision.id,
    (register.put project (live.withAccess .backup) old).put project live updated)

/-- Set up a conflict resolution beside a live workspace. -/
def enterResolution (live : Specification) (head : Snapshot) (merge : Merge) :
    UpdateReport × Register :=
  (.conflicting merge.conflicts,
    register.advance.put project (live.withAccess .resolution)
      { base := head
        commits :=
          [register.ledger.minted (some head) Workspaces.resolutionMessage merge.contents] })

/-- Carry a branch over to the head of its stream. -/
def moveTo (live : Specification) (branch : Branch) (head : Snapshot) :
    UpdateReport × Register :=
  if (Workspaces.updateMerge branch head).conflicts.isEmpty then
    let (updated, after) := replay register head (Workspaces.updateMerge branch head)
    replace project after live branch updated
  else
    enterResolution project register live head (Workspaces.updateMerge branch head)

/-- Bring a workspace up to date with its stream. -/
def update : Except Failure (UpdateReport × Register) := do
  refuseIf (specification.access ≠ .live) (.notUpdatable specification.access)
  let resolved ← register.resolve specification
  let state ← register.project project
  let branch ← register.branch project resolved
  refuseIf (register.holds project (resolved.withAccess .resolution))
    (.inConflictResolution resolved)
  let head ← state.head project resolved.stream
  if branch.base.revision.id = head.revision.id then
    return (.unchanged, register)
  else
    return moveTo project register resolved branch head

/-- Throw a backup away. -/
def discard : Except Failure (Unit × Register) := do
  let found ← find project (specification.withAccess .backup) register
  return ((), register.drop project found.specification)

/-- Make the backup the live workspace again. A live workspace that is still there is
only overwritten by force. -/
def recover (force : Bool) : Except Failure (Unit × Register) := do
  let live ← register.resolve (specification.withAccess .live)
  let found ← find project (specification.withAccess .backup) register
  refuseIf (!force && register.holds project live) (.wouldOverwrite live)
  return ((), (register.drop project found.specification).put project live found.branch)

/-- Open a review of a live workspace for its stream. -/
def openReview : Except Failure (Review × Register) := do
  let found ← find project (specification.withAccess .live) register
  let review : Review :=
    { id := toString (found.project.reviews.size + 1)
      project
      workspace := found.specification
      target := found.specification.stream }
  let state := found.project.addReview
    { review, base := found.branch.base, head := found.branch.head }
  return (review, { register with ledger := register.ledger.setProject project state })

end Register

namespace Register

variable {Result : Type}

/-- What a request that changes branches is answered. -/
def done (answer : Result → Answer) (outcome : Except Failure (Result × Register)) :
    Except Failure (Answer × Register) :=
  outcome.map fun (result, after) => (answer result, after)

/-- What a question is answered. Nothing changes. -/
def told (register : Register) (answer : Result → Answer) (looked : Except Failure Result) :
    Except Failure (Answer × Register) :=
  looked.map fun result => (answer result, register)

/-- Do in the ledger what has nothing to do with branches. -/
def onLedger (register : Register) (action : Action Answer) :
    Except Failure (Answer × Register) :=
  let outcome := action.run register.ledger
  outcome.result.map fun answer => (answer, { register with ledger := outcome.session })

/-- Do what a request asks for. -/
def perform (register : Register) : Request → Except Failure (Answer × Register)
  | .commitToWorkspace project workspace message changes =>
    done .revision (commit project workspace register message changes)
  | .openReview project workspace => done .review (openReview project workspace register)
  | .listWorkspaces project stream kinds =>
    register.told .workspaces (list project register stream kinds)
  | .listAllWorkspaces project stream kinds =>
    register.told .workspaces (listFor project register stream kinds none)
  | .getWorkspace project workspace => register.told .workspace (get project workspace register)
  | .createWorkspace project workspace => done .workspace (create project workspace register)
  | .deleteWorkspace project workspace =>
    done (fun _ => .done) (delete project workspace register)
  | .updateWorkspace project workspace => done .update (update project workspace register)
  | .isOutdated project workspace => register.told .flag (isOutdated project workspace register)
  | .isInConflict project workspace =>
    register.told .flag (isInConflict project workspace register)
  | .discardBackup project workspace =>
    done (fun _ => .done) (discard project workspace register)
  | .recoverBackup project workspace force =>
    done (fun _ => .done) (recover project workspace register force)
  | .compareWithCreation project workspace =>
    register.told .comparison (creationComparison project workspace register)
  | .compareWithStream project workspace =>
    register.told .comparison (streamComparison project workspace register)
  | .dependencies project workspace revision transitive =>
    register.told .dependencies (dependencies project workspace register revision transitive)
  | .workspaceConfiguration project workspace =>
    register.told .configuration (configuration project workspace register)
  | .workspaceRevisionConfiguration project workspace revision =>
    register.told .configuration (revisionConfiguration project workspace register revision)
  | request => register.onLedger request.perform

/-- The answer to a request. -/
def answer (register : Register) (request : Request) : Except Failure Answer :=
  (register.perform request).map (·.1)

/-- The register after a request. A request that fails changes nothing. -/
def next (register : Register) (request : Request) : Register :=
  match register.perform request with
  | .ok (_, after) => after
  | .error _ => register

/-- The register after some requests, performed one after the other. -/
def after (register : Register) (requests : List Request) : Register :=
  requests.foldl next register

end Register

end Workstream
