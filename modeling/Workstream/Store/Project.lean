import Workstream.Store.Comparison
import Workstream.Store.Failure

/-!
# Projects in the store

A project keeps the histories of its streams, the released versions, the branches of its
workspaces under their names, and its reviews under their ids. Nothing else records which
workspaces exist: the names of the branches are read back.
-/

namespace Workstream

/-- The branch of a workspace. -/
structure Branch where
  /-- The revision of the stream that the branch was cut from. -/
  base : Snapshot
  /-- The commits on the branch, oldest first. -/
  commits : List Snapshot
deriving DecidableEq

namespace Branch

/-- A branch without commits. -/
def fresh (base : Snapshot) : Branch := { base, commits := [] }

/-- The latest revision on the branch. -/
def head (branch : Branch) : Snapshot := branch.commits.getLast?.getD branch.base

/-- The branch with one more commit. -/
def push (branch : Branch) (snapshot : Snapshot) : Branch :=
  { branch with commits := branch.commits ++ [snapshot] }

/-- The revision on the branch with a given id. -/
def find? (branch : Branch) (revision : String) : Option Snapshot :=
  (branch.base :: branch.commits).find? (·.revision.id.text = revision)

end Branch

/-- A review as it is reported to clients. -/
structure Review where
  /-- The number of the review in its project, as a text. -/
  id : String
  project : String
  workspace : Specification
  target : DevelopmentStream
deriving DecidableEq

/-- A review with the revisions that it is about. -/
structure ReviewRecord where
  review : Review
  /-- The base of the workspace when the review was opened. -/
  base : Snapshot
  /-- The head of the workspace when the review was opened. -/
  head : Snapshot
deriving DecidableEq

/-- A project in the store. -/
structure Project where
  /-- The revisions of each stream, oldest first. -/
  streams : SortedMap DevelopmentStream (List Snapshot)
  versions : SortedMap Version Snapshot
  /-- The branches of workspaces under their names. -/
  branches : SortedMap String Branch
  reviews : SortedMap String ReviewRecord
deriving DecidableEq

namespace Project

/-- A project whose main line holds a single revision. -/
def start (first : Snapshot) : Project :=
  { streams := SortedMap.empty.insert .mainLine [first]
    versions := ∅
    branches := ∅
    reviews := ∅ }

/-! The name of the project is only used to report a failure. -/

/-- The history of a stream, if there is such a stream. A stream without revisions counts
as missing. -/
def history? (project : Project) (stream : DevelopmentStream) : Option (List Snapshot) :=
  (project.streams.get? stream).filter fun history => !history.isEmpty

/-- The failure of a request for a stream that does not exist. -/
def unknownStream (name : String) : DevelopmentStream → Failure
  | .mainLine => .unknownProject name
  | .patch version => .unknownPatchStream name version

/-- The history of a stream. -/
def history (project : Project) (name : String) (stream : DevelopmentStream) :
    Except Failure (List Snapshot) :=
  match project.history? stream with
  | some history => .ok history
  | none => .error (unknownStream name stream)

/-- The latest revision of a stream. -/
def head (project : Project) (name : String) (stream : DevelopmentStream) :
    Except Failure Snapshot := do
  let history ← project.history name stream
  match history.getLast? with
  | some snapshot => .ok snapshot
  | none => .error (unknownStream name stream)

/-- The branch with a given name, which belongs to the given workspace. -/
def branch (project : Project) (branchName : String) (specification : Specification) :
    Except Failure Branch :=
  match project.branches.get? branchName with
  | some branch => .ok branch
  | none => .error (.unknownWorkspace specification)

/-- The revision that was released as a version. -/
def release (project : Project) (name : String) (version : Version) : Except Failure Snapshot :=
  match project.versions.get? version with
  | some snapshot => .ok snapshot
  | none => .error (.unknownVersion name version)

/-- The review with a given id, if it is meant for the given stream. -/
def review (project : Project) (name : String) (stream : DevelopmentStream) (id : String) :
    Except Failure ReviewRecord :=
  match project.reviews.get? id with
  | some record =>
    if record.review.target = stream then .ok record
    else .error (.unknownReview name id stream)
  | none => .error (.unknownReview name id stream)

/-- The project with one more revision on a stream. A stream that does not exist is set
up by its first revision. -/
def pushRevision (project : Project) (stream : DevelopmentStream) (snapshot : Snapshot) :
    Project :=
  { project with
    streams := project.streams.insert stream
      ((project.streams.get? stream).getD [] ++ [snapshot]) }

@[simp] theorem streams_pushRevision (project : Project) (stream : DevelopmentStream)
    (snapshot : Snapshot) : (project.pushRevision stream snapshot).streams =
      project.streams.insert stream ((project.streams.get? stream).getD [] ++ [snapshot]) := rfl

/-- The project with one more released version. -/
def addVersion (project : Project) (version : Version) (snapshot : Snapshot) : Project :=
  { project with versions := project.versions.insert version snapshot }

@[simp] theorem versions_addVersion (project : Project) (version : Version)
    (snapshot : Snapshot) : (project.addVersion version snapshot).versions =
      project.versions.insert version snapshot := rfl

/-- The project with one more patch stream, which holds a single revision. -/
def addPatch (project : Project) (version : Version) (first : Snapshot) : Project :=
  { project with streams := project.streams.insert (.patch version) [first] }

@[simp] theorem streams_addPatch (project : Project) (version : Version) (first : Snapshot) :
    (project.addPatch version first).streams = project.streams.insert (.patch version) [first] :=
  rfl

/-- The project with a branch under a name, in place of any earlier one. -/
def putBranch (project : Project) (name : String) (branch : Branch) : Project :=
  { project with branches := project.branches.insert name branch }

@[simp] theorem branches_putBranch (project : Project) (name : String) (branch : Branch) :
    (project.putBranch name branch).branches = project.branches.insert name branch := rfl

/-- The project without the branch under a name. -/
def dropBranch (project : Project) (name : String) : Project :=
  { project with branches := project.branches.erase name }

@[simp] theorem branches_dropBranch (project : Project) (name : String) :
    (project.dropBranch name).branches = project.branches.erase name := rfl

/-- The project with one more commit on a branch. Nothing changes for a branch that does
not exist. -/
def pushCommit (project : Project) (name : String) (snapshot : Snapshot) : Project :=
  match project.branches.get? name with
  | some branch => project.putBranch name (branch.push snapshot)
  | none => project

/-- The project with one more review. -/
def addReview (project : Project) (record : ReviewRecord) : Project :=
  { project with reviews := project.reviews.insert record.review.id record }

@[simp] theorem reviews_addReview (project : Project) (record : ReviewRecord) :
    (project.addReview record).reviews = project.reviews.insert record.review.id record := rfl

end Project

/-- All projects, and the number of commits that were made in any of them. -/
structure Store where
  projects : SortedMap String Project
  /-- The number of the last commit. -/
  sequence : Nat
deriving DecidableEq

namespace Store

/-- The store without projects. -/
def empty : Store := { projects := ∅, sequence := 0 }

/-- The project with a given name. -/
def project (store : Store) (name : String) : Except Failure Project :=
  match store.projects.get? name with
  | some project => .ok project
  | none => .error (.unknownProject name)

end Store

end Workstream
