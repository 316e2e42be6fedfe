import Workstream.Proofs.Store.Postcondition
import Workstream.Store.Request

/-!
# What a request can do

For every operation that changes the store there is a relation between the session before
a success, its result and the session after it, with a constructor for each way to
succeed. The relations name everything that was looked up, so an invariant is proved by
cases on them, without opening an operation again. `Step` joins them to one relation for
all requests, and `Request.perform_meets` says that this is all that can happen.
-/

namespace Workstream

namespace Projects

/-- A new project starts with a revision of its own. -/
inductive Created (project group artifact : String) (before : Session) :
    Revision → Session → Prop where
  | intro {first : Snapshot} (absent : before.store.projects.get? project = none)
      (minted : first = before.minted none firstMessage
        (firstContents before.structureVersion project group artifact)) :
      Created project group artifact before first.revision
        (before.advance.setProject project (.start first))

/-- The head of the main line becomes a version. -/
inductive Released (project : String) (version : Version) (before : Session) :
    Revision → Session → Prop where
  | intro {state : Project} {head : Snapshot}
      (found : before.store.projects.get? project = some state)
      (absent : state.versions.get? version = none)
      (isHead : state.head project .mainLine = .ok head) :
      Released project version before head.revision
        (before.setProject project (state.addVersion version head))

/-- A patch stream starts with the released version. -/
inductive PatchOpened (project : String) (version : Version) (before : Session) :
    Revision → Session → Prop where
  | intro {state : Project} {released : Snapshot}
      (found : before.store.projects.get? project = some state)
      (absent : state.streams.get? (.patch version) = none)
      (isReleased : state.versions.get? version = some released) :
      PatchOpened project version before released.revision
        (before.setProject project (state.addPatch version released))

/-- A stream is extended by a new revision. -/
inductive Committed (project : String) (stream : DevelopmentStream) (message : String)
    (changes : List Change) (before : Session) : Revision → Session → Prop where
  | intro {state : Project} {head next : Snapshot} {contents : Contents}
      (found : before.store.projects.get? project = some state)
      (isHead : state.head project stream = .ok head)
      (changed : Change.applyAll changes head.contents = .ok contents)
      (minted : next = before.minted (some head) message contents) :
      Committed project stream message changes before next.revision
        (before.advance.setProject project (state.pushRevision stream next))

end Projects

namespace Workspaces

/-- A workspace is cut from the head of its stream. -/
inductive Created (project : String) (specification : Specification) (before : Session) :
    Workspace → Session → Prop where
  | intro {name : String} {state : Project} {head : Snapshot}
      (live : specification.access = .live)
      (named : BranchName.encode before.currentUser specification = .ok name)
      (found : before.store.projects.get? project = some state)
      (absent : state.branches.get? name = none)
      (isHead : state.head project specification.stream = .ok head) :
      Created project specification before
        { project, specification := specification.resolve before.currentUser }
        (before.setProject project (state.putBranch name (.fresh head)))

/-- A branch is extended by a new revision. -/
inductive Committed (project : String) (specification : Specification) (message : String)
    (changes : List Change) (before : Session) : Revision → Session → Prop where
  | intro {name : String} {state : Project} {branch : Branch} {next : Snapshot}
      {contents : Contents}
      (named : BranchName.encode before.currentUser specification = .ok name)
      (found : before.store.projects.get? project = some state)
      (stored : state.branches.get? name = some branch)
      (changed : Change.applyAll changes branch.head.contents = .ok contents)
      (minted : next = before.minted (some branch.head) message contents) :
      Committed project specification message changes before next.revision
        (before.advance.setProject project (state.putBranch name (branch.push next)))

/-- A branch is removed, and the conflict resolution of a live workspace with it. -/
inductive Deleted (project : String) (specification : Specification) (before : Session) :
    Unit → Session → Prop where
  /-- A live workspace takes its conflict resolution with it. -/
  | live {name resolution : String} {state : Project} {branch : Branch}
      (live : specification.access = .live)
      (named : BranchName.encode before.currentUser specification = .ok name)
      (resolutionNamed : BranchName.encode before.currentUser
        (specification.withAccess .resolution) = .ok resolution)
      (found : before.store.projects.get? project = some state)
      (stored : state.branches.get? name = some branch) :
      Deleted project specification before ()
        (before.setProject project ((state.dropBranch name).dropBranch resolution))
  | alone {name : String} {state : Project} {branch : Branch}
      (notLive : specification.access ≠ .live)
      (named : BranchName.encode before.currentUser specification = .ok name)
      (found : before.store.projects.get? project = some state)
      (stored : state.branches.get? name = some branch) :
      Deleted project specification before ()
        (before.setProject project (state.dropBranch name))

/-- What an update finds before it changes anything. -/
structure Updatable (project : String) (specification : Specification) (before : Session)
    (names : UpdateNames) (state : Project) (branch : Branch) (head : Snapshot) : Prop where
  live : specification.access = .live
  liveNamed : BranchName.encode before.currentUser specification = .ok names.live
  backupNamed : BranchName.encode before.currentUser (specification.withAccess .backup) =
    .ok names.backup
  resolutionNamed : BranchName.encode before.currentUser
    (specification.withAccess .resolution) = .ok names.resolution
  found : before.store.projects.get? project = some state
  stored : state.branches.get? names.live = some branch
  calm : state.branches.get? names.resolution = none
  isHead : state.head project specification.stream = .ok head

/-- The merge that an update computes. -/
def updateMerge (branch : Branch) (head : Snapshot) : Merge :=
  .of branch.base.contents branch.head.contents head.contents

/-- A workspace is brought up to date. -/
inductive Updated (project : String) (specification : Specification) (before : Session) :
    UpdateReport → Session → Prop where
  /-- The workspace is at the head of its stream already. -/
  | unchanged {names : UpdateNames} {state : Project} {branch : Branch} {head : Snapshot}
      (updatable : Updatable project specification before names state branch head)
      (current : branch.base.revision.id = head.revision.id) :
      Updated project specification before .unchanged before
  /-- There is nothing to carry over. -/
  | moved {names : UpdateNames} {state : Project} {branch : Branch} {head : Snapshot}
      (updatable : Updatable project specification before names state branch head)
      (outdated : branch.base.revision.id ≠ head.revision.id)
      (clean : (updateMerge branch head).conflicts = [])
      (idle : (updateMerge branch head).carriesOver = false) :
      Updated project specification before (.updated head.revision.id)
        (before.setProject project
          ((state.putBranch names.backup branch).putBranch names.live (.fresh head)))
  /-- The changes of the workspace are carried over by a new revision. -/
  | replayed {names : UpdateNames} {state : Project} {branch : Branch} {head next : Snapshot}
      (updatable : Updatable project specification before names state branch head)
      (outdated : branch.base.revision.id ≠ head.revision.id)
      (clean : (updateMerge branch head).conflicts = [])
      (carries : (updateMerge branch head).carriesOver = true)
      (minted : next = before.minted (some head) replayMessage
        (updateMerge branch head).contents) :
      Updated project specification before (.updated next.revision.id)
        (before.advance.setProject project ((state.putBranch names.backup branch).putBranch
          names.live { base := head, commits := [next] }))
  /-- What does not conflict is set up beside the workspace by a new revision. -/
  | conflicting {names : UpdateNames} {state : Project} {branch : Branch}
      {head next : Snapshot}
      (updatable : Updatable project specification before names state branch head)
      (outdated : branch.base.revision.id ≠ head.revision.id)
      (conflicts : (updateMerge branch head).conflicts ≠ [])
      (minted : next = before.minted (some head) resolutionMessage
        (updateMerge branch head).contents) :
      Updated project specification before (.conflicting (updateMerge branch head).conflicts)
        (before.advance.setProject project
          (state.putBranch names.resolution { base := head, commits := [next] }))

end Workspaces

/-- A backup is removed. -/
inductive Backups.Discarded (project : String) (specification : Specification)
    (before : Session) : Unit → Session → Prop where
  | intro {name : String} {state : Project} {branch : Branch}
      (named : BranchName.encode before.currentUser (specification.withAccess .backup) =
        .ok name)
      (found : before.store.projects.get? project = some state)
      (stored : state.branches.get? name = some branch) :
      Discarded project specification before ()
        (before.setProject project (state.dropBranch name))

/-- A backup becomes the live workspace. -/
inductive Backups.Recovered (project : String) (specification : Specification) (force : Bool)
    (before : Session) : Unit → Session → Prop where
  | intro {name backup : String} {state : Project} {branch : Branch}
      (named : BranchName.encode before.currentUser (specification.withAccess .live) = .ok name)
      (backupNamed : BranchName.encode before.currentUser (specification.withAccess .backup) =
        .ok backup)
      (found : before.store.projects.get? project = some state)
      (stored : state.branches.get? backup = some branch)
      (allowed : force = true ∨ state.branches.get? name = none) :
      Recovered project specification force before ()
        (before.setProject project ((state.dropBranch backup).putBranch name branch))

/-- A review keeps the base and the head of a live workspace. -/
inductive Reviews.Opened (project : String) (specification : Specification)
    (before : Session) : Review → Session → Prop where
  | intro {name : String} {state : Project} {branch : Branch} {review : Review}
      (named : BranchName.encode before.currentUser (specification.withAccess .live) = .ok name)
      (found : before.store.projects.get? project = some state)
      (stored : state.branches.get? name = some branch)
      (isReview : review =
        { id := toString (state.reviews.size + 1)
          project
          workspace := (specification.withAccess .live).resolve before.currentUser
          target := specification.stream }) :
      Opened project specification before review
        (before.setProject project
          (state.addReview { review, base := branch.base, head := branch.head }))

/-- The request only asks for something. -/
def Request.isQuery : Request → Bool
  | .structureVersion => true
  | .listWorkspaces _ _ _ => true
  | .listAllWorkspaces _ _ _ => true
  | .getWorkspace _ _ => true
  | .isOutdated _ _ => true
  | .isInConflict _ _ => true
  | .compareWithCreation _ _ => true
  | .compareWithStream _ _ => true
  | .compareReviewWithStream _ _ _ => true
  | .compareReviewWithCreation _ _ _ => true
  | .dependencies _ _ _ _ => true
  | .streamConfiguration _ _ => true
  | .streamRevisionConfiguration _ _ _ => true
  | .workspaceConfiguration _ _ => true
  | .workspaceRevisionConfiguration _ _ _ => true
  | .versionConfiguration _ _ => true
  | .reviewBaseConfiguration _ _ _ => true
  | .reviewHeadConfiguration _ _ _ => true
  | .becomeUser _ => false
  | .createProject _ _ _ => false
  | .releaseVersion _ _ => false
  | .openPatch _ _ => false
  | .commitToStream _ _ _ _ => false
  | .commitToWorkspace _ _ _ _ => false
  | .openReview _ _ => false
  | .createWorkspace _ _ => false
  | .deleteWorkspace _ _ => false
  | .updateWorkspace _ _ => false
  | .discardBackup _ _ => false
  | .recoverBackup _ _ _ => false

/-- A request that succeeds, with its answer and the sessions before and after it. -/
inductive Step (before : Session) : Request → Answer → Session → Prop where
  | query {request : Request} {answer : Answer} (isQuery : request.isQuery = true)
      (answered : (request.perform.run before).result = .ok answer) :
      Step before request answer before
  | becomeUser (user : String) :
      Step before (.becomeUser user) (.user user) { before with currentUser := some user }
  | createProject {project group artifact : String} {revision : Revision} {after : Session}
      (created : Projects.Created project group artifact before revision after) :
      Step before (.createProject project group artifact) (.revision revision) after
  | releaseVersion {project : String} {version : Version} {revision : Revision}
      {after : Session} (released : Projects.Released project version before revision after) :
      Step before (.releaseVersion project version) (.revision revision) after
  | openPatch {project : String} {version : Version} {revision : Revision} {after : Session}
      (opened : Projects.PatchOpened project version before revision after) :
      Step before (.openPatch project version) (.revision revision) after
  | commitToStream {project : String} {stream : DevelopmentStream} {message : String}
      {changes : List Change} {revision : Revision} {after : Session}
      (committed : Projects.Committed project stream message changes before revision after) :
      Step before (.commitToStream project stream message changes) (.revision revision) after
  | commitToWorkspace {project : String} {workspace : Specification} {message : String}
      {changes : List Change} {revision : Revision} {after : Session}
      (committed : Workspaces.Committed project workspace message changes before revision after) :
      Step before (.commitToWorkspace project workspace message changes) (.revision revision)
        after
  | openReview {project : String} {workspace : Specification} {review : Review}
      {after : Session} (opened : Reviews.Opened project workspace before review after) :
      Step before (.openReview project workspace) (.review review) after
  | createWorkspace {project : String} {workspace : Specification} {result : Workspace}
      {after : Session} (created : Workspaces.Created project workspace before result after) :
      Step before (.createWorkspace project workspace) (.workspace result) after
  | deleteWorkspace {project : String} {workspace : Specification} {after : Session}
      (deleted : Workspaces.Deleted project workspace before () after) :
      Step before (.deleteWorkspace project workspace) .done after
  | updateWorkspace {project : String} {workspace : Specification} {report : UpdateReport}
      {after : Session} (updated : Workspaces.Updated project workspace before report after) :
      Step before (.updateWorkspace project workspace) (.update report) after
  | discardBackup {project : String} {workspace : Specification} {after : Session}
      (discarded : Backups.Discarded project workspace before () after) :
      Step before (.discardBackup project workspace) .done after
  | recoverBackup {project : String} {workspace : Specification} {force : Bool}
      {after : Session} (recovered : Backups.Recovered project workspace force before () after) :
      Step before (.recoverBackup project workspace force) .done after

end Workstream
