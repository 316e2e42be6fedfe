import Workstream.Store.Request

/-!
# Resources of patch streams

Clients reach patch streams through resources, whose parameters are texts. A call is
turned into a description and a request: the version and the workspace id are checked,
in this order, before anything is logged or asked of the store. Then the request is
performed between a log event that announces the call and one that tells its end.

The workspaces behind a resource are those of the current user or the shared ones,
depending on the kind of the resource; a call cannot name another user.
-/

namespace Workstream

/-- What is asked of the resources of a patch stream. -/
inductive PatchCall where
  /-- List workspaces. For the workspaces of users, `widen` restricts the list to the
  current user; for the shared ones, it adds the workspaces of all users. -/
  | list (widen : Bool)
  | get (workspace : String)
  | isOutdated (workspace : String)
  | isInConflict (workspace : String)
  | create (workspace : String)
  | delete (workspace : String)
  | update (workspace : String)
  | getBackup (workspace : String)
  | isBackupOutdated (workspace : String)
  | discardBackup (workspace : String)
  | recoverBackup (workspace : String) (force : Bool)
  | backupConfiguration (workspace : String)
  | compareWithCreation (workspace : String)
  | compareWithStream (workspace : String)
  | dependencies (workspace revision : String) (transitive : Bool)
  | compareReviewWithStream (review : String)
  | compareReviewWithCreation (review : String)
  /-- Ask for the configuration that a reviewed workspace started from. -/
  | reviewBaseConfiguration (review : String)
  | reviewHeadConfiguration (review : String)

namespace PatchCall

/-- What is said when a call does not name the version of the patch stream. -/
def missingVersion : PatchCall → String
  | .dependencies _ _ _ => "patchReleaseVersionId may not be null"
  | _ => "patchReleaseVersion may not be null"

/-- A request for a listing with its description. -/
def listing (project : String) (version : Version) (ownership : Ownership) (widen : Bool) :
    String × Request :=
  let release := "for patch release version " ++ version.text
  let stream := DevelopmentStream.patch version
  match ownership, widen with
  | .user, true =>
    ("getting user workspaces " ++ release ++ " for project " ++ project,
      .listWorkspaces project stream [.user])
  | .user, false =>
    ("getting all workspaces " ++ release ++ " for project " ++ project,
      .listAllWorkspaces project stream Ownership.all)
  | .group, true =>
    ("getting all group and user workspaces for project " ++ project ++ " " ++ release,
      .listAllWorkspaces project stream Ownership.all)
  | .group, false =>
    ("getting all group workspaces for project " ++ project ++ " " ++ release,
      .listWorkspaces project stream [.group])

/-- The specification that a workspace id stands for. -/
def specificationOf (ownership : Ownership) (access : Access) (version : Version)
    (workspace : String) : Except Failure Specification := do
  let id ← (WorkspaceId.parse workspace).mapError .malformed
  return .of id ownership access (.patch version) none

/-- A request about a workspace with its description. -/
def aboutWorkspace (ownership : Ownership) (access : Access) (version : Version)
    (workspace : String) (describe : Specification → String)
    (request : Specification → Request) : Except Failure (String × Request) := do
  let specification ← specificationOf ownership access version workspace
  return (describe specification, request specification)

/-- The description of a call and the request that it stands for, on a given version. -/
def interpretOn (ownership : Ownership) (project : String) (version : Version) :
    PatchCall → Except Failure (String × Request)
  | .list widen => .ok (listing project version ownership widen)
  | .get workspace =>
    aboutWorkspace ownership .live version workspace
      (fun specification => "getting " ++ specification.display ++ " for project " ++ project)
      (.getWorkspace project)
  | .isOutdated workspace =>
    aboutWorkspace ownership .live version workspace
      (fun specification =>
        "checking if " ++ specification.display ++ " of project " ++ project ++ " is outdated")
      (.isOutdated project)
  | .isInConflict workspace =>
    aboutWorkspace ownership .live version workspace
      (fun specification =>
        "checking if " ++ specification.display ++ " of project " ++ project ++
          " is in conflict resolution mode")
      (.isInConflict project)
  | .create workspace =>
    aboutWorkspace ownership .live version workspace
      (fun specification =>
        "creating new " ++ specification.display ++ " for project " ++ project)
      (.createWorkspace project)
  | .delete workspace =>
    aboutWorkspace ownership .live version workspace
      (fun specification => "deleting " ++ specification.display ++ " for project " ++ project)
      (.deleteWorkspace project)
  | .update workspace =>
    aboutWorkspace ownership .live version workspace
      (fun specification =>
        "updating " ++ specification.display ++ " in project " ++ project ++
          " to latest revision")
      (.updateWorkspace project)
  | .getBackup workspace =>
    aboutWorkspace ownership .backup version workspace
      (fun specification => "getting " ++ specification.display ++ " for project " ++ project)
      (.getWorkspace project)
  | .isBackupOutdated workspace =>
    aboutWorkspace ownership .backup version workspace
      (fun specification =>
        "checking if " ++ specification.display ++ " of project " ++ project ++ " is outdated")
      (.isOutdated project)
  | .discardBackup workspace =>
    aboutWorkspace ownership .backup version workspace
      (fun specification => "discarding " ++ specification.display ++ " in project " ++ project)
      (.discardBackup project)
  | .recoverBackup workspace force =>
    aboutWorkspace ownership .backup version workspace
      (fun specification =>
        (if force then "force " else "") ++ "recovering " ++
          (specification.withAccess .live).display ++ " from backup in project " ++ project)
      (.recoverBackup project · force)
  | .backupConfiguration workspace =>
    aboutWorkspace ownership .backup version workspace
      (fun specification =>
        "getting project " ++ project ++ " configuration in " ++ specification.display)
      (.workspaceConfiguration project)
  | .compareWithCreation workspace =>
    aboutWorkspace ownership .live version workspace
      (fun specification =>
        "getting comparison between current workspace revision and project revision at " ++
          "workspace creation, for " ++ specification.display ++ " for project " ++ project)
      (.compareWithCreation project)
  | .compareWithStream workspace =>
    aboutWorkspace ownership .live version workspace
      (fun specification =>
        "getting comparison between current workspace revision and current project " ++
          "revision, for " ++ specification.display ++ " for project " ++ project)
      (.compareWithStream project)
  | .dependencies workspace revision transitive =>
    aboutWorkspace ownership .live version workspace
      (fun specification =>
        "getting upstream dependencies of project " ++ project ++
          " for patch release version " ++ version.text ++ ", " ++ specification.display ++
          ", revision " ++ revision ++ " (fetch transitively = " ++
          (if transitive then "true" else "false") ++ ")")
      (.dependencies project · revision transitive)
  | .compareReviewWithStream review =>
    .ok ("getting comparison between the current workspace revision and current project " ++
        "revision for review " ++ review ++ " for project " ++ project ++ " for " ++
        (DevelopmentStream.patch version).display,
      .compareReviewWithStream project (.patch version) review)
  | .compareReviewWithCreation review =>
    .ok ("getting comparison between the review current workspace revision and review " ++
        "workspace creation revision for review " ++ review ++ " for project " ++ project,
      .compareReviewWithCreation project (.patch version) review)
  | .reviewBaseConfiguration review =>
    .ok ("getting [from] project configuration for review " ++ review ++ " of project " ++
        project ++ " for " ++ (DevelopmentStream.patch version).display,
      .reviewBaseConfiguration project (.patch version) review)
  | .reviewHeadConfiguration review =>
    .ok ("getting [to] project configuration for review " ++ review ++ " of project " ++
        project ++ " for " ++ (DevelopmentStream.patch version).display,
      .reviewHeadConfiguration project (.patch version) review)

/-- The description of a call and the request that it stands for. -/
def interpret (ownership : Ownership) (project : String) (version : Option String)
    (call : PatchCall) : Except Failure (String × Request) := do
  let text ← required version call.missingVersion
  let version ← (Version.parse text).mapError .malformed
  call.interpretOn ownership project version

/-- Perform an action and log when it starts and how it ends. -/
def logged {Result : Type} (description : String) (action : Action Result) : Action Result :=
  fun session =>
    let outcome := action.run session
    let announcement : LogEvent :=
      { level := .info, source := .resources, message := "starting " ++ description
        fields := [] }
    let conclusion : LogEvent := match outcome.result with
      | .ok _ =>
        { level := .info, source := .resources, message := "finished " ++ description
          fields := [] }
      | .error failure =>
        { level := .warn, source := .resources, message := "error " ++ description
          fields := [("status", .number failure.status.code), ("error", .text failure.message)] }
    { outcome with events := announcement :: (outcome.events ++ [conclusion]) }

/-- Answer a call. -/
def perform (ownership : Ownership) (project : String) (version : Option String)
    (call : PatchCall) : Action Answer := do
  let (description, request) ← Action.ofExcept (call.interpret ownership project version)
  logged description request.perform

end PatchCall

end Workstream
