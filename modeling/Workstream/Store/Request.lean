import Workstream.Store.Backups
import Workstream.Store.Configurations
import Workstream.Store.Dependencies
import Workstream.Store.Reviews
import Workstream.Store.Projects
import Workstream.Store.Update

/-!
# Requests

Everything that can be asked of a session, as one type. `Request.perform` says what
each request does; a history of a session is a list of requests that were performed
one after the other.
-/

namespace Workstream

/-- Something that is asked of a session. -/
inductive Request where
  | becomeUser (user : String)
  /-- Ask for the structure version that new projects are given. -/
  | structureVersion
  | createProject (project group artifact : String)
  /-- Release the head of the main line. -/
  | releaseVersion (project : String) (version : Version)
  | openPatch (project : String) (version : Version)
  | commitToStream (project : String) (stream : DevelopmentStream) (message : String)
      (changes : List Change)
  | commitToWorkspace (project : String) (workspace : Specification) (message : String)
      (changes : List Change)
  | openReview (project : String) (workspace : Specification)
  /-- List the workspaces of the current user and the shared ones. -/
  | listWorkspaces (project : String) (stream : DevelopmentStream) (kinds : List Ownership)
  /-- List the workspaces of every user and the shared ones. -/
  | listAllWorkspaces (project : String) (stream : DevelopmentStream) (kinds : List Ownership)
  | getWorkspace (project : String) (workspace : Specification)
  | createWorkspace (project : String) (workspace : Specification)
  | deleteWorkspace (project : String) (workspace : Specification)
  | updateWorkspace (project : String) (workspace : Specification)
  | isOutdated (project : String) (workspace : Specification)
  | isInConflict (project : String) (workspace : Specification)
  | discardBackup (project : String) (workspace : Specification)
  | recoverBackup (project : String) (workspace : Specification) (force : Bool)
  | compareWithCreation (project : String) (workspace : Specification)
  | compareWithStream (project : String) (workspace : Specification)
  | compareReviewWithStream (project : String) (stream : DevelopmentStream) (review : String)
  | compareReviewWithCreation (project : String) (stream : DevelopmentStream) (review : String)
  | dependencies (project : String) (workspace : Specification) (revision : String)
      (transitive : Bool)
  | streamConfiguration (project : String) (stream : DevelopmentStream)
  | streamRevisionConfiguration (project : String) (stream : DevelopmentStream)
      (revision : String)
  | workspaceConfiguration (project : String) (workspace : Specification)
  | workspaceRevisionConfiguration (project : String) (workspace : Specification)
      (revision : String)
  | versionConfiguration (project : String) (version : Version)
  /-- Ask for the configuration that a reviewed workspace started from. -/
  | reviewBaseConfiguration (project : String) (stream : DevelopmentStream) (review : String)
  | reviewHeadConfiguration (project : String) (stream : DevelopmentStream) (review : String)

/-- The answer to a request. -/
inductive Answer where
  | done
  | user (user : String)
  | number (value : Nat)
  | flag (value : Bool)
  | revision (revision : Revision)
  | workspace (workspace : Workspace)
  | workspaces (workspaces : List Workspace)
  | review (review : Review)
  | update (report : UpdateReport)
  | comparison (comparison : Comparison)
  | configuration (configuration : Configuration)
  | dependencies (dependencies : SortedSet Dependency)
deriving DecidableEq

/-- Do what a request asks for. -/
def Request.perform : Request → Action Answer
  | .becomeUser user => (fun _ => .user user) <$> Action.becomeUser user
  | .structureVersion => .number <$> Action.read fun session => .ok session.structureVersion
  | .createProject project group artifact => .revision <$> Projects.create project group artifact
  | .releaseVersion project version => .revision <$> Projects.release project version
  | .openPatch project version => .revision <$> Projects.openPatch project version
  | .commitToStream project stream message changes =>
    .revision <$> Projects.commit project stream message changes
  | .commitToWorkspace project workspace message changes =>
    .revision <$> Workspaces.commit project workspace message changes
  | .openReview project workspace => .review <$> Reviews.create project workspace
  | .listWorkspaces project stream kinds =>
    .workspaces <$> Action.read (Workspaces.list project stream kinds)
  | .listAllWorkspaces project stream kinds =>
    .workspaces <$> Action.read (Workspaces.listAll project stream kinds)
  | .getWorkspace project workspace =>
    .workspace <$> Action.read (Workspaces.get project workspace)
  | .createWorkspace project workspace => .workspace <$> Workspaces.create project workspace
  | .deleteWorkspace project workspace =>
    (fun _ => .done) <$> Workspaces.delete project workspace
  | .updateWorkspace project workspace => .update <$> Workspaces.update project workspace
  | .isOutdated project workspace =>
    .flag <$> Action.read (Workspaces.isOutdated project workspace)
  | .isInConflict project workspace =>
    .flag <$> Action.read (Workspaces.isInConflict project workspace)
  | .discardBackup project workspace => (fun _ => .done) <$> Backups.discard project workspace
  | .recoverBackup project workspace force =>
    (fun _ => .done) <$> Backups.recover project workspace force
  | .compareWithCreation project workspace =>
    .comparison <$> Action.read (Workspaces.creationComparison project workspace)
  | .compareWithStream project workspace =>
    .comparison <$> Action.read (Workspaces.streamComparison project workspace)
  | .compareReviewWithStream project stream review =>
    .comparison <$> Action.read (Reviews.comparison project stream review)
  | .compareReviewWithCreation project stream review =>
    .comparison <$> Action.read (Reviews.creationComparison project stream review)
  | .dependencies project workspace revision transitive =>
    .dependencies <$>
      Action.read (Dependencies.ofRevision project workspace revision transitive)
  | .streamConfiguration project stream =>
    .configuration <$> Action.read (Configurations.ofStream project stream)
  | .streamRevisionConfiguration project stream revision =>
    .configuration <$> Action.read (Configurations.ofStreamRevision project stream revision)
  | .workspaceConfiguration project workspace =>
    .configuration <$> Action.read (Configurations.ofWorkspace project workspace)
  | .workspaceRevisionConfiguration project workspace revision =>
    .configuration <$>
      Action.read (Configurations.ofWorkspaceRevision project workspace revision)
  | .versionConfiguration project version =>
    .configuration <$> Action.read (Configurations.ofVersion project version)
  | .reviewBaseConfiguration project stream review =>
    .configuration <$> Action.read (Reviews.baseConfiguration project stream review)
  | .reviewHeadConfiguration project stream review =>
    .configuration <$> Action.read (Reviews.headConfiguration project stream review)

end Workstream
