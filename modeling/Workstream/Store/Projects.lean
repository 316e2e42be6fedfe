import Workstream.Store.Action
import Workstream.Store.Change

/-!
# Setting up projects

A project starts with an empty main line. The head of the main line can be released as
a version, and a released version can be opened as a patch stream. Commits move the
head of a stream forward.
-/

namespace Workstream.Projects

/-- What is said about the first revision of a project. -/
def firstMessage : String := "initial project configuration"

/-- The contents of a new project: no entities, and a configuration without dependencies. -/
def firstContents (structureVersion : Nat) (name group artifact : String) : Contents :=
  { entities := ∅
    configuration := { project := name, structureVersion, group, artifact, dependencies := ∅ } }

/-- Create a project. -/
def create (name group artifact : String) : Action Revision := do
  let session ← Action.current
  Action.refuseIf (session.store.projects.contains name) (.projectExists name)
  let first ← Action.commit none firstMessage
    (firstContents session.structureVersion name group artifact)
  Action.modifyStore fun store =>
    { store with projects := store.projects.insert name (.start first) }
  Action.inform "created project" name [("revision", .quoted first.revision.id.short)]
  return first.revision

/-- Release the head of the main line as a version. -/
def release (name : String) (version : Version) : Action Revision := do
  let project ← Action.project name
  Action.refuseIf (project.versions.contains version) (.versionExists name version)
  let head ← Action.ofExcept (project.head name .mainLine)
  Action.modifyProject name (·.addVersion version head)
  Action.inform "released version" name [("version", .text version.text)]
  return head.revision

/-- Open a patch stream that starts with a released version. -/
def openPatch (name : String) (version : Version) : Action Revision := do
  let project ← Action.project name
  Action.refuseIf (project.streams.contains (.patch version)) (.patchStreamExists name version)
  let released ← Action.ofExcept (project.release name version)
  Action.modifyProject name (·.addPatch version released)
  Action.inform "created patch stream" name [("version", .text version.text)]
  return released.revision

/-- Commit changes to the head of a stream. -/
def commit (name : String) (stream : DevelopmentStream) (message : String)
    (changes : List Change) : Action Revision := do
  let project ← Action.project name
  let head ← Action.ofExcept (project.head name stream)
  let contents ← Action.ofExcept (Change.applyAll changes head.contents)
  let next ← Action.commit (some head) message contents
  Action.modifyProject name (·.pushRevision stream next)
  return next.revision

end Workstream.Projects
