import Workstream.Store.Merge
import Workstream.Store.Workspaces

/-!
# Updating workspaces

An update moves a live workspace to the head of its stream. The old branch is kept as
the backup. When the workspace and the stream have changed the same entities in
different ways, the workspace stays as it is, and a conflict resolution with all other
changes is set up beside it.
-/

namespace Workstream

/-- What an update has come to. -/
inductive UpdateReport where
  /-- The workspace was at the head of the stream already. -/
  | unchanged
  /-- The workspace is at the head of the stream now. -/
  | updated (head : RevisionId)
  | conflicting (paths : List String)
deriving DecidableEq

namespace Workspaces

/-- The names of the branches that an update deals with. -/
structure UpdateNames where
  live : String
  backup : String
  resolution : String

/-- What is said about the commit that carries a workspace over to the head of its stream. -/
def replayMessage : String := "replay workspace changes"

/-- What is said about the commit that carries over what does not conflict. -/
def resolutionMessage : String := "apply non-conflicting workspace changes"

/-- The branch of a workspace that is carried over to the head of its stream. There is
no commit when the workspace has nothing to carry over. -/
def replay (head : Snapshot) (merge : Merge) : Action Branch :=
  if merge.carriesOver then do
    let replayed ← Action.commit (some head) replayMessage merge.contents
    return { base := head, commits := [replayed] }
  else
    return .fresh head

/-- Put an updated branch in place of a live workspace and keep the old one as its backup. -/
def replace (project : String) (names : UpdateNames) (old updated : Branch) :
    Action UpdateReport := do
  let revision := updated.head.revision.id
  Action.modifyProject project fun state =>
    (state.putBranch names.backup old).putBranch names.live updated
  Action.inform "updated workspace" project [("branch", .text names.live),
    ("backup", .text names.backup), ("revision", .quoted revision.short)]
  return .updated revision

/-- Set up a conflict resolution beside a live workspace. -/
def enterResolution (project : String) (names : UpdateNames) (head : Snapshot)
    (merge : Merge) : Action UpdateReport := do
  let merged ← Action.commit (some head) resolutionMessage merge.contents
  Action.modifyProject project
    (·.putBranch names.resolution { base := head, commits := [merged] })
  Action.report
    { level := .warn, source := .store, message := "workspace update has conflicts"
      fields := [("project", .quoted project), ("branch", .text names.live),
        ("resolution", .text names.resolution),
        ("conflicts", .number merge.conflicts.length)] }
  return .conflicting merge.conflicts

/-- Carry a branch over to the head of its stream. -/
def moveTo (project : String) (names : UpdateNames) (branch : Branch) (head : Snapshot) :
    Action UpdateReport := do
  let merge := Merge.of branch.base.contents branch.head.contents head.contents
  if merge.conflicts.isEmpty then
    let updated ← replay head merge
    replace project names branch updated
  else
    enterResolution project names head merge

/-- Bring a workspace up to date with its stream. -/
def update (project : String) (specification : Specification) : Action UpdateReport := do
  Action.refuseIf (specification.access ≠ .live) (.notUpdatable specification.access)
  let (live, resolved) ← Action.locate specification
  let (backup, _) ← Action.locate (resolved.withAccess .backup)
  let (resolution, _) ← Action.locate (resolved.withAccess .resolution)
  let state ← Action.project project
  let branch ← Action.ofExcept (state.branch live resolved)
  Action.refuseIf (state.branches.contains resolution) (.inConflictResolution resolved)
  let head ← Action.ofExcept (state.head project resolved.stream)
  if branch.base.revision.id = head.revision.id then
    return .unchanged
  else
    moveTo project { live, backup, resolution } branch head

end Workspaces

end Workstream
