import Workstream.Store.Workspaces

/-!
# Backups of workspaces

An update leaves the old state of a workspace behind as its backup. The backup can be
thrown away, or put back in place of the live workspace.
-/

namespace Workstream.Backups

/-- Throw a backup away. -/
def discard (project : String) (specification : Specification) : Action Unit := do
  let found ← Action.read (Workspaces.find project (specification.withAccess .backup))
  Action.modifyProject project (·.dropBranch found.name)
  Action.inform "discarded backup" project [("branch", .text found.name)]

/-- Make the backup the live workspace again. A live workspace that is still there is
only overwritten by force. -/
def recover (project : String) (specification : Specification) (force : Bool) :
    Action Unit := do
  let (name, live) ← Action.locate (specification.withAccess .live)
  let found ← Action.read (Workspaces.find project (specification.withAccess .backup))
  Action.refuseIf (!force && found.project.branches.contains name) (.wouldOverwrite live)
  Action.modifyProject project fun state =>
    (state.dropBranch found.name).putBranch name found.branch
  Action.inform "recovered workspace from backup" project
    [("branch", .text name), ("force", .flag force)]

end Workstream.Backups
