import Workstream.Naming.Grammar
import Workstream.Store.Failure
import Workstream.Store.Snapshot

/-!
# Changes of a commit

A commit carries a list of changes, which take effect one after the other. A change
sees what the changes before it have done: an entity that was just put can be
deleted, and one that was just deleted cannot. The first change that cannot take
effect refuses the whole list.
-/

namespace Workstream

/-- One change of a commit. -/
inductive Change where
  /-- Create an entity or replace its content. -/
  | put (path content : String)
  | delete (path : String)
  /-- Replace the declared dependencies. -/
  | dependencies (declared : SortedSet Dependency)

namespace Change

/-- The contents after one change. -/
def apply (contents : Contents) : Change → Except Failure Contents
  | .put path content =>
    if Naming.isEntityPath path then
      .ok { contents with entities := contents.entities.insert path content }
    else
      .error (.invalidEntityPath path)
  | .delete path =>
    if contents.entities.contains path then
      .ok { contents with entities := contents.entities.erase path }
    else
      .error (.missingEntity path)
  | .dependencies declared =>
    .ok { contents with
      configuration := { contents.configuration with dependencies := declared } }

/-- The contents after a list of changes. -/
def applyAll (changes : List Change) (contents : Contents) : Except Failure Contents :=
  changes.foldlM apply contents

end Change

end Workstream
