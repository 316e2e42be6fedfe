import Workstream.Store.Comparison

/-!
# Three-way merges

A workspace and its stream have both moved on from a common base. The edits of the
workspace are carried over to the head of the stream, except on the paths where the
stream has made a different edit: there the two conflict and the stream prevails.

The configuration is carried over as a whole: the one of the workspace if it differs
from the base, and otherwise the one of the stream.
-/

namespace Workstream

/-- The outcome of a merge. -/
structure Merge where
  /-- The paths on which the two sides made different edits, ascending. -/
  conflicts : List String
  contents : Contents
  /-- Whether the workspace had anything to carry over. -/
  carriesOver : Bool

namespace Merge

/-- Whether the other side made an edit, and a different one. -/
def clashes (others : SortedMap String EntityEdit) (path : String) (edit : EntityEdit) : Bool :=
  match others.get? path with
  | some other => other ≠ edit
  | none => false

/-- The merge of a workspace and a stream that have a common base. -/
def of (base workspace stream : Contents) : Merge :=
  let edits := base.entities.edits workspace.entities
  let others := base.entities.edits stream.entities
  let conflicts := (edits.entries.filter fun (path, edit) => clashes others path edit).map (·.1)
  let carried := edits.entries.filter fun (path, _) => path ∉ conflicts
  let configured := workspace.configuration ≠ base.configuration
  { conflicts
    contents :=
      { entities := carried.foldl (fun entities (path, edit) => entities.edit path edit)
          stream.entities
        configuration := if configured then workspace.configuration else stream.configuration }
    carriesOver := !edits.isEmpty || configured }

end Merge

end Workstream
