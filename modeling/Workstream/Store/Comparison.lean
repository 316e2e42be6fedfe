import Workstream.Store.Snapshot

/-!
# Differences between revisions

`Entities.edits` lists, path by path, what has to be done to one set of entities to
get another. A comparison of two snapshots names each such path with the kind of the
change, in ascending order, and says whether the configuration differs.
-/

namespace Workstream

/-- What is done to an entity. -/
inductive EntityEdit where
  | write (content : String)
  | remove
deriving DecidableEq

namespace Entities

/-- The edits that turn the entities of a base into those of a target. -/
def edits (base target : Entities) : SortedMap String EntityEdit :=
  let written := target.filterMap fun path content =>
    if base.get? path = some content then none else some (EntityEdit.write content)
  let removed := base.keys.filter fun path => !target.contains path
  removed.foldl (fun edits path => edits.insert path .remove) written

/-- The entities after one edit. -/
def edit (entities : Entities) (path : String) : EntityEdit → Entities
  | .write content => entities.insert path content
  | .remove => entities.erase path

end Entities

/-- The kind of a change of an entity. -/
inductive EntityChange where
  | create
  | delete
  | modify
deriving DecidableEq

/-- The name of the kind in exchanged data. -/
def EntityChange.tag : EntityChange → String
  | .create => "CREATE"
  | .delete => "DELETE"
  | .modify => "MODIFY"

/-- An entity that differs between two revisions. -/
structure EntityDifference where
  path : String
  change : EntityChange
deriving DecidableEq

/-- How one revision differs from another. -/
structure Comparison where
  fromRevision : RevisionId
  toRevision : RevisionId
  /-- The entities that differ, in the order of their paths. -/
  differences : List EntityDifference
  configurationUpdated : Bool
deriving DecidableEq

namespace Comparison

/-- The kind of an edit of the entities of a base. -/
def classify (base : Entities) (path : String) : EntityEdit → EntityChange
  | .remove => .delete
  | .write _ => if base.contains path then .modify else .create

/-- The entities that differ between two sets of entities. -/
def differencesOf (base target : Entities) : List EntityDifference :=
  (base.edits target).entries.map fun (path, edit) => ⟨path, classify base path edit⟩

/-- The comparison of two snapshots. -/
def of (base target : Snapshot) : Comparison :=
  { fromRevision := base.revision.id
    toRevision := target.revision.id
    differences := differencesOf base.contents.entities target.contents.entities
    configurationUpdated := base.contents.configuration ≠ target.contents.configuration }

end Comparison

end Workstream
