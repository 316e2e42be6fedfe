import Workstream.Interchange
import Workstream.Store.Request

/-!
# Answers in exchanged data

The JSON forms of the answers to requests. Fields are listed in the order of their
names.
-/

namespace Workstream.Interchange

/-- The JSON form of a revision. -/
def ofRevision (revision : Revision) : Json :=
  .object [("author", .text revision.author), ("id", .text revision.id.text),
    ("message", .text revision.message)]

/-- The JSON form of a workspace. -/
def ofWorkspace (workspace : Workspace) : Json :=
  .object [("project_id", .text workspace.project),
    ("specification", ofSpecification workspace.specification)]

/-- The JSON form of a review. -/
def ofReview (review : Review) : Json :=
  .object [("id", .text review.id), ("project_id", .text review.project),
    ("target", ofStream review.target), ("workspace", ofSpecification review.workspace)]

/-- The JSON form of a report about an update. -/
def ofUpdateReport : UpdateReport → Json
  | .unchanged => .object [("status", .text "NO_OP")]
  | .updated head => .object [("revision_id", .text head.text), ("status", .text "UPDATED")]
  | .conflicting paths =>
    .object [("conflicting_paths", .array (paths.map .text)), ("status", .text "CONFLICT")]

/-- The JSON form of a comparison. -/
def ofComparison (comparison : Comparison) : Json :=
  .object [
    ("entity_diffs", .array (comparison.differences.map fun difference =>
      .object [("change_type", .text difference.change.tag),
        ("entity_path", .text difference.path)])),
    ("from_revision_id", .text comparison.fromRevision.text),
    ("project_configuration_updated", .bool comparison.configurationUpdated),
    ("to_revision_id", .text comparison.toRevision.text)]

/-- The JSON form of a dependency. -/
def ofDependency (dependency : Dependency) : Json :=
  .object [("project_id", .text dependency.project), ("version_id", ofVersion dependency.version)]

/-- The JSON form of a set of dependencies: an ascending list. -/
def ofDependencies (dependencies : SortedSet Dependency) : Json :=
  .array (dependencies.toList.map ofDependency)

/-- The JSON form of a configuration. -/
def ofConfiguration (configuration : Configuration) : Json :=
  .object [("artifact_id", .text configuration.artifact), ("group_id", .text configuration.group),
    ("project_dependencies", ofDependencies configuration.dependencies),
    ("project_id", .text configuration.project),
    ("project_structure_version", .ofNat configuration.structureVersion)]

/-- The JSON form of an answer. -/
def ofAnswer : Answer → Json
  | .done => .null
  | .user user => .text user
  | .number value => .ofNat value
  | .flag value => .bool value
  | .revision revision => ofRevision revision
  | .workspace workspace => ofWorkspace workspace
  | .workspaces workspaces => .array (workspaces.map ofWorkspace)
  | .review review => ofReview review
  | .update report => ofUpdateReport report
  | .comparison comparison => ofComparison comparison
  | .configuration configuration => ofConfiguration configuration
  | .dependencies dependencies => ofDependencies dependencies

end Workstream.Interchange
