import Workstream.Results
import Workstream.Store.Workspaces

/-!
# Dependencies of revisions

A revision declares dependencies on released versions of other projects, and each of
these declares dependencies of its own. `closure` follows them all, one after the
other, the one declared last first. A dependency is followed once, so declarations
that lead back to where they started do no harm.

`closure` comes to an end because every step either drops a dependency that was
followed before, or follows one of the finitely many released versions for the first
time.
-/

namespace Workstream

namespace Store

/-- The revision that a dependency stands for. -/
def released (store : Store) (dependency : Dependency) : Except Failure Snapshot := do
  let project ← store.project dependency.project
  project.release dependency.project dependency.version

/-- Every released version of every project. -/
def releases (store : Store) : List Dependency :=
  store.projects.entries.flatMap fun (project, state) =>
    state.versions.keys.map fun version => { project, version }

theorem mem_releases_of_released {store : Store} {dependency : Dependency}
    {snapshot : Snapshot} (found : store.released dependency = .ok snapshot) :
    dependency ∈ store.releases := by
  unfold released at found
  cases lookup : store.projects.get? dependency.project with
  | none => simp [Store.project, lookup] at found
  | some state =>
    cases versions : state.versions.get? dependency.version with
    | none => simp [Store.project, lookup, Project.release, versions] at found
    | some _ =>
      refine List.mem_flatMap.2 ⟨(dependency.project, state), SortedMap.mem_entries_iff.2 lookup, ?_⟩
      refine List.mem_map.2 ⟨dependency.version, SortedMap.mem_keys_iff.2 ?_, rfl⟩
      simp [versions]

end Store

namespace Dependencies

/-- The number of released versions that were not followed yet. -/
def remaining (store : Store) (followed : SortedSet Dependency) : Nat :=
  (store.releases.filter fun dependency => !followed.contains dependency).length

theorem remaining_add_lt {store : Store} {followed : SortedSet Dependency}
    {dependency : Dependency} (listed : dependency ∈ store.releases)
    (unseen : followed.contains dependency = false) :
    remaining store (followed.add dependency) < remaining store followed := by
  unfold remaining
  have fewer : store.releases.filter (fun other => !(followed.add dependency).contains other) =
      (store.releases.filter fun other => !followed.contains other).filter (· ≠ dependency) := by
    rw [List.filter_filter]
    apply List.filter_congr
    intro other _
    by_cases same : other = dependency
    · subst same
      simp [SortedSet.add, SortedMap.contains]
    · simp [SortedSet.add, SortedMap.contains, SortedMap.get?_insert_of_ne _ _ same, same]
  rw [fewer]
  refine List.length_filter_lt_length_iff_exists.2 ⟨dependency, ?_, by simp⟩
  exact List.mem_filter.2 ⟨listed, by simp [unseen]⟩

/-- Follow pending dependencies, the first one first, and add those that are met to the
ones that were followed before. -/
def follow (store : Store) (followed : SortedSet Dependency) :
    List Dependency → Except Failure (SortedSet Dependency)
  | [] => .ok followed
  | dependency :: pending =>
    if _seen : followed.contains dependency then
      follow store followed pending
    else
      match _found : store.released dependency with
      | .error failure => .error failure
      | .ok snapshot =>
        follow store (followed.add dependency)
          (snapshot.contents.configuration.dependencies.toList.reverse ++ pending)
termination_by pending => (remaining store followed, pending.length)
decreasing_by
  · exact Prod.Lex.right _ (by simp)
  · exact Prod.Lex.left _ _ (remaining_add_lt (Store.mem_releases_of_released _found)
      (by simpa using _seen))

/-- The declared dependencies and everything that these depend on in turn. -/
def closure (store : Store) (declared : SortedSet Dependency) :
    Except Failure (SortedSet Dependency) :=
  follow store ∅ declared.toList.reverse

/-- What a revision of a workspace depends on: what it declares, or also what these
dependencies depend on in turn. -/
def ofRevision (project : String) (specification : Specification) (revision : String)
    (transitive : Bool) (session : Session) : Except Failure (SortedSet Dependency) := do
  let found ← Workspaces.find project specification session
  match found.branch.find? revision with
  | none => .error (.unknownRevision revision (.branch found.specification))
  | some snapshot =>
    let declared := snapshot.contents.configuration.dependencies
    if transitive then closure session.store declared else .ok declared

end Dependencies

end Workstream
