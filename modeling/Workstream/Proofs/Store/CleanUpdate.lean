import Workstream.Proofs.Store.Differences
import Workstream.Proofs.Store.UpdateOutcome

/-!
# Clean updates

An update is clean when no path conflicts. It comes in two forms, with a commit that carries
the changes of the workspace over and without one when there are none; but both put a branch
that is built on the head of the stream in place of the live workspace, and both keep the old
branch as its backup. `CleanUpdate` is what the two have in common, and all that has to be known
about an update that reports success.

What is to be reviewed in a workspace is its comparison with the revision that it was cut from.
A clean update moves that revision and keeps the comparison, except that what the stream has got
in the meantime need not be reviewed any more.
-/

namespace Workstream

namespace Project

/-- The project in which a branch was put in place of a live workspace and the old branch was
kept as its backup. -/
def replace (state : Project) (names : Workspaces.UpdateNames) (old updated : Branch) : Project :=
  (state.putBranch names.backup old).putBranch names.live updated

/-- A replacement leaves the streams alone. -/
theorem head_replace (state : Project) (names : Workspaces.UpdateNames) (old updated : Branch)
    (name : String) (stream : DevelopmentStream) :
    (state.replace names old updated).head name stream = state.head name stream := rfl

/-- The new branch is the live workspace. -/
theorem live_replace (state : Project) (names : Workspaces.UpdateNames) (old updated : Branch) :
    (state.replace names old updated).branches.get? names.live = some updated :=
  SortedMap.get?_insert_self ..

/-- The old branch is the backup. -/
theorem backup_replace (state : Project) {names : Workspaces.UpdateNames}
    (differs : names.backup ≠ names.live) (old updated : Branch) :
    (state.replace names old updated).branches.get? names.backup = some old :=
  (SortedMap.get?_insert_of_ne _ _ differs).trans (SortedMap.get?_insert_self ..)

end Project

namespace Workspaces

variable {project : String} {specification : Specification} {before after : Session}

/-- What a workspace that is found has changed. -/
theorem creationComparison_eq {found : Found}
    (isFound : find project specification before = .ok found) :
    creationComparison project specification before =
      .ok (.of found.branch.base found.branch.head) :=
  bind_eq_ok_iff.2 ⟨found, isFound, rfl⟩

/-- How a workspace that is found differs from the head of its stream. -/
theorem streamComparison_eq {found : Found} {head : Snapshot}
    (isFound : find project specification before = .ok found)
    (isHead : found.project.head project specification.stream = .ok head) :
    streamComparison project specification before = .ok (.of head found.branch.head) := by
  refine bind_eq_ok_iff.2 ⟨found, isFound, bind_eq_ok_iff.2 ⟨head, ?_, rfl⟩⟩
  rw [(find_eq_ok_iff.1 isFound).2.1]
  exact isHead

/-- An update without conflicts: what it has found, and what it has done about it. -/
structure CleanUpdate (project : String) (specification : Specification) (before : Session)
    (names : UpdateNames) (state : Project) (branch : Branch) (head : Snapshot)
    (rebuilt : Branch) (after : Session) : Prop where
  updatable : Updatable project specification before names state branch head
  peaceful : ∀ path, ¬ ConflictsAt branch head path
  built : Rebuilt branch head rebuilt
  /-- At most a commit was counted before the new branch became the live one and the old one the
  backup. -/
  replaced : ∃ current, (current = before ∨ current = before.advance) ∧
    after = current.setProject project (state.replace names branch rebuilt)

namespace CleanUpdate

/-- An update that reports success was clean, and it reports the head of the new branch. -/
theorem of_gives {revision : RevisionId}
    (updates : (update project specification).Gives before (.updated revision) after) :
    ∃ names state branch head rebuilt,
      CleanUpdate project specification before names state branch head rebuilt after ∧
        rebuilt.head.revision.id = revision := by
  obtain ⟨succeeded, rfl⟩ := updates
  have updated := (update_meets project specification).of_ok succeeded
  generalize ((update project specification).run before).session = after at updated
  cases updated with
  | moved updatable _ clean idle =>
    exact ⟨_, _, _, _, _, ⟨updatable, conflicts_eq_nil_iff.1 clean, .of_idle idle,
      _, .inl rfl, rfl⟩, rfl⟩
  | replayed updatable _ clean _ minted =>
    exact ⟨_, _, _, _, _, ⟨updatable, conflicts_eq_nil_iff.1 clean,
      .of_commit (congrArg Snapshot.contents minted), _, .inr rfl, rfl⟩, rfl⟩

variable {names : UpdateNames} {state : Project} {branch rebuilt : Branch} {head : Snapshot}

/-- An update does not change who uses the session. -/
theorem currentUser_eq
    (clean : CleanUpdate project specification before names state branch head rebuilt after) :
    after.currentUser = before.currentUser := by
  obtain ⟨current, rfl | rfl, rfl⟩ := clean.replaced <;> rfl

/-- The project after the update. -/
theorem found_after
    (clean : CleanUpdate project specification before names state branch head rebuilt after) :
    after.store.projects.get? project = some (state.replace names branch rebuilt) := by
  obtain ⟨current, _, rfl⟩ := clean.replaced
  exact SortedMap.get?_insert_self ..

/-- The workspace is found after the update, with its new branch. -/
theorem find_after
    (clean : CleanUpdate project specification before names state branch head rebuilt after) :
    find project specification after = .ok
      { name := names.live, specification := specification.resolve before.currentUser,
        project := state.replace names branch rebuilt, branch := rebuilt } := by
  have named := clean.updatable.liveNamed
  rw [← clean.currentUser_eq] at named ⊢
  exact find_eq_ok named clean.found_after (Project.live_replace ..)

end CleanUpdate

/-- After an update that reports success a workspace differs from the revision that it was cut
from by what it has changed before: the same paths in the same order with the same kinds of
changes, except the paths on which the old head of the workspace and the head of the stream hold
the same. The workspace differs from the head of its stream in the same way, and also in all
other respects the two comparisons are one. -/
theorem clean_update_keeps_changes {revision : RevisionId}
    (updates : (update project specification).Gives before (.updated revision) after) :
    ∃ found head comparison later,
      find project specification before = .ok found ∧
      found.project.head project specification.stream = .ok head ∧
      creationComparison project specification before = .ok comparison ∧
      creationComparison project specification after = .ok later ∧
      later.differences = comparison.differences.filter (fun difference =>
        found.branch.head.contents.entities.get? difference.path ≠
          head.contents.entities.get? difference.path) ∧
      streamComparison project specification after = .ok later := by
  obtain ⟨names, state, branch, head, rebuilt, clean, -⟩ := CleanUpdate.of_gives updates
  have isFound := clean.updatable.find_eq
  have base := clean.built.base
  refine ⟨_, head, _, _, isFound, clean.updatable.isHead, creationComparison_eq isFound,
    creationComparison_eq clean.find_after, ?_, ?_⟩
  · simp only [Comparison.of, base]
    exact Comparison.differencesOf_merged clean.built.entities clean.peaceful
  · have isHead := (Project.head_replace state names branch rebuilt project
      specification.stream).trans clean.updatable.isHead
    simp only [base]
    exact streamComparison_eq clean.find_after isHead

/-- A run in which a workspace changes, deletes and creates entities, and makes one change that
its stream makes as well. -/
def parallelRun : List Request :=
  [.createProject "p" "g" "a",
    .commitToStream "p" .mainLine "begin" [.put "a::changed" "old", .put "a::gone" "old"],
    .createWorkspace "p" sharedWorkspace,
    .commitToWorkspace "p" sharedWorkspace "ours"
      [.put "a::changed" "ours", .delete "a::gone", .put "a::new" "ours", .put "a::shared" "both"],
    .commitToStream "p" .mainLine "theirs" [.put "a::other" "theirs", .put "a::shared" "both"]]

/-- After the update the shared change is not listed any more, and neither is the change that
only the stream has made. -/
theorem clean_update_keeps_changes_parallel :
    ∃ revision updated comparison later,
      (update "p" sharedWorkspace).Gives ((Session.start none 13).after parallelRun)
        (.updated revision) updated ∧
      creationComparison "p" sharedWorkspace ((Session.start none 13).after parallelRun) =
        .ok comparison ∧
      comparison.differences = [⟨"a::changed", .modify⟩, ⟨"a::gone", .delete⟩,
        ⟨"a::new", .create⟩, ⟨"a::shared", .create⟩] ∧
      creationComparison "p" sharedWorkspace updated = .ok later ∧
      later.differences =
        [⟨"a::changed", .modify⟩, ⟨"a::gone", .delete⟩, ⟨"a::new", .create⟩] ∧
      streamComparison "p" sharedWorkspace updated = .ok later := by
  have updates : ((update "p" sharedWorkspace).run
      ((Session.start none 13).after parallelRun)).result =
        .ok (.updated ⟨"5983504261782528f331ccf7b6d62d4bf2320ec0"⟩) := by decide +kernel
  have listed : (creationComparison "p" sharedWorkspace
      ((Session.start none 13).after parallelRun)).map (·.differences) =
        .ok [⟨"a::changed", .modify⟩, ⟨"a::gone", .delete⟩, ⟨"a::new", .create⟩,
          ⟨"a::shared", .create⟩] := by decide +kernel
  have left : (creationComparison "p" sharedWorkspace ((update "p" sharedWorkspace).run
      ((Session.start none 13).after parallelRun)).session).map (·.differences) =
        .ok [⟨"a::changed", .modify⟩, ⟨"a::gone", .delete⟩, ⟨"a::new", .create⟩] := by
    decide +kernel
  obtain ⟨found, head, comparison, later, _, _, before, after, _, same⟩ :=
    clean_update_keeps_changes ⟨updates, rfl⟩
  rw [before] at listed
  rw [after] at left
  exact ⟨_, _, comparison, later, ⟨updates, rfl⟩, before, Except.ok.inj listed, after,
    Except.ok.inj left, same⟩

end Workspaces

end Workstream
