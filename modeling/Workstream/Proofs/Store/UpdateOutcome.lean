import Workstream.Proofs.Store.Reachable
import Workstream.Proofs.Store.ThreeWay

/-!
# What an update leaves behind

An update of a live workspace that is outdated and not in conflict resolution always
succeeds. Whether it ends in a conflict is decided path by path, and in both cases the
branch that it builds holds the merge of the three sides: the base and the head of the
workspace, and the head of the stream.
-/

namespace Workstream.Workspaces

/-- A path on which an update of the branch to the head of its stream conflicts. -/
def ConflictsAt (branch : Branch) (head : Snapshot) (path : String) : Prop :=
  Merge.Conflicting branch.base.contents.entities branch.head.contents.entities
    head.contents.entities path

/-- A branch that is built on the head of the stream and holds the merge of both sides. -/
structure Rebuilt (branch : Branch) (head : Snapshot) (rebuilt : Branch) : Prop where
  base : rebuilt.base = head
  /-- On each path the branch holds what the three sides say there. -/
  entities : ∀ path, rebuilt.head.contents.entities.get? path =
    Merge.merged branch.base.contents.entities branch.head.contents.entities
      head.contents.entities path
  /-- The configuration is the one of the workspace if that has changed. -/
  configuration : rebuilt.head.contents.configuration =
    if branch.head.contents.configuration ≠ branch.base.contents.configuration then
      branch.head.contents.configuration
    else head.contents.configuration

/-- A commit of the merge on the head of the stream is a rebuilt branch. -/
theorem Rebuilt.of_commit {branch : Branch} {head next : Snapshot}
    (contents : next.contents = (updateMerge branch head).contents) :
    Rebuilt branch head { base := head, commits := [next] } where
  base := rfl
  entities path := by
    have isHead : Branch.head { base := head, commits := [next] } = next := rfl
    rw [isHead, contents, updateMerge, Merge.get?_contents]
  configuration := by
    have isHead : Branch.head { base := head, commits := [next] } = next := rfl
    rw [isHead, contents]
    rfl

/-- The head of the stream alone is a rebuilt branch when there is nothing to carry over. -/
theorem Rebuilt.of_idle {branch : Branch} {head : Snapshot}
    (idle : (updateMerge branch head).carriesOver = false) :
    Rebuilt branch head (.fresh head) := by
  obtain ⟨sameEntities, sameConfiguration⟩ := Merge.carriesOver_eq_false_iff.1 idle
  refine ⟨rfl, fun path => ?_, ?_⟩
  · exact (Merge.merged_of_unchanged (by rw [sameEntities])).symm
  · rw [if_neg fun differs => differs sameConfiguration]
    rfl

/-- There is no conflicting path exactly when the merge lists none. -/
theorem conflicts_eq_nil_iff {branch : Branch} {head : Snapshot} :
    (updateMerge branch head).conflicts = [] ↔ ∀ path, ¬ ConflictsAt branch head path := by
  rw [List.eq_nil_iff_forall_not_mem]
  exact forall_congr' fun path => not_congr Merge.mem_conflicts_iff

/-- An update finds one set of names, one branch and one head. -/
theorem Updatable.unique {project : String} {specification : Specification}
    {session : Session} {names others : UpdateNames} {state otherState : Project}
    {branch otherBranch : Branch} {head otherHead : Snapshot}
    (updatable : Updatable project specification session names state branch head)
    (other : Updatable project specification session others otherState otherBranch otherHead) :
    names = others ∧ state = otherState ∧ branch = otherBranch ∧ head = otherHead := by
  obtain ⟨live, backup, resolution⟩ := names
  obtain ⟨otherLive, otherBackup, otherResolution⟩ := others
  obtain rfl : live = otherLive :=
    Except.ok.inj (updatable.liveNamed.symm.trans other.liveNamed)
  obtain rfl : backup = otherBackup :=
    Except.ok.inj (updatable.backupNamed.symm.trans other.backupNamed)
  obtain rfl : resolution = otherResolution :=
    Except.ok.inj (updatable.resolutionNamed.symm.trans other.resolutionNamed)
  obtain rfl : state = otherState := Option.some.inj (updatable.found.symm.trans other.found)
  obtain rfl : branch = otherBranch :=
    Option.some.inj (updatable.stored.symm.trans other.stored)
  obtain rfl : head = otherHead := Except.ok.inj (updatable.isHead.symm.trans other.isHead)
  exact ⟨rfl, rfl, rfl, rfl⟩

/-- What can be updated can be found. -/
theorem Updatable.find_eq {project : String} {specification : Specification} {session : Session}
    {names : UpdateNames} {state : Project} {branch : Branch} {head : Snapshot}
    (updatable : Updatable project specification session names state branch head) :
    find project specification session = .ok
      { name := names.live, specification := specification.resolve session.currentUser,
        project := state, branch } :=
  find_eq_ok updatable.liveNamed updatable.found updatable.stored

/-- The name of an updated workspace is that of its live branch. -/
theorem Updatable.named {project : String} {specification : Specification} {session : Session}
    {names : UpdateNames} {state : Project} {branch : Branch} {head : Snapshot}
    (updatable : Updatable project specification session names state branch head) :
    BranchName.encode session.currentUser (specification.withAccess .live) = .ok names.live := by
  rw [Specification.withAccess_of_access updatable.live]
  exact updatable.liveNamed

/-- The names that an update deals with are different. -/
theorem Updatable.backup_ne_live {project : String} {specification : Specification}
    {session : Session} {names : UpdateNames} {state : Project} {branch : Branch}
    {head : Snapshot}
    (updatable : Updatable project specification session names state branch head) :
    names.backup ≠ names.live :=
  BranchName.encode_withAccess_ne (by decide) updatable.backupNamed updatable.named

/-- A live workspace that is not in conflict resolution can be updated when its stream is
known. -/
theorem updatable_of_known {project : String} {specification : Specification}
    {session : Session} {found : Found} {outdated : Bool} (live : specification.access = .live)
    (isFound : find project specification session = .ok found)
    (calm : isInConflict project specification session = .ok false)
    (known : isOutdated project specification session = .ok outdated) :
    ∃ names head, names.live = found.name ∧
      Updatable project specification session names found.project found.branch head ∧
      decide (found.branch.base.revision.id ≠ head.revision.id) = outdated := by
  obtain ⟨named, _, stateFound, stored⟩ := find_eq_ok_iff.1 isFound
  obtain ⟨backup, backupNamed⟩ := BranchName.encode_withAccess named .backup
  have isLive := isFound
  rw [← Specification.withAccess_of_access live] at isLive
  obtain ⟨resolution, resolutionNamed, unresolved⟩ := (isInConflict_eq_ok_iff isLive).1 calm
  obtain ⟨head, isHead, differs⟩ := (isOutdated_eq_ok_iff isFound).1 known
  refine ⟨⟨found.name, backup, resolution⟩, head, rfl, ?_, differs⟩
  exact ⟨live, named, backupNamed, resolutionNamed, stateFound, stored,
    SortedMap.contains_eq_false_iff.1 unresolved, isHead⟩

/-- A live workspace that is outdated and not in conflict resolution can be updated. -/
theorem updatable_of_find {project : String} {specification : Specification}
    {session : Session} {found : Found} (live : specification.access = .live)
    (isFound : find project specification session = .ok found)
    (calm : isInConflict project specification session = .ok false)
    (outdated : isOutdated project specification session = .ok true) :
    ∃ names head, names.live = found.name ∧
      Updatable project specification session names found.project found.branch head ∧
      found.branch.base.revision.id ≠ head.revision.id := by
  obtain ⟨names, head, isName, updatable, differs⟩ :=
    updatable_of_known live isFound calm outdated
  exact ⟨names, head, isName, updatable, of_decide_eq_true differs⟩

/-- What an update that ends in a conflict reports and leaves behind. -/
structure EntersResolution (project : String) (specification : Specification)
    (before : Session) (found : Found) (head : Snapshot) (rebuilt : Branch)
    (paths : List String) (after : Session) : Prop where
  complete : ∀ path, path ∈ paths ↔ ConflictsAt found.branch head path
  ascending : paths.Pairwise (· < ·)
  single : rebuilt.commits.length = 1
  /-- Beside the count of revisions, the resolution is all that is new. -/
  beside : ∃ resolution,
    BranchName.encode before.currentUser (specification.withAccess .resolution) =
      .ok resolution ∧
    found.project.branches.get? resolution = none ∧
    after = before.advance.setProject project (found.project.putBranch resolution rebuilt)

/-- What an update without a conflict leaves behind. -/
structure KeepsBackup (project : String) (specification : Specification) (before : Session)
    (found : Found) (rebuilt : Branch) (after : Session) : Prop where
  live : ∃ state, after.store.projects.get? project = some state ∧
    state.branches.get? found.name = some rebuilt
  backup : ∃ state backup, after.store.projects.get? project = some state ∧
    BranchName.encode before.currentUser (specification.withAccess .backup) = .ok backup ∧
    state.branches.get? backup = some found.branch

/-- Both ways to bring a workspace up to date keep the old branch as the backup. -/
theorem KeepsBackup.of_updatable {project : String} {specification : Specification}
    {before : Session} {names : UpdateNames} {found : Found} {head : Snapshot}
    (updatable :
      Updatable project specification before names found.project found.branch head)
    (isName : names.live = found.name) (current : Session) (rebuilt : Branch) :
    KeepsBackup project specification before found rebuilt (current.setProject project
      ((found.project.putBranch names.backup found.branch).putBranch names.live rebuilt)) where
  live := by
    refine ⟨_, SortedMap.get?_insert_self .., ?_⟩
    rw [← isName]
    exact SortedMap.get?_insert_self ..
  backup := by
    refine ⟨_, names.backup, SortedMap.get?_insert_self .., updatable.backupNamed, ?_⟩
    exact (SortedMap.get?_insert_of_ne _ _ updatable.backup_ne_live).trans
      (SortedMap.get?_insert_self ..)

/-- An update of a live workspace that is outdated and not in conflict resolution ends in a
conflict exactly when the workspace and its stream have both changed some path, and not to
the same content. Then the conflict resolution is set up beside the workspace. Otherwise the
workspace is rebuilt on the head of its stream, and what it was becomes the backup. What is
rebuilt holds the content of the stream on conflicting paths, that of the workspace on the
other paths that the workspace has changed, and that of the stream everywhere else. -/
theorem update_outcome {project : String} {specification : Specification} {session : Session}
    {found : Found} (live : specification.access = .live)
    (isFound : find project specification session = .ok found)
    (calm : isInConflict project specification session = .ok false)
    (outdated : isOutdated project specification session = .ok true) :
    ∃ head rebuilt report after,
      found.project.head project specification.stream = .ok head ∧
      (update project specification).Gives session report after ∧
      Rebuilt found.branch head rebuilt ∧
      ((∃ paths, report = .conflicting paths) ↔ ∃ path, ConflictsAt found.branch head path) ∧
      (∀ paths, report = .conflicting paths →
        EntersResolution project specification session found head rebuilt paths after) ∧
      ((∀ path, ¬ ConflictsAt found.branch head path) →
        report = .updated rebuilt.head.revision.id ∧
        KeepsBackup project specification session found rebuilt after) := by
  obtain ⟨names, head, isName, updatable, differs⟩ :=
    updatable_of_find live isFound calm outdated
  obtain ⟨report, after, ran, updated⟩ := update_succeeds updatable
  have isHead := updatable.isHead
  cases updated with
  | unchanged other same =>
    obtain ⟨rfl, rfl, rfl, rfl⟩ := updatable.unique other
    exact absurd same differs
  | moved other _ clean idle =>
    obtain ⟨rfl, rfl, rfl, rfl⟩ := updatable.unique other
    have peaceful := conflicts_eq_nil_iff.1 clean
    refine ⟨head, .fresh head, _, _, isHead, ran, .of_idle idle, ?_, ?_, ?_⟩
    · constructor
      · rintro ⟨_, ⟨⟩⟩
      · rintro ⟨path, conflicting⟩
        exact absurd conflicting (peaceful path)
    · exact fun _ conflicting => nomatch conflicting
    · exact fun _ => ⟨rfl, .of_updatable updatable isName _ _⟩
  | replayed other _ clean _ minted =>
    obtain ⟨rfl, rfl, rfl, rfl⟩ := updatable.unique other
    have peaceful := conflicts_eq_nil_iff.1 clean
    refine ⟨head, _, _, _, isHead, ran, .of_commit (congrArg Snapshot.contents minted),
      ?_, ?_, ?_⟩
    · constructor
      · rintro ⟨_, ⟨⟩⟩
      · rintro ⟨path, conflicting⟩
        exact absurd conflicting (peaceful path)
    · exact fun _ conflicting => nomatch conflicting
    · exact fun _ => ⟨rfl, .of_updatable updatable isName _ _⟩
  | conflicting other _ conflicts minted =>
    obtain ⟨rfl, rfl, rfl, rfl⟩ := updatable.unique other
    obtain ⟨clashing, listed⟩ := List.exists_mem_of_ne_nil _ conflicts
    have clashes : ConflictsAt found.branch head clashing := Merge.mem_conflicts_iff.1 listed
    refine ⟨head, _, _, _, isHead, ran, .of_commit (congrArg Snapshot.contents minted),
      ?_, ?_, ?_⟩
    · exact ⟨fun _ => ⟨clashing, clashes⟩, fun _ => ⟨_, rfl⟩⟩
    · rintro paths ⟨⟩
      exact ⟨fun path => Merge.mem_conflicts_iff, Merge.conflicts_ascending _ _ _, rfl,
        names.resolution, updatable.resolutionNamed, updatable.calm, rfl⟩
    · exact fun peaceful => absurd clashes (peaceful clashing)

/-- The shared workspace of the main line whose name is a reserved word. -/
def sharedWorkspace : Specification :=
  { id := ⟨"group", by decide, by decide⟩, owner := .group, access := .live,
    stream := .mainLine }

/-- A session in which a workspace and its stream have both written the same entity. -/
def divergedSession : Session :=
  (Session.start none 13).after
    [.createProject "p" "g" "a", .createWorkspace "p" sharedWorkspace,
      .commitToWorkspace "p" sharedWorkspace "ours" [.put "a::e" "ours", .put "a::f" "ours"],
      .commitToStream "p" .mainLine "theirs" [.put "a::e" "theirs"]]

/-- The entity that both sides have written conflicts, and holds what the stream holds. -/
theorem update_outcome_diverged :
    ∃ found head rebuilt after, find "p" sharedWorkspace divergedSession = .ok found ∧
      (update "p" sharedWorkspace).Gives divergedSession (.conflicting ["a::e"]) after ∧
      ConflictsAt found.branch head "a::e" ∧ Rebuilt found.branch head rebuilt ∧
      rebuilt.head.contents.entities.get? "a::e" = head.contents.entities.get? "a::e" := by
  have isOk : (find "p" sharedWorkspace divergedSession).toBool := by decide +kernel
  cases isFound : find "p" sharedWorkspace divergedSession with
  | error failure => simp [isFound, Except.toBool] at isOk
  | ok found =>
    obtain ⟨head, rebuilt, report, after, _, gives, built, _, enters, _⟩ :=
      update_outcome rfl isFound (by decide +kernel) (by decide +kernel)
    have reported : ((update "p" sharedWorkspace).run divergedSession).result =
        .ok (.conflicting ["a::e"]) := by decide +kernel
    obtain rfl : report = .conflicting ["a::e"] := Except.ok.inj (gives.1.symm.trans reported)
    have conflicting := ((enters ["a::e"] rfl).complete "a::e").1 (by simp)
    refine ⟨found, head, rebuilt, after, rfl, gives, conflicting, built, ?_⟩
    exact (built.entities "a::e").trans (if_pos conflicting)

end Workstream.Workspaces
