import Workstream.Proofs.Store.Chronology
import Workstream.Proofs.Store.Records

/-!
# What a revision depends on stays the same

A revision declares its dependencies when it is made, and the released versions that are
followed from there are never changed or taken back. A branch may be deleted, updated or
recovered, and a new one may be set up under its name; but an id stands for one revision
only, so whenever a revision is found again under a workspace, it depends on what it has
depended on before.
-/

namespace Workstream

/-- Whether a revision declares a dependency. -/
def Snapshot.declares (snapshot : Snapshot) (dependency : Dependency) : Bool :=
  snapshot.contents.configuration.dependencies.contains dependency

/-- Sets with the same members are equal. -/
theorem SortedSet.eq_of_contains_eq {Key : Type} [Ord Key] [Std.TransOrd Key]
    [Std.LawfulEqOrd Key] {first second : SortedSet Key}
    (same : ∀ key, first.contains key = second.contains key) : first = second := by
  apply SortedMap.ext
  intro key
  have both := same key
  unfold SortedMap.contains at both
  cases firstStored : first.get? key <;> cases secondStored : second.get? key <;>
    simp_all

/-- A released version is found again. -/
theorem Session.KeptIn.released {before after : Session} {exchanges : List Exchange}
    (kept : before.KeptIn after exchanges) {dependency : Dependency} {snapshot : Snapshot}
    (isReleased : before.store.released dependency = .ok snapshot) :
    after.store.released dependency = .ok snapshot := by
  obtain ⟨project, found, isReleased⟩ := bind_eq_ok_iff.1 isReleased
  obtain ⟨later, laterFound, projectKept⟩ := kept _ project (Store.project_eq_ok_iff.1 found)
  have stillReleased := projectKept.versions _ _ (Project.release_eq_ok_iff.1 isReleased)
  refine bind_eq_ok_iff.2 ⟨later, Store.project_eq_ok_iff.2 laterFound, ?_⟩
  exact Project.release_eq_ok_iff.2 stillReleased

namespace Dependencies

variable {store later : Store} {session : Session} {project revision : String}
  {specification : Specification} {found : Workspaces.Found} {snapshot : Snapshot}

/-- A release that is met for the first time is followed to what it depends on. -/
theorem follow_of_unseen {followed : SortedSet Dependency} {dependency : Dependency}
    (unseen : ¬ followed.contains dependency)
    (isReleased : store.released dependency = .ok snapshot)
    (pending : List Dependency) : follow store followed (dependency :: pending) =
      follow store (followed.add dependency)
        (snapshot.contents.configuration.dependencies.toList.reverse ++ pending) := by
  rw [follow, dif_neg unseen]
  split
  · rename_i failure failed
    simp [isReleased] at failed
  · rename_i other isOther
    obtain rfl : snapshot = other := Except.ok.inj (isReleased.symm.trans isOther)
    rfl

/-- Dependencies that could be followed are followed in the same way when all released
versions are still there. -/
theorem follow_of_released
    (kept : ∀ dependency snapshot, store.released dependency = .ok snapshot →
      later.released dependency = .ok snapshot)
    {followed upstream : SortedSet Dependency} {pending : List Dependency}
    (followable : follow store followed pending = .ok upstream) :
    follow later followed pending = .ok upstream := by
  fun_induction follow store followed pending with
  | case1 => simpa [follow] using followable
  | case2 followed dependency pending seen ih =>
    rw [follow, dif_pos seen]
    exact ih followable
  | case3 => cases followable
  | case4 followed dependency pending unseen snapshot isReleased ih =>
    rw [follow_of_unseen unseen (kept _ _ isReleased)]
    exact ih followable

/-- Nothing else is met when a release without dependencies is followed. -/
theorem closure_of_leaf {dependency : Dependency}
    (isReleased : store.released dependency = .ok snapshot)
    (leaf : snapshot.contents.configuration.dependencies = ∅) :
    closure store (.ofList [dependency]) = .ok (.ofList [dependency]) := by
  have followed : follow store ∅ [dependency] = _ :=
    follow_of_unseen (by rintro ⟨⟩) isReleased []
  rw [leaf] at followed
  refine followed.trans ?_
  change follow store _ [] = _
  rw [follow]
  rfl

/-- What a revision that was found depends on. -/
theorem ofRevision_eq (isFound : Workspaces.find project specification session = .ok found)
    (listed : found.branch.find? revision = some snapshot) (transitive : Bool) :
    ofRevision project specification revision transitive session =
      if transitive then closure session.store snapshot.contents.configuration.dependencies
      else .ok snapshot.contents.configuration.dependencies := by
  simp only [ofRevision, isFound, ok_bind, listed]

/-- Dependencies are only known of revisions that are found. -/
theorem find?_of_ofRevision {transitive : Bool} {upstream : SortedSet Dependency}
    (answered : ofRevision project specification revision transitive session = .ok upstream) :
    ∃ found snapshot, Workspaces.find project specification session = .ok found ∧
      found.branch.find? revision = some snapshot := by
  obtain ⟨found, isFound, answered⟩ := bind_eq_ok_iff.1 answered
  cases listed : found.branch.find? revision with
  | none => simp [listed] at answered
  | some snapshot => exact ⟨found, snapshot, isFound, listed⟩

end Dependencies

/-- A revision that is found on a branch has the id that was looked for. -/
theorem Branch.id_of_find? {branch : Branch} {revision : String} {snapshot : Snapshot}
    (listed : branch.find? revision = some snapshot) : snapshot.revision.id = ⟨revision⟩ := by
  have same : snapshot.revision.id.text = revision := by simpa using List.find?_some listed
  rw [← same]

/-- A revision that is found on a stored branch is stored. -/
theorem Project.stores_of_find? {project : Project} {name revision : String} {branch : Branch}
    {snapshot : Snapshot} (stored : project.branches.get? name = some branch)
    (listed : branch.find? revision = some snapshot) : project.Stores snapshot := by
  rcases List.mem_cons.1 (List.mem_of_find?_eq_some listed) with rfl | member
  · exact .base stored
  · exact .commit stored member

/-- Why a revision of a workspace is not found. -/
inductive Dependencies.Gone (project : String) (specification : Specification)
    (revision : String) (session : Session) : Failure → Prop where
  | branch {name : String} {state : Project}
      (named : BranchName.encode session.currentUser specification = .ok name)
      (found : session.store.projects.get? project = some state)
      (absent : state.branches.get? name = none) :
      Gone project specification revision session (.unknownWorkspace specification)
  | revision {found : Workspaces.Found}
      (isFound : Workspaces.find project specification session = .ok found)
      (absent : found.branch.find? revision = none) :
      Gone project specification revision session
        (.unknownRevision revision (.branch specification))

/-- The dependencies of a revision that is gone are not found. -/
theorem Dependencies.Gone.ofRevision_eq {project revision : String}
    {specification : Specification} {session : Session} {failure : Failure}
    (gone : Gone project specification revision session failure)
    (pinned : specification.awaitsUser = false) (transitive : Bool) :
    ofRevision project specification revision transitive session = .error failure ∧
      failure.status = .notFound := by
  cases gone with
  | branch named found absent =>
    refine ⟨?_, rfl⟩
    have located := Session.locate_eq_ok_iff.2 ⟨named, rfl⟩
    have isFound := Store.project_eq_ok_iff.2 found
    simp [ofRevision, Workspaces.find, located, isFound, Project.branch, absent,
      Specification.resolve_of_pinned pinned]
  | revision isFound absent =>
    refine ⟨?_, rfl⟩
    have resolved := (Workspaces.find_eq_ok_iff.1 isFound).2.1
    rw [Specification.resolve_of_pinned pinned] at resolved
    simp [ofRevision, isFound, absent, resolved]

/-- When the dependencies of a revision of a workspace are known at some time in a run, the
same question is answered in the same way at any later time, or the branch of the workspace
is not there any more, or the revision is not on it. This holds as long as no two commits of
the run are given one id, and for a workspace that does not leave its user open. -/
theorem dependencies_settled {currentUser : Option String} {structureVersion : Nat}
    {initial before after : Session} {earlier later : List Request}
    (isInitial : initial = .start currentUser structureVersion)
    (isBefore : before = initial.after earlier) (isAfter : after = before.after later)
    (distinct : DistinctIds (ledger (initial.exchanges (earlier ++ later))))
    {project revision : String} {specification : Specification} {transitive : Bool}
    {upstream : SortedSet Dependency} (pinned : specification.awaitsUser = false)
    (answered : Dependencies.ofRevision project specification revision transitive before =
      .ok upstream) :
    Dependencies.ofRevision project specification revision transitive after = .ok upstream ∨
      ∃ failure, Dependencies.Gone project specification revision after failure ∧
        Dependencies.ofRevision project specification revision transitive after =
          .error failure ∧
        failure.status = .notFound := by
  subst isInitial isBefore isAfter
  have kept := Session.keptIn_after currentUser structureVersion earlier later
  have recorded := Session.recorded_after currentUser structureVersion earlier
  have recordedLater := (Session.steps_exchanges _ later).recorded recorded
  rw [Session.exchanges_append] at distinct
  rw [ledger_append] at distinct recordedLater
  obtain ⟨found, snapshot, isFound, listed⟩ := Dependencies.find?_of_ofRevision answered
  obtain ⟨named, _, stateFound, stored⟩ := Workspaces.find_eq_ok_iff.1 isFound
  obtain ⟨state, stateLater, _⟩ := kept _ _ stateFound
  have namedLater := BranchName.encode_of_pinned pinned named
    ((Session.start currentUser structureVersion).after earlier |>.after later).currentUser
  cases storedLater : state.branches.get? found.name with
  | none =>
    have gone : Dependencies.Gone project specification revision _ _ :=
      .branch namedLater stateLater storedLater
    exact .inr ⟨_, gone, gone.ofRevision_eq pinned transitive⟩
  | some branch =>
    have isFoundLater := Workspaces.find_eq_ok namedLater stateLater storedLater
    cases listedLater : branch.find? revision with
    | none =>
      have gone := Dependencies.Gone.revision isFoundLater listedLater
      exact .inr ⟨_, gone, gone.ofRevision_eq pinned transitive⟩
    | some other =>
      -- Both revisions come from the ledger of the whole run and have the id that is asked for.
      have same : snapshot = other := distinct.stored_eq recorded recordedLater
        ⟨_, _, stateFound, Project.stores_of_find? stored listed⟩
        ⟨_, _, stateLater, Project.stores_of_find? storedLater listedLater⟩
        ((Branch.id_of_find? listed).trans (Branch.id_of_find? listedLater).symm)
      left
      rw [Dependencies.ofRevision_eq isFound listed] at answered
      rw [Dependencies.ofRevision_eq isFoundLater listedLater, ← same]
      cases transitive with
      | false => exact answered
      | true =>
        exact Dependencies.follow_of_released (fun _ _ => kept.released) answered

/-- A released library. -/
def libraryRelease : Dependency where
  project := "lib"
  version := ⟨⟨1, by decide⟩, ⟨0, by decide⟩, ⟨0, by decide⟩⟩

/-- A run after which the head of a workspace depends on a released library. -/
def dependentRun : List Request :=
  [.createProject "lib" "g" "lib", .releaseVersion "lib" libraryRelease.version,
    .createProject "p" "g" "a", .createWorkspace "p" Workspaces.sharedWorkspace,
    .commitToWorkspace "p" Workspaces.sharedWorkspace "build on the library"
      [.dependencies (.ofList [libraryRelease])]]

/-- The workspace is moved to a new branch by an update and put back from its backup. -/
def restoringRun : List Request :=
  [.commitToStream "p" .mainLine "go on" [.put "a::e" "theirs"],
    .updateWorkspace "p" Workspaces.sharedWorkspace,
    .recoverBackup "p" Workspaces.sharedWorkspace true]

/-- The id of the revision that depends on the library. -/
def dependentId : String := "78f4d2af48835fd9ff4398acef4e6bb78e01ee4c"

/-- A revision that has come back with a backup depends on what it has depended on before. -/
theorem dependencies_settled_restored :
    Dependencies.ofRevision "p" Workspaces.sharedWorkspace dependentId true
      (((Session.start none 13).after dependentRun).after restoringRun) =
        .ok (.ofList [libraryRelease]) := by
  have distinct : DistinctIds (ledger ((Session.start none 13).exchanges
      (dependentRun ++ restoringRun))) := by decide +kernel
  have declared : Dependencies.ofRevision "p" Workspaces.sharedWorkspace dependentId false
      ((Session.start none 13).after dependentRun) = .ok (.ofList [libraryRelease]) := by
    decide +kernel
  have isLeaf : (((Session.start none 13).after dependentRun).store.released
      libraryRelease).toOption.map (·.contents.configuration.dependencies) = some ∅ := by
    decide +kernel
  have answered : Dependencies.ofRevision "p" Workspaces.sharedWorkspace dependentId true
      ((Session.start none 13).after dependentRun) = .ok (.ofList [libraryRelease]) := by
    obtain ⟨found, snapshot, isFound, listed⟩ := Dependencies.find?_of_ofRevision declared
    rw [Dependencies.ofRevision_eq isFound listed] at declared ⊢
    have declared : snapshot.contents.configuration.dependencies = .ofList [libraryRelease] :=
      Except.ok.inj declared
    cases isReleased : ((Session.start none 13).after dependentRun).store.released
        libraryRelease with
    | error failure => simp [isReleased, Except.toOption] at isLeaf
    | ok release =>
      have leaf : release.contents.configuration.dependencies = ∅ := by
        simpa [isReleased, Except.toOption] using isLeaf
      rw [if_pos rfl, declared]
      exact Dependencies.closure_of_leaf isReleased leaf
  have stays : (Dependencies.ofRevision "p" Workspaces.sharedWorkspace dependentId false
      (((Session.start none 13).after dependentRun).after restoringRun)).toBool := by
    decide +kernel
  rcases dependencies_settled rfl rfl rfl distinct (by decide) answered with
    settled | ⟨failure, gone, _⟩
  · exact settled
  · rw [(gone.ofRevision_eq (by decide) false).1] at stays
    cases stays

end Workstream
