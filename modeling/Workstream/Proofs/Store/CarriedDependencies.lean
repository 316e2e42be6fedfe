import Workstream.Proofs.Store.Charter
import Workstream.Proofs.Store.CleanUpdate

/-!
# Dependencies across clean updates

An update merges entities path by path, but the configuration is carried over as a whole, and
with it the set of declared dependencies. Since nothing but the dependencies ever varies in the
configuration of a project, the workspace counts as having changed its configuration exactly
when its head and its base disagree about some dependency. Then its head prevails for all
dependencies, also for those that only the stream has added or removed; otherwise the stream
prevails.
-/

namespace Workstream

/-- Whether the head of a branch has another opinion of a dependency than the base. -/
def Branch.touches (branch : Branch) (dependency : Dependency) : Bool :=
  branch.head.declares dependency ≠ branch.base.declares dependency

/-- Contents that keep one charter have the same configuration when they declare the same
dependencies. -/
theorem Contents.Keep.configuration_eq {charter : Configuration} {first second : Contents}
    (kept : first.Keep charter) (otherKept : second.Keep charter)
    (same : first.configuration.dependencies = second.configuration.dependencies) :
    first.configuration = second.configuration := by
  obtain ⟨declared, configured⟩ := kept.configuration
  obtain ⟨otherDeclared, otherConfigured⟩ := otherKept.configuration
  rw [configured, otherConfigured] at same ⊢
  rw [show declared = otherDeclared from same]

/-- A branch whose revisions keep a charter has the configuration of its base exactly when it
touches no dependency. -/
theorem Branch.configuration_eq_iff {charter : Configuration} {branch : Branch}
    (base : branch.base.contents.Keep charter) (head : branch.head.contents.Keep charter) :
    branch.head.contents.configuration = branch.base.contents.configuration ↔
      ∀ dependency, branch.touches dependency = false := by
  simp only [touches, ne_eq, decide_not, Bool.not_eq_false', decide_eq_true_eq]
  constructor
  · intro same dependency
    simp only [Snapshot.declares, same]
  · intro same
    exact head.configuration_eq base (SortedSet.eq_of_contains_eq same)

/-- A reachable session comes about by a run of requests. -/
theorem Session.Reachable.exists_after {session : Session} (reachable : session.Reachable) :
    ∃ currentUser structureVersion requests,
      session = (Session.start currentUser structureVersion).after requests := by
  induction reachable with
  | start currentUser structureVersion => exact ⟨currentUser, structureVersion, [], rfl⟩
  | perform _ request ih =>
    obtain ⟨currentUser, structureVersion, requests, rfl⟩ := ih
    refine ⟨currentUser, structureVersion, requests ++ [request], ?_⟩
    simp only [Session.after, List.foldl_append, List.foldl_cons, List.foldl_nil]

/-- A project that is stored in a reachable session keeps a charter. -/
theorem Session.Reachable.keeps {session : Session} (reachable : session.Reachable)
    {name : String} {state : Project}
    (found : session.store.projects.get? name = some state) : ∃ charter, state.Keeps charter := by
  obtain ⟨currentUser, structureVersion, requests, rfl⟩ := reachable.exists_after
  have chartered := chartered_after currentUser structureVersion requests name
  rw [found] at chartered
  cases chartered with
  | present _ _ kept => exact ⟨_, kept⟩

namespace Workspaces

/-- When the configuration of the workspace is that of its base, a rebuilt branch declares what
the head of the stream declares. -/
theorem Rebuilt.declares_of_same {branch rebuilt : Branch} {head : Snapshot}
    (built : Rebuilt branch head rebuilt)
    (same : branch.head.contents.configuration = branch.base.contents.configuration)
    (dependency : Dependency) :
    rebuilt.head.declares dependency = head.declares dependency := by
  have carried := built.configuration
  rw [if_neg fun differs => differs same] at carried
  simp only [Snapshot.declares, carried]

/-- When the workspace has changed its configuration, a rebuilt branch declares what the
workspace declares. -/
theorem Rebuilt.declares_of_differs {branch rebuilt : Branch} {head : Snapshot}
    (built : Rebuilt branch head rebuilt)
    (differs : branch.head.contents.configuration ≠ branch.base.contents.configuration)
    (dependency : Dependency) :
    rebuilt.head.declares dependency = branch.head.declares dependency := by
  have carried := built.configuration
  rw [if_pos differs] at carried
  simp only [Snapshot.declares, carried]

/-- A clean update carries dependencies over as a whole. If the workspace has touched none, then
its new head declares what the head of the stream declares; and if it has touched any, its new
head declares what its old head has declared. So on a dependency that the workspace has not
touched the new head and the head of the stream agree exactly when the workspace has touched no
other dependency, or when the stream has not touched this one since the workspace was cut. -/
theorem clean_update_carries_dependencies {project : String} {specification : Specification}
    {before after : Session} {revision : RevisionId} (reachable : before.Reachable)
    (updates : (update project specification).Gives before (.updated revision) after) :
    ∃ found head later,
      find project specification before = .ok found ∧
      found.project.head project specification.stream = .ok head ∧
      find project specification after = .ok later ∧
      ((∀ dependency, found.branch.touches dependency = false) →
        ∀ dependency, later.branch.head.declares dependency = head.declares dependency) ∧
      ((∃ dependency, found.branch.touches dependency) → ∀ dependency,
        later.branch.head.declares dependency = found.branch.head.declares dependency) ∧
      ∀ dependency, found.branch.touches dependency = false →
        (later.branch.head.declares dependency = head.declares dependency ↔
          (∀ other, found.branch.touches other = false) ∨
            head.declares dependency = found.branch.base.declares dependency) := by
  obtain ⟨names, state, branch, head, rebuilt, clean, -⟩ := CleanUpdate.of_gives updates
  obtain ⟨charter, kept⟩ := reachable.keeps clean.updatable.found
  have stored := clean.updatable.stored
  have configured := Branch.configuration_eq_iff (kept.allows (.base stored))
    (kept.allows (Project.stores_of_branch_head stored))
  have fromStream (untouched : ∀ dependency, branch.touches dependency = false) :=
    clean.built.declares_of_same (configured.2 untouched)
  have fromWorkspace (touched : ¬ ∀ dependency, branch.touches dependency = false) :=
    clean.built.declares_of_differs fun same => touched (configured.1 same)
  refine ⟨_, head, _, clean.updatable.find_eq, clean.updatable.isHead, clean.find_after,
    fromStream, ?_, ?_⟩
  · rintro ⟨touched, isTouched⟩
    exact fromWorkspace fun untouched => by simp [untouched touched] at isTouched
  · intro dependency isUntouched
    have same : branch.head.declares dependency = branch.base.declares dependency := by
      simpa [Branch.touches] using isUntouched
    by_cases untouched : ∀ other, branch.touches other = false
    · exact ⟨fun _ => .inl untouched, fun _ => fromStream untouched dependency⟩
    · have prevails := (fromWorkspace untouched dependency).trans same
      constructor
      · exact fun agrees => .inr (agrees.symm.trans prevails)
      · rintro (none | unmoved)
        · exact absurd none untouched
        · exact prevails.trans unmoved.symm

/-- A run in which a workspace writes an entity and its stream declares a dependency. -/
def adoptingRun : List Request :=
  [.createProject "lib" "g" "lib", .releaseVersion "lib" libraryRelease.version,
    .createProject "p" "g" "a", .createWorkspace "p" sharedWorkspace,
    .commitToWorkspace "p" sharedWorkspace "ours" [.put "a::e" "ours"],
    .commitToStream "p" .mainLine "build on the library"
      [.dependencies (.ofList [libraryRelease])]]

/-- A workspace that has touched no dependency gets the one that its stream has declared. -/
theorem clean_update_carries_dependencies_adopted :
    ∃ revision updated later,
      ((Session.start none 13).after adoptingRun).Reachable ∧
      (update "p" sharedWorkspace).Gives ((Session.start none 13).after adoptingRun)
        (.updated revision) updated ∧
      find "p" sharedWorkspace updated = .ok later ∧
      later.branch.head.declares libraryRelease = true := by
  have reachable := (Session.Reachable.start none 13).after adoptingRun
  have updates : ((update "p" sharedWorkspace).run
      ((Session.start none 13).after adoptingRun)).result =
        .ok (.updated ⟨"d830c7cab1c841876856cf152a6d0c1430819350"⟩) := by decide +kernel
  have known : (do
      let found ← find "p" sharedWorkspace ((Session.start none 13).after adoptingRun)
      let head ← found.project.head "p" sharedWorkspace.stream
      .ok (found.branch.head.contents.configuration.dependencies,
        found.branch.base.contents.configuration.dependencies,
        head.declares libraryRelease)) = .ok (∅, ∅, true) := by decide +kernel
  obtain ⟨found, head, later, isFound, isHead, isLater, fromStream, _⟩ :=
    clean_update_carries_dependencies reachable ⟨updates, rfl⟩
  obtain ⟨_, sameFound, known⟩ := bind_eq_ok_iff.1 known
  obtain rfl := Except.ok.inj (isFound.symm.trans sameFound)
  obtain ⟨_, sameHead, known⟩ := bind_eq_ok_iff.1 known
  obtain rfl := Except.ok.inj (isHead.symm.trans sameHead)
  obtain ⟨declared, baseDeclared, adopted⟩ : _ ∧ _ ∧ _ := by simpa using known
  refine ⟨_, _, later, reachable, ⟨updates, rfl⟩, isLater, ?_⟩
  have untouched (dependency : Dependency) : found.branch.touches dependency = false := by
    simp [Branch.touches, Snapshot.declares, declared, baseDeclared]
  exact (fromStream untouched libraryRelease).trans adopted

/-- Another released project. -/
def toolRelease : Dependency where
  project := "tool"
  version := libraryRelease.version

/-- A run in which a workspace and its stream both declare a library, and the stream also
declares a tool. -/
def forgettingRun : List Request :=
  [.createProject "lib" "g" "lib", .releaseVersion "lib" libraryRelease.version,
    .createProject "tool" "g" "tool", .releaseVersion "tool" toolRelease.version,
    .createProject "p" "g" "a", .createWorkspace "p" sharedWorkspace,
    .commitToWorkspace "p" sharedWorkspace "ours" [.dependencies (.ofList [libraryRelease])],
    .commitToStream "p" .mainLine "theirs"
      [.dependencies (.ofList [libraryRelease, toolRelease])]]

/-- A clean update loses a dependency that the stream has declared and the workspace has not
touched, because the workspace has touched another one. -/
theorem clean_update_forgets_dependency :
    ∃ revision updated found head later,
      ((Session.start none 13).after forgettingRun).Reachable ∧
      (update "p" sharedWorkspace).Gives ((Session.start none 13).after forgettingRun)
        (.updated revision) updated ∧
      find "p" sharedWorkspace ((Session.start none 13).after forgettingRun) = .ok found ∧
      found.project.head "p" sharedWorkspace.stream = .ok head ∧
      find "p" sharedWorkspace updated = .ok later ∧
      found.branch.head.declares toolRelease = found.branch.base.declares toolRelease ∧
      ¬ (later.branch.head.declares toolRelease ↔ head.declares toolRelease) := by
  have reachable := (Session.Reachable.start none 13).after forgettingRun
  have updates : ((update "p" sharedWorkspace).run
      ((Session.start none 13).after forgettingRun)).result =
        .ok (.updated ⟨"e48e8a3450aa8d34436be9b6c05456ac5e906f2e"⟩) := by decide +kernel
  have known : (do
      let found ← find "p" sharedWorkspace ((Session.start none 13).after forgettingRun)
      let head ← found.project.head "p" sharedWorkspace.stream
      let later ← find "p" sharedWorkspace
        ((update "p" sharedWorkspace).run ((Session.start none 13).after forgettingRun)).session
      .ok (found.branch.head.declares toolRelease, found.branch.base.declares toolRelease,
        later.branch.head.declares toolRelease, head.declares toolRelease)) =
      .ok (false, false, false, true) := by decide +kernel
  obtain ⟨found, isFound, known⟩ := bind_eq_ok_iff.1 known
  obtain ⟨head, isHead, known⟩ := bind_eq_ok_iff.1 known
  obtain ⟨later, isLater, known⟩ := bind_eq_ok_iff.1 known
  obtain ⟨declared, baseDeclared, forgotten, adopted⟩ : _ ∧ _ ∧ _ ∧ _ := by simpa using known
  refine ⟨_, _, found, head, later, reachable, ⟨updates, rfl⟩, isFound, isHead, isLater, ?_, ?_⟩
  · rw [declared, baseDeclared]
  · simp [forgotten, adopted]

end Workspaces

end Workstream
