import Mathlib.Logic.Relation
import Mathlib.Order.Bounds.Basic
import Workstream.Proofs.Store.Upstream

/-!
# Everything that a revision depends on

The dependencies of a revision form a graph that is spread over the released versions of all
projects, and nothing keeps it from having cycles. The search through it works off a list of
pending dependencies. It drops those that were followed before, so what has to be shown is that
nothing is missed and nothing is made up, and that the list cannot keep growing: a round either
follows a release for the first time, or shortens the list.

`Search.Tracks` is the invariant of the rounds. It says of the followed and the pending
dependencies together that they are upstream, and that they are all that a followed one
declares. When nothing is pending any more, the followed ones are therefore the least closed
set; and a search that is stuck has met a member of this set that was not released.
-/

namespace Workstream

namespace SortedSet

variable {Key : Type} [Ord Key] [Std.TransOrd Key] [Std.LawfulEqOrd Key] {set : SortedSet Key}
  {key added : Key}

/-- The members of a set with one more member. -/
theorem contains_add_iff : (set.add added).contains key ↔ key = added ∨ set.contains key :=
  SortedMap.contains_insert_iff

/-- The members are listed. -/
theorem mem_toList_iff : key ∈ set.toList ↔ set.contains key := SortedMap.mem_keys_iff

/-- The members of a list are added to those of a set. -/
theorem contains_foldl_add_iff {members : List Key} :
    (members.foldl add set).contains key ↔ key ∈ members ∨ set.contains key := by
  induction members generalizing set with
  | nil => simp
  | cons first rest ih =>
    rw [List.foldl_cons, ih, contains_add_iff, List.mem_cons]
    grind

/-- The members of the set of a list are those of the list. -/
theorem contains_ofList_iff {members : List Key} :
    (ofList members).contains key ↔ key ∈ members :=
  contains_foldl_add_iff.trans (or_iff_left (by rintro ⟨⟩))

end SortedSet

namespace Store

variable {store : Store} {dependency : Dependency} {snapshot : Snapshot} {failure : Failure}

/-- A dependency names a released version of a project. -/
def Releases (store : Store) (dependency : Dependency) (snapshot : Snapshot) : Prop :=
  ∃ state, store.projects.get? dependency.project = some state ∧
    state.versions.get? dependency.version = some snapshot

/-- Why a dependency names no released version. -/
inductive Misses (store : Store) (dependency : Dependency) : Failure → Prop where
  | project (absent : store.projects.get? dependency.project = none) :
      Misses store dependency (.unknownProject dependency.project)
  | version {state : Project} (found : store.projects.get? dependency.project = some state)
      (absent : state.versions.get? dependency.version = none) :
      Misses store dependency (.unknownVersion dependency.project dependency.version)

/-- The revision that a dependency stands for is the one that was released. -/
theorem released_eq_ok_iff :
    store.released dependency = .ok snapshot ↔ store.Releases dependency snapshot := by
  unfold released Releases
  rw [bind_eq_ok_iff]
  simp only [project_eq_ok_iff, Project.release_eq_ok_iff]

/-- A dependency whose revision declares something was released. -/
theorem exists_releases {declared : SortedSet Dependency}
    (declares : (store.released dependency).map (·.contents.configuration.dependencies) =
      .ok declared) :
    ∃ snapshot, store.Releases dependency snapshot ∧
      ∀ other, snapshot.declares other = declared.contains other := by
  cases isReleased : store.released dependency with
  | error failure => simp [isReleased] at declares
  | ok snapshot =>
    rw [isReleased] at declares
    obtain rfl := Except.ok.inj declares
    exact ⟨snapshot, released_eq_ok_iff.1 isReleased, fun _ => rfl⟩

/-- A dependency stands for no revision when none was released. -/
theorem misses_of_released (failed : store.released dependency = .error failure) :
    store.Misses dependency failure := by
  unfold released at failed
  cases located : store.project dependency.project with
  | error cause =>
    obtain ⟨absent, rfl⟩ := project_eq_error_iff.1 located
    obtain rfl := Except.error.inj ((bind_eq_error located _).symm.trans failed)
    exact .project absent
  | ok state =>
    have found := project_eq_ok_iff.1 located
    cases absent : state.versions.get? dependency.version with
    | none =>
      simp only [located, Project.release, absent, ok_bind, Except.error.injEq] at failed
      exact failed ▸ .version found absent
    | some snapshot => simp [located, Project.release, absent] at failed

/-- What is missing is not found. -/
theorem Misses.status_eq (misses : store.Misses dependency failure) :
    failure.status = .notFound := by
  cases misses <;> rfl

/-- A dependency stands for one revision. -/
theorem Releases.unique {other : Snapshot} (isReleased : store.Releases dependency snapshot)
    (isOther : store.Releases dependency other) : snapshot = other :=
  Except.ok.inj ((released_eq_ok_iff.2 isReleased).symm.trans (released_eq_ok_iff.2 isOther))

/-- Nothing that is missing was released. -/
theorem Misses.not_releases (misses : store.Misses dependency failure) :
    ¬ store.Releases dependency snapshot := by
  rintro ⟨state, found, released⟩
  cases misses with
  | project absent => simp [absent] at found
  | version other absent =>
    obtain rfl := Option.some.inj (found.symm.trans other)
    simp [absent] at released

end Store

namespace Dependencies

variable {store : Store} {declared : SortedSet Dependency}

/-- A set contains what is declared, and with every release also what the release declares. -/
structure IsClosed (store : Store) (declared : SortedSet Dependency)
    (members : Set Dependency) : Prop where
  declared : ∀ dependency, declared.contains dependency → dependency ∈ members
  released : ∀ dependency ∈ members, ∀ snapshot, store.Releases dependency snapshot →
    ∀ other, snapshot.declares other → other ∈ members

/-- What is declared, and what is declared by a release that is upstream. -/
inductive Upstream (store : Store) (declared : SortedSet Dependency) : Dependency → Prop where
  | declared {dependency : Dependency} (isDeclared : declared.contains dependency) :
      Upstream store declared dependency
  | released {dependency other : Dependency} {snapshot : Snapshot}
      (upstream : Upstream store declared dependency)
      (isReleased : store.Releases dependency snapshot) (declares : snapshot.declares other) :
      Upstream store declared other

/-- What is upstream is the least closed set. -/
theorem isLeast_upstream :
    IsLeast {members | IsClosed store declared members}
      {other | Upstream store declared other} := by
  constructor
  · exact ⟨fun _ isDeclared => .declared isDeclared,
      fun _ upstream _ isReleased _ declares => .released upstream isReleased declares⟩
  · intro members closed other upstream
    induction upstream with
    | declared isDeclared => exact closed.declared _ isDeclared
    | released _ isReleased declares ih => exact closed.released _ ih _ isReleased _ declares

/-- How far a search has come. -/
structure Search where
  followed : SortedSet Dependency
  pending : List Dependency

/-- The dependency comes up in the search, be it followed or pending. -/
def Search.Covers (search : Search) (dependency : Dependency) : Prop :=
  search.followed.contains dependency ∨ dependency ∈ search.pending

/-- What comes up in a search does not depend on dependencies that are pending although they
were followed before. -/
theorem Search.covers_seen {followed : SortedSet Dependency} {dependency : Dependency}
    (isSeen : followed.contains dependency) (pending : List Dependency) (other : Dependency) :
    Covers ⟨followed, pending⟩ other ↔ Covers ⟨followed, dependency :: pending⟩ other := by
  simp only [Covers, List.mem_cons]
  constructor
  · exact Or.imp_right .inr
  · rintro (before | rfl | later)
    · exact .inl before
    · exact .inl isSeen
    · exact .inr later

/-- When a release is followed, what it declares comes up in addition. -/
theorem Search.covers_fresh (followed : SortedSet Dependency) (dependency : Dependency)
    (snapshot : Snapshot) (pending : List Dependency) (other : Dependency) :
    Covers ⟨followed.add dependency,
        snapshot.contents.configuration.dependencies.toList.reverse ++ pending⟩ other ↔
      snapshot.declares other ∨ Covers ⟨followed, dependency :: pending⟩ other := by
  simp only [Covers, Snapshot.declares, SortedSet.contains_add_iff, List.mem_append,
    List.mem_reverse, SortedSet.mem_toList_iff, List.mem_cons]
  grind

/-- One round of a search. -/
inductive Round (store : Store) : Search → Search → Prop where
  /-- What was followed before is dropped. -/
  | seen {followed : SortedSet Dependency} {dependency : Dependency} {pending : List Dependency}
      (isSeen : followed.contains dependency) :
      Round store ⟨followed, dependency :: pending⟩ ⟨followed, pending⟩
  /-- A release is followed for the first time, and what it declares is put first. -/
  | fresh {followed : SortedSet Dependency} {dependency : Dependency}
      {pending : List Dependency} {snapshot : Snapshot}
      (unseen : followed.contains dependency = false)
      (isReleased : store.Releases dependency snapshot) :
      Round store ⟨followed, dependency :: pending⟩
        ⟨followed.add dependency,
          snapshot.contents.configuration.dependencies.toList.reverse ++ pending⟩

/-- How a search ends. -/
inductive Ends (store : Store) : Search → Except Failure (SortedSet Dependency) → Prop where
  | complete (followed : SortedSet Dependency) : Ends store ⟨followed, []⟩ (.ok followed)
  | stuck {followed : SortedSet Dependency} {dependency : Dependency}
      {pending : List Dependency} {failure : Failure}
      (unseen : followed.contains dependency = false)
      (misses : store.Misses dependency failure) :
      Ends store ⟨followed, dependency :: pending⟩ (.error failure)

/-- There is no endless run of rounds. -/
theorem wellFounded_round (store : Store) :
    WellFounded fun later earlier => Round store earlier later := by
  have descends : Subrelation (fun later earlier => Round store earlier later)
      (InvImage (Prod.Lex (· < ·) (· < ·)) fun search =>
        (remaining store search.followed, search.pending.length)) := by
    intro later earlier round
    cases round with
    | seen isSeen => exact .right _ (Nat.lt_succ_self _)
    | fresh unseen isReleased =>
      -- The list may get longer, but one release less is left to be followed.
      have listed := Store.mem_releases_of_released (Store.released_eq_ok_iff.2 isReleased)
      exact .left _ _ (remaining_add_lt listed unseen)
  exact descends.wf (InvImage.wf _ (Prod.lex Nat.lt_wfRel Nat.lt_wfRel).wf)

/-- The dependencies that are followed are those at the end of the rounds. -/
theorem follow_ends (store : Store) (followed : SortedSet Dependency)
    (pending : List Dependency) :
    ∃ last, Relation.ReflTransGen (Round store) ⟨followed, pending⟩ last ∧
      Ends store last (follow store followed pending) := by
  fun_induction follow store followed pending with
  | case1 followed => exact ⟨_, .refl, .complete followed⟩
  | case2 followed dependency pending seen ih =>
    obtain ⟨last, rounds, ends⟩ := ih
    exact ⟨last, .head (.seen seen) rounds, ends⟩
  | case3 followed dependency pending unseen failure failed =>
    refine ⟨_, .refl, .stuck ?_ (Store.misses_of_released failed)⟩
    exact Bool.eq_false_iff.2 unseen
  | case4 followed dependency pending unseen snapshot isReleased ih =>
    obtain ⟨last, rounds, ends⟩ := ih
    refine ⟨last, .head (.fresh ?_ (Store.released_eq_ok_iff.1 isReleased)) rounds, ends⟩
    exact Bool.eq_false_iff.2 unseen

/-- What holds of a search at any time: nothing comes up that is not upstream, everything that
was followed was released, and nothing is forgotten that is declared at first or by something
that was followed. -/
structure Search.Tracks (store : Store) (declared : SortedSet Dependency) (search : Search) :
    Prop where
  upstream : ∀ dependency, search.Covers dependency → Upstream store declared dependency
  released : ∀ dependency, search.followed.contains dependency →
    ∃ snapshot, store.Releases dependency snapshot
  declared : ∀ dependency, declared.contains dependency → search.Covers dependency
  closed : ∀ dependency snapshot, search.followed.contains dependency →
    store.Releases dependency snapshot → ∀ other, snapshot.declares other → search.Covers other

/-- At first everything that is declared is pending. -/
theorem Search.Tracks.start (store : Store) (declared : SortedSet Dependency) :
    Tracks store declared ⟨∅, declared.toList.reverse⟩ := by
  have covers (dependency : Dependency) :
      Covers ⟨∅, declared.toList.reverse⟩ dependency ↔ declared.contains dependency := by
    rw [Covers, List.mem_reverse, SortedSet.mem_toList_iff]
    exact or_iff_right (by rintro ⟨⟩)
  exact
    { upstream := fun _ covered => .declared ((covers _).1 covered)
      released := by rintro _ ⟨⟩
      declared := fun _ isDeclared => (covers _).2 isDeclared
      closed := by rintro _ _ ⟨⟩ }

/-- A round takes the search on. -/
theorem Round.tracks {earlier later : Search} (round : Round store earlier later)
    (tracks : earlier.Tracks store declared) : later.Tracks store declared := by
  cases round with
  | @seen followed dependency pending isSeen =>
    have covers := Search.covers_seen isSeen pending
    exact
      { tracks with
        upstream := fun other covered => tracks.upstream other ((covers other).1 covered)
        declared := fun other isDeclared => (covers other).2 (tracks.declared other isDeclared)
        closed := fun _ _ isFollowed isReleased other declares =>
          (covers other).2 (tracks.closed _ _ isFollowed isReleased other declares) }
  | @fresh followed dependency pending snapshot unseen isReleased =>
    have covers := Search.covers_fresh followed dependency snapshot pending
    refine ⟨?upstream, ?released, ?declared, ?closed⟩
    case upstream =>
      intro other covered
      rcases (covers other).1 covered with declares | before
      · exact .released (tracks.upstream dependency (.inr List.mem_cons_self)) isReleased declares
      · exact tracks.upstream other before
    case released =>
      intro other isFollowed
      rcases SortedSet.contains_add_iff.1 isFollowed with rfl | before
      · exact ⟨snapshot, isReleased⟩
      · exact tracks.released other before
    case declared =>
      exact fun other isDeclared => (covers other).2 (.inr (tracks.declared other isDeclared))
    case closed =>
      intro origin release isFollowed isOther other declares
      rcases SortedSet.contains_add_iff.1 isFollowed with rfl | before
      · rw [isOther.unique isReleased] at declares
        exact (covers other).2 (.inl declares)
      · exact (covers other).2 (.inr (tracks.closed _ _ before isOther other declares))

/-- Any number of rounds takes the search on. -/
theorem Search.Tracks.of_rounds {earlier later : Search}
    (tracks : earlier.Tracks store declared)
    (rounds : Relation.ReflTransGen (Round store) earlier later) :
    later.Tracks store declared := by
  induction rounds with
  | refl => exact tracks
  | tail _ round ih => exact round.tracks ih

/-- When nothing is pending any more, everything upstream was followed, and nothing else. -/
theorem Search.Tracks.followed_iff {followed : SortedSet Dependency}
    (tracks : Tracks store declared ⟨followed, []⟩) (dependency : Dependency) :
    followed.contains dependency ↔ Upstream store declared dependency := by
  have isFollowed : ∀ other, Covers ⟨followed, []⟩ other → followed.contains other := by
    rintro other (before | absent)
    · exact before
    · exact absurd absent List.not_mem_nil
  constructor
  · exact fun before => tracks.upstream dependency (.inl before)
  · -- Each step upstream leads to something that comes up, and so to something followed.
    intro upstream
    induction upstream with
    | declared isDeclared => exact isFollowed _ (tracks.declared _ isDeclared)
    | released _ isReleased declares ih =>
      exact isFollowed _ (tracks.closed _ _ ih isReleased _ declares)

/-- When the dependencies of a revision are asked for with everything that these depend on in
turn, a search is made that cannot go on forever, and the answer is what it ends with. There is
a least set that contains the declared dependencies and is closed under following releases. The
question is answered exactly when every member of this set was released, and the answer consists
of its members. Otherwise some member was not released, and this is what is reported as not
found. -/
theorem transitive_dependencies_least {project revision : String}
    {specification : Specification} {session : Session} {found : Workspaces.Found}
    {snapshot : Snapshot} (isFound : Workspaces.find project specification session = .ok found)
    (listed : found.branch.find? revision = some snapshot) :
    ∃ upstream : Set Dependency,
      IsLeast {members | IsClosed session.store snapshot.contents.configuration.dependencies
        members} upstream ∧
      WellFounded (fun later earlier => Round session.store earlier later) ∧
      (∃ last, Relation.ReflTransGen (Round session.store)
          ⟨∅, snapshot.contents.configuration.dependencies.toList.reverse⟩ last ∧
        Ends session.store last (ofRevision project specification revision true session)) ∧
      ((∃ answer, ofRevision project specification revision true session = .ok answer) ↔
        ∀ dependency ∈ upstream, ∃ release, session.store.Releases dependency release) ∧
      (∀ answer, ofRevision project specification revision true session = .ok answer →
        ∀ dependency, answer.contains dependency ↔ dependency ∈ upstream) ∧
      ∀ failure, ofRevision project specification revision true session = .error failure →
        failure.status = .notFound ∧
        ∃ dependency ∈ upstream, session.store.Misses dependency failure := by
  rw [ofRevision_eq isFound listed, if_pos rfl, closure]
  obtain ⟨last, rounds, ends⟩ := follow_ends session.store ∅
    snapshot.contents.configuration.dependencies.toList.reverse
  have tracks := (Search.Tracks.start session.store
    snapshot.contents.configuration.dependencies).of_rounds rounds
  refine ⟨_, isLeast_upstream, wellFounded_round _, ⟨last, rounds, ends⟩, ?_⟩
  generalize follow session.store ∅
    snapshot.contents.configuration.dependencies.toList.reverse = result at ends
  cases ends with
  | complete followed =>
    have same := tracks.followed_iff
    refine ⟨?_, ?_, by rintro _ ⟨⟩⟩
    · exact iff_of_true ⟨followed, rfl⟩ fun dependency upstream =>
        tracks.released dependency ((same dependency).2 upstream)
    · rintro _ ⟨⟩
      exact same
  | @stuck followed dependency pending failure unseen misses =>
    have upstream := tracks.upstream dependency (.inr List.mem_cons_self)
    refine ⟨?_, by rintro _ ⟨⟩, ?_⟩
    · refine iff_of_false (by rintro ⟨_, ⟨⟩⟩) fun released => ?_
      obtain ⟨release, isReleased⟩ := released dependency upstream
      exact misses.not_releases isReleased
    · rintro _ ⟨⟩
      exact ⟨misses.status_eq, dependency, upstream, misses⟩

/-- Two releases that depend on each other, the second one also on itself, are the least closed
set that contains the first one. -/
theorem isLeast_cycle {first second : Dependency} {firstRelease secondRelease : Snapshot}
    (isFirst : store.Releases first firstRelease)
    (isSecond : store.Releases second secondRelease)
    (firstDeclares : ∀ other, firstRelease.declares other ↔ other ∈ [second])
    (secondDeclares : ∀ other, secondRelease.declares other ↔ other ∈ [first, second]) :
    IsLeast {members | IsClosed store (.ofList [first]) members}
      {dependency | dependency ∈ [first, second]} := by
  constructor
  · refine ⟨fun dependency isDeclared => ?_, ?_⟩
    · exact List.mem_append_left [second] (SortedSet.contains_ofList_iff.1 isDeclared)
    · intro dependency member release isReleased other declares
      rcases List.mem_pair.1 member with rfl | rfl
      · rw [isReleased.unique isFirst, firstDeclares] at declares
        exact List.mem_cons_of_mem _ declares
      · rwa [isReleased.unique isSecond, secondDeclares] at declares
  · intro members closed dependency member
    have firstMember : first ∈ members :=
      closed.declared first (SortedSet.contains_ofList_iff.2 List.mem_cons_self)
    rcases List.mem_pair.1 member with rfl | rfl
    · exact firstMember
    · exact closed.released first firstMember firstRelease isFirst _
        ((firstDeclares _).2 List.mem_cons_self)

/-- The first release of a project. -/
def cyclicRelease (project : String) : Dependency where
  project
  version := libraryRelease.version

/-- A run in which two projects are released that depend on each other, the second one also on
itself, and a workspace is made to depend on the first one. -/
def cyclicRun : List Request :=
  [.createProject "a" "g" "a",
    .commitToStream "a" .mainLine "build" [.dependencies (.ofList [cyclicRelease "b"])],
    .releaseVersion "a" (cyclicRelease "a").version,
    .createProject "b" "g" "b",
    .commitToStream "b" .mainLine "build"
      [.dependencies (.ofList [cyclicRelease "a", cyclicRelease "b"])],
    .releaseVersion "b" (cyclicRelease "b").version,
    .createProject "p" "g" "p", .createWorkspace "p" Workspaces.sharedWorkspace,
    .commitToWorkspace "p" Workspaces.sharedWorkspace "build"
      [.dependencies (.ofList [cyclicRelease "a"])]]

/-- The id of the revision that depends on the cycle. -/
def cyclicId : String := "4f70606344473ec0a76494c829a81f200086dfec"

/-- The search through the cycle ends with both releases. -/
theorem transitive_dependencies_least_cyclic :
    ofRevision "p" Workspaces.sharedWorkspace cyclicId true
      ((Session.start none 13).after cyclicRun) =
        .ok (.ofList [cyclicRelease "a", cyclicRelease "b"]) := by
  have declared : ofRevision "p" Workspaces.sharedWorkspace cyclicId false
      ((Session.start none 13).after cyclicRun) = .ok (.ofList [cyclicRelease "a"]) := by
    decide +kernel
  have first : (((Session.start none 13).after cyclicRun).store.released
      (cyclicRelease "a")).map (·.contents.configuration.dependencies) =
        .ok (.ofList [cyclicRelease "b"]) := by decide +kernel
  have second : (((Session.start none 13).after cyclicRun).store.released
      (cyclicRelease "b")).map (·.contents.configuration.dependencies) =
        .ok (.ofList [cyclicRelease "a", cyclicRelease "b"]) := by decide +kernel
  obtain ⟨firstRelease, isFirst, firstDeclares⟩ := Store.exists_releases first
  obtain ⟨secondRelease, isSecond, secondDeclares⟩ := Store.exists_releases second
  have cycle := isLeast_cycle isFirst isSecond
    (fun other => by rw [firstDeclares, SortedSet.contains_ofList_iff])
    (fun other => by rw [secondDeclares, SortedSet.contains_ofList_iff])
  obtain ⟨found, snapshot, isFound, listed⟩ := find?_of_ofRevision declared
  obtain ⟨upstream, least, _, _, answered, members, _⟩ :=
    transitive_dependencies_least isFound listed
  rw [ofRevision_eq isFound listed] at declared
  rw [show snapshot.contents.configuration.dependencies = .ofList [cyclicRelease "a"] from
    Except.ok.inj declared] at least
  obtain rfl := least.unique cycle
  have released : ∀ dependency ∈ [cyclicRelease "a", cyclicRelease "b"], ∃ release,
      ((Session.start none 13).after cyclicRun).store.Releases dependency release := by
    intro dependency member
    rcases List.mem_pair.1 member with rfl | rfl
    · exact ⟨_, isFirst⟩
    · exact ⟨_, isSecond⟩
  obtain ⟨answer, isAnswer⟩ := answered.2 released
  rw [isAnswer]
  refine congrArg Except.ok (SortedSet.eq_of_contains_eq fun dependency => ?_)
  rw [Bool.eq_iff_iff, members answer isAnswer, SortedSet.contains_ofList_iff]
  rfl

end Dependencies

end Workstream
