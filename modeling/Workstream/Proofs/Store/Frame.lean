import Workstream.Proofs.Store.Numbering
import Workstream.Proofs.Store.UpdateOutcome

/-!
# What a request leaves alone

A store consists of places: the number of the last commit, the projects, and in each project
its histories, releases, branches and reviews. `Exchange.Touches` lists the few places that a
successful request is meant to change, and everything in any other place stays as it is.

The branches of all workspaces of a project are stored in one map, under names that are
computed from specifications. That a request for one workspace leaves the other ones alone
rests on the names: no two workspaces share one, and neither do two branches of a workspace.
-/

namespace Workstream

/-- A place in a project. -/
inductive Project.Place where
  | history (stream : DevelopmentStream)
  | release (version : Version)
  | branch (name : String)
  | review (id : String)

/-- What can be stored in a place of a project. -/
abbrev Project.Place.Content : Project.Place → Type
  | .history _ => List Snapshot
  | .release _ => Snapshot
  | .branch _ => Branch
  | .review _ => ReviewRecord

/-- What is stored in a place of the project. -/
def Project.content? (project : Project) : (place : Place) → Option place.Content
  | .history stream => project.streams.get? stream
  | .release version => project.versions.get? version
  | .branch name => project.branches.get? name
  | .review id => project.reviews.get? id

/-- A place in a store. -/
inductive Store.Place where
  | counter
  /-- The project with a name, whatever is in it. -/
  | project (name : String)
  | inside (name : String) (place : Project.Place)

/-- What can be stored in a place of a store. -/
abbrev Store.Place.Content : Store.Place → Type
  | .counter => Nat
  | .project _ => Unit
  | .inside _ place => place.Content

/-- What is stored in a place of the store. -/
def Store.content? (store : Store) : (place : Place) → Option place.Content
  | .counter => some store.sequence
  | .project name => (store.projects.get? name).map fun _ => ()
  | .inside name place => (store.projects.get? name).bind (·.content? place)

/-- Projects that hold the same in every place are equal. -/
theorem Project.eq_of_content? {first second : Project}
    (same : ∀ place, first.content? place = second.content? place) : first = second := by
  obtain ⟨streams, versions, branches, reviews⟩ := first
  obtain ⟨otherStreams, otherVersions, otherBranches, otherReviews⟩ := second
  obtain rfl : streams = otherStreams := SortedMap.ext fun stream => same (.history stream)
  obtain rfl : versions = otherVersions := SortedMap.ext fun version => same (.release version)
  obtain rfl : branches = otherBranches := SortedMap.ext fun name => same (.branch name)
  obtain rfl : reviews = otherReviews := SortedMap.ext fun id => same (.review id)
  rfl

/-- Stores that hold the same in every place are equal. -/
theorem Store.eq_of_content? {first second : Store}
    (same : ∀ place, first.content? place = second.content? place) : first = second := by
  have projects : first.projects = second.projects := by
    refine SortedMap.ext fun name => ?_
    have known := same (.project name)
    have inside (place) := same (.inside name place)
    simp only [content?] at known inside
    cases found : first.projects.get? name with
    | none =>
      rw [found] at known
      exact (Option.map_eq_none_iff.1 known.symm).symm
    | some state =>
      rw [found] at known inside
      obtain ⟨other, otherFound, _⟩ := Option.map_eq_some_iff.1 known.symm
      rw [otherFound] at inside ⊢
      exact congrArg some (Project.eq_of_content? inside)
  have sequence : first.sequence = second.sequence := Option.some.inj (same .counter)
  cases first
  cases second
  simp_all

namespace Project

variable {project : Project} {place : Place}

/-- A branch is put in its own place only. -/
theorem content?_putBranch_of_ne {name : String} (elsewhere : place ≠ .branch name)
    (branch : Branch) :
    (project.putBranch name branch).content? place = project.content? place := by
  cases place with
  | branch other =>
    exact SortedMap.get?_insert_of_ne _ _ fun same => elsewhere (congrArg Place.branch same)
  | _ => rfl

/-- A branch is dropped from its own place only. -/
theorem content?_dropBranch_of_ne {name : String} (elsewhere : place ≠ .branch name) :
    (project.dropBranch name).content? place = project.content? place := by
  cases place with
  | branch other =>
    exact SortedMap.get?_erase_of_ne _ fun same => elsewhere (congrArg Place.branch same)
  | _ => rfl

/-- A revision is added to the history of its stream only. -/
theorem content?_pushRevision_of_ne {stream : DevelopmentStream}
    (elsewhere : place ≠ .history stream) (snapshot : Snapshot) :
    (project.pushRevision stream snapshot).content? place = project.content? place := by
  cases place with
  | history other =>
    exact SortedMap.get?_insert_of_ne _ _ fun same => elsewhere (congrArg Place.history same)
  | _ => rfl

/-- A release is added in its own place only. -/
theorem content?_addVersion_of_ne {version : Version} (elsewhere : place ≠ .release version)
    (released : Snapshot) :
    (project.addVersion version released).content? place = project.content? place := by
  cases place with
  | release other =>
    exact SortedMap.get?_insert_of_ne _ _ fun same => elsewhere (congrArg Place.release same)
  | _ => rfl

/-- A patch stream is added in its own place only. -/
theorem content?_addPatch_of_ne {version : Version} (elsewhere : place ≠ .history (.patch version))
    (first : Snapshot) :
    (project.addPatch version first).content? place = project.content? place := by
  cases place with
  | history other =>
    exact SortedMap.get?_insert_of_ne _ _ fun same => elsewhere (congrArg Place.history same)
  | _ => rfl

/-- A review is added in its own place only. -/
theorem content?_addReview_of_ne {record : ReviewRecord}
    (elsewhere : place ≠ .review record.review.id) :
    (project.addReview record).content? place = project.content? place := by
  cases place with
  | review other =>
    exact SortedMap.get?_insert_of_ne _ _ fun same => elsewhere (congrArg Place.review same)
  | _ => rfl

end Project

namespace Session

variable {session : Session} {name : String} {state changed : Project} {place : Store.Place}

/-- Counting a commit changes the counter only. -/
theorem content?_advance_of_ne (elsewhere : place ≠ .counter) :
    session.advance.store.content? place = session.store.content? place := by
  cases place with
  | counter => exact absurd rfl elsewhere
  | _ => rfl

/-- What is in the projects of other names stays as it is when a project is set. -/
theorem content?_setProject_of_ne (elsewhere : place ≠ .project name)
    (outside : ∀ inner, place ≠ .inside name inner) :
    (session.setProject name changed).store.content? place = session.store.content? place := by
  cases place with
  | counter => rfl
  | project other =>
    have differs : other ≠ name := fun same => elsewhere (congrArg Store.Place.project same)
    simp [Store.content?, SortedMap.get?_insert_of_ne _ _ differs]
  | inside other inner =>
    have differs : other ≠ name := fun same => outside inner (by rw [same])
    simp [Store.content?, SortedMap.get?_insert_of_ne _ _ differs]

/-- When a project is set to another state, what is in the other projects stays as it is, and
in the project itself everything that both states have in common. -/
theorem content?_setProject_of_found (found : session.store.projects.get? name = some state)
    (kept : ∀ inner, place = .inside name inner →
      changed.content? inner = state.content? inner) :
    (session.setProject name changed).store.content? place = session.store.content? place := by
  cases place with
  | counter => rfl
  | project other =>
    by_cases same : other = name
    · subst same
      simp [Store.content?, found]
    · simp [Store.content?, SortedMap.get?_insert_of_ne _ _ same]
  | inside other inner =>
    by_cases same : other = name
    · subst same
      simp [Store.content?, found, kept inner rfl]
    · simp [Store.content?, SortedMap.get?_insert_of_ne _ _ same]

end Session

/-- Both specifications are about one workspace, whichever of its branches they mean. -/
structure Specification.SameWorkspace (first second : Specification) : Prop where
  id : first.id = second.id
  owner : first.owner = second.owner
  stream : first.stream = second.stream

/-- The name of a branch stands for the workspace that it was computed for. -/
theorem Specification.SameWorkspace.of_encode {currentUser : Option String}
    {specification other : Specification} {access : Access} {name : String}
    (named : BranchName.encode currentUser (specification.withAccess access) = .ok name)
    (decoded : BranchName.decode? name = some other) :
    other.SameWorkspace (specification.resolve currentUser) := by
  have read := BranchName.decode?_eq_some_iff.1 decoded
  obtain rfl := Except.ok.inj ((BranchName.decode_encode named).symm.trans read)
  exact ⟨rfl, rfl, rfl⟩

/-- The place is one of the branches of a workspace. -/
def Specification.Owns (specification : Specification) (currentUser : Option String)
    (project : String) (place : Store.Place) : Prop :=
  ∃ access name, BranchName.encode currentUser (specification.withAccess access) = .ok name ∧
    place = .inside project (.branch name)

namespace Request

/-- The project and the workspace of a request that changes the branches of a workspace. -/
def workspace? : Request → Option (String × Specification)
  | .commitToWorkspace project workspace _ _ => some (project, workspace)
  | .createWorkspace project workspace => some (project, workspace)
  | .deleteWorkspace project workspace => some (project, workspace)
  | .updateWorkspace project workspace => some (project, workspace)
  | .discardBackup project workspace => some (project, workspace)
  | .recoverBackup project workspace _ => some (project, workspace)
  | _ => none

/-- The request commits something, or it may do so. -/
def mayCommit : Request → Bool
  | .createProject _ _ _ => true
  | .commitToStream _ _ _ _ => true
  | .commitToWorkspace _ _ _ _ => true
  | .updateWorkspace _ _ => true
  | _ => false

end Request

namespace Exchange

/-- The place of what a request has added to the store. -/
def addition? (exchange : Exchange) : Option Store.Place :=
  match exchange.request, exchange.answer with
  | .createProject project _ _, _ => some (.project project)
  | .releaseVersion project version, _ => some (.inside project (.release version))
  | .openPatch project version, _ => some (.inside project (.history (.patch version)))
  | .openReview project _, .review review => some (.inside project (.review review.id))
  | _, _ => none

/-- The places that a request is meant to change. -/
inductive Touches (exchange : Exchange) : Store.Place → Prop where
  | counter (commits : exchange.request.mayCommit = true) : Touches exchange .counter
  | entry {place : Store.Place} (adds : exchange.addition? = some place) : Touches exchange place
  | created {project group artifact : String}
      (creates : exchange.request = .createProject project group artifact)
      (inner : Project.Place) : Touches exchange (.inside project inner)
  | history {project message : String} {stream : DevelopmentStream} {changes : List Change}
      (extended : exchange.request = .commitToStream project stream message changes) :
      Touches exchange (.inside project (.history stream))
  | branch {project : String} {specification : Specification} {place : Store.Place}
      (addressed : exchange.request.workspace? = some (project, specification))
      (owned : specification.Owns exchange.before.currentUser project place) :
      Touches exchange place

/-- A request for a workspace is only meant to change the counter and its branches. -/
theorem Touches.of_workspace {exchange : Exchange} {place : Store.Place}
    (touches : exchange.Touches place) {project : String} {specification : Specification}
    (addressed : exchange.request.workspace? = some (project, specification)) :
    place = .counter ∨ specification.Owns exchange.before.currentUser project place := by
  obtain ⟨before, request, answer⟩ := exchange
  cases touches with
  | counter commits => exact .inl rfl
  | entry adds => cases request <;> simp [addition?, Request.workspace?] at adds addressed
  | created creates inner =>
    obtain rfl : request = _ := creates
    cases addressed
  | history extended =>
    obtain rfl : request = _ := extended
    cases addressed
  | branch otherAddressed owned =>
    cases addressed.symm.trans otherAddressed
    exact .inr owned

end Exchange

/-- Replacing a live workspace and keeping the old one as its backup changes nothing but
branches of the workspace. -/
theorem Workspaces.Updatable.content?_replace {project : String}
    {specification : Specification} {before session : Session} {names : UpdateNames}
    {state : Project} {branch : Branch} {head : Snapshot}
    (updatable : Updatable project specification before names state branch head)
    (found : session.store.projects.get? project = some state) {place : Store.Place}
    (foreign : ¬ specification.Owns before.currentUser project place) (updated : Branch) :
    (session.setProject project ((state.putBranch names.backup branch).putBranch names.live
      updated)).store.content? place = session.store.content? place := by
  refine Session.content?_setProject_of_found found fun inner isInside => ?_
  rw [Project.content?_putBranch_of_ne, Project.content?_putBranch_of_ne]
  · exact fun same => foreign ⟨_, _, updatable.backupNamed, same ▸ isInside⟩
  · exact fun same => foreign ⟨_, _, updatable.liveNamed, same ▸ isInside⟩

/-- A step leaves alone what it is not meant to change. -/
theorem Step.content?_eq {before after : Session} {request : Request} {answer : Answer}
    (step : Step before request answer after) {place : Store.Place}
    (untouched : ¬ Exchange.Touches ⟨before, request, answer⟩ place) :
    after.store.content? place = before.store.content? place := by
  have counted (commits : request.mayCommit = true) :
      before.advance.store.content? place = before.store.content? place :=
    Session.content?_advance_of_ne fun same => untouched (same ▸ .counter commits)
  have elsewhere {project name : String} {specification : Specification} {access : Access}
      {inner : Project.Place} (isInside : place = .inside project inner)
      (addressed : request.workspace? = some (project, specification))
      (named : BranchName.encode before.currentUser (specification.withAccess access) =
        .ok name) : inner ≠ .branch name :=
    fun same => untouched (.branch addressed ⟨access, name, named, same ▸ isInside⟩)
  cases step with
  | query _ _ => rfl
  | becomeUser user => rfl
  | createProject created =>
    cases created with
    | intro absent minted =>
      refine (Session.content?_setProject_of_ne ?_ fun inner => ?_).trans (counted rfl)
      · exact fun same => untouched (same ▸ .entry rfl)
      · exact fun same => untouched (same ▸ .created rfl inner)
  | releaseVersion released =>
    cases released with
    | intro found absent isHead =>
      refine Session.content?_setProject_of_found found fun inner isInside => ?_
      refine Project.content?_addVersion_of_ne ?_ _
      exact fun same => untouched (by rw [isInside, same]; exact .entry rfl)
  | openPatch opened =>
    cases opened with
    | intro found absent isReleased =>
      refine Session.content?_setProject_of_found found fun inner isInside => ?_
      refine Project.content?_addPatch_of_ne ?_ _
      exact fun same => untouched (by rw [isInside, same]; exact .entry rfl)
  | commitToStream committed =>
    cases committed with
    | intro found isHead changed minted =>
      rw [← counted rfl]
      refine Session.content?_setProject_of_found found fun inner isInside => ?_
      refine Project.content?_pushRevision_of_ne ?_ _
      exact fun same => untouched (by rw [isInside, same]; exact .history rfl)
  | commitToWorkspace committed =>
    cases committed with
    | intro named found stored changed minted =>
      rw [← counted rfl]
      refine Session.content?_setProject_of_found found fun inner isInside => ?_
      exact Project.content?_putBranch_of_ne (elsewhere isInside rfl named) _
  | openReview opened =>
    cases opened with
    | intro named found stored isReview =>
      refine Session.content?_setProject_of_found found fun inner isInside => ?_
      refine Project.content?_addReview_of_ne ?_
      exact fun same => untouched (by rw [isInside, same]; exact .entry rfl)
  | createWorkspace created =>
    cases created with
    | intro live named found absent isHead =>
      refine Session.content?_setProject_of_found found fun inner isInside => ?_
      exact Project.content?_putBranch_of_ne (elsewhere isInside rfl named) _
  | deleteWorkspace deleted =>
    cases deleted with
    | live live named resolutionNamed found stored =>
      refine Session.content?_setProject_of_found found fun inner isInside => ?_
      rw [Project.content?_dropBranch_of_ne (elsewhere isInside rfl resolutionNamed)]
      exact Project.content?_dropBranch_of_ne (elsewhere isInside rfl named)
    | alone notLive named found stored =>
      refine Session.content?_setProject_of_found found fun inner isInside => ?_
      exact Project.content?_dropBranch_of_ne (elsewhere isInside rfl named)
  | updateWorkspace updated =>
    cases updated with
    | unchanged updatable current => rfl
    | moved updatable outdated clean idle =>
      exact updatable.content?_replace updatable.found
        (fun owned => untouched (.branch rfl owned)) _
    | replayed updatable outdated clean carries minted =>
      have found : before.advance.store.projects.get? _ = some _ := updatable.found
      rw [← counted rfl]
      exact updatable.content?_replace found (fun owned => untouched (.branch rfl owned)) _
    | conflicting updatable outdated conflicts minted =>
      rw [← counted rfl]
      refine Session.content?_setProject_of_found updatable.found fun inner isInside => ?_
      exact Project.content?_putBranch_of_ne (elsewhere isInside rfl updatable.resolutionNamed) _
  | discardBackup discarded =>
    cases discarded with
    | intro named found stored =>
      refine Session.content?_setProject_of_found found fun inner isInside => ?_
      exact Project.content?_dropBranch_of_ne (elsewhere isInside rfl named)
  | recoverBackup recovered =>
    cases recovered with
    | intro named backupNamed found stored allowed =>
      refine Session.content?_setProject_of_found found fun inner isInside => ?_
      rw [Project.content?_putBranch_of_ne (elsewhere isInside rfl named)]
      exact Project.content?_dropBranch_of_ne (elsewhere isInside rfl backupNamed)

/-- In a reachable session the reviews of every project are numbered. -/
theorem Session.Reachable.numbered {session : Session} (reachable : session.Reachable) :
    ∃ past, session.Numbered past := by
  refine @invariant (fun session => ∃ past, session.Numbered past) ?_ ?_ session reachable
  · exact fun currentUser structureVersion => ⟨[], .start currentUser structureVersion⟩
  · exact fun _ ⟨_, numbered⟩ step => ⟨_, step.numbered numbered⟩

/-- What a step adds was not there before and is there afterwards. -/
theorem Step.addition_is_new {past : List Exchange} {before after : Session} {request : Request}
    {answer : Answer} (step : Step before request answer after)
    (numbered : before.Numbered past) {entry : Store.Place}
    (adds : Exchange.addition? ⟨before, request, answer⟩ = some entry) :
    before.store.content? entry = none ∧ (after.store.content? entry).isSome := by
  cases step with
  | query isQuery _ =>
    cases request <;> simp [Exchange.addition?, Request.isQuery] at adds isQuery
  | createProject created =>
    cases created with
    | intro absent minted =>
      cases adds
      simp [Store.content?, absent]
  | releaseVersion released =>
    cases released with
    | intro found absent isHead =>
      cases adds
      simp [Store.content?, Project.content?, found, absent]
  | openPatch opened =>
    cases opened with
    | intro found absent isReleased =>
      cases adds
      simp [Store.content?, Project.content?, found, absent]
  | @openReview _ _ review _ opened =>
    cases opened with
    | @intro name state branch _ named found stored isReview =>
      cases adds
      have absent : state.reviews.get? review.id = none := by
        rw [isReview]
        exact numbered.next_absent found
      simp [Store.content?, Project.content?, found, absent]
  | _ => cases adds

/-- A successful request changes nothing but what it is meant to change. One that changes the
branches of a workspace leaves everything alone that is neither the number of the last commit
nor one of these branches: the other projects, all histories, releases and reviews, and the
branches of every workspace that has another id, owner or stream. One that adds something adds
it where nothing was before, and a project that is created is also counted as a commit. -/
theorem changes_stay_in_place {session after : Session} (reachable : session.Reachable)
    {request : Request} {answer : Answer}
    (gives : request.perform.Gives session answer after) :
    (∀ place, ¬ Exchange.Touches ⟨session, request, answer⟩ place →
      after.store.content? place = session.store.content? place) ∧
    (∀ project specification, request.workspace? = some (project, specification) →
      ∀ place, place ≠ .counter →
        (∀ name other, place = .inside project (.branch name) →
          BranchName.decode? name = some other →
            ¬ other.SameWorkspace (specification.resolve session.currentUser)) →
          after.store.content? place = session.store.content? place) ∧
    (∀ entry, Exchange.addition? ⟨session, request, answer⟩ = some entry →
      session.store.content? entry = none ∧ (after.store.content? entry).isSome) ∧
    ∀ project group artifact, request = .createProject project group artifact →
      after.store.sequence = session.store.sequence + 1 := by
  obtain ⟨succeeded, rfl⟩ := gives
  have step := (request.perform_meets session).of_ok succeeded
  refine ⟨fun place => step.content?_eq, ?_, ?_, ?_⟩
  · intro project specification addressed place uncounted foreign
    refine step.content?_eq fun touches => ?_
    rcases touches.of_workspace addressed with rfl | ⟨access, name, named, rfl⟩
    · exact uncounted rfl
    · have decoded := BranchName.decode?_eq_some_iff.2 (BranchName.decode_encode named)
      exact foreign name _ rfl decoded (.of_encode named decoded)
  · obtain ⟨past, numbered⟩ := reachable.numbered
    exact fun entry => step.addition_is_new numbered
  · rintro project group artifact rfl
    generalize ((Request.createProject project group artifact).perform.run session).session =
      after at step ⊢
    cases step with
    | query isQuery _ => cases isQuery
    | createProject created =>
      cases created with
      | intro absent minted => rfl

/-- The workspace of a user whose name is a reserved word, and the name of a shared one. -/
def homonymousWorkspace : Specification :=
  { Workspaces.sharedWorkspace with owner := .user (some "group") }

/-- A session with two workspaces that differ in nothing but their owners. -/
def homonymsSession : Session :=
  (Session.start none 13).after
    [.createProject "p" "g" "a", .createWorkspace "p" Workspaces.sharedWorkspace,
      .createWorkspace "p" homonymousWorkspace]

/-- A workspace is deleted, and the shared one of the same id keeps its branch. -/
theorem changes_stay_in_place_homonyms :
    ∃ after, (Request.deleteWorkspace "p" homonymousWorkspace).perform.Gives homonymsSession
        .done after ∧
      after.store.content? (.inside "p" (.branch "group/group")) =
        homonymsSession.store.content? (.inside "p" (.branch "group/group")) := by
  have reachable : homonymsSession.Reachable := (Session.Reachable.start none 13).after _
  have succeeded : ((Request.deleteWorkspace "p" homonymousWorkspace).perform.run
      homonymsSession).result = .ok .done := by decide +kernel
  refine ⟨_, ⟨succeeded, rfl⟩, ?_⟩
  obtain ⟨_, frame, _⟩ := changes_stay_in_place reachable ⟨succeeded, rfl⟩
  refine frame _ _ rfl _ (by rintro ⟨⟩) ?_
  rintro name other ⟨⟩ decoded same
  have isShared : BranchName.decode? "group/group" = some Workspaces.sharedWorkspace := by
    decide +kernel
  obtain rfl := Option.some.inj (isShared.symm.trans decoded)
  cases same.owner

end Workstream
