import Workstream.Proofs.Store.Ledger
import Workstream.Proofs.Store.Upstream

/-!
# Revisions keep the charter of their project

The path of an entity is checked when the entity is put, and the configuration of a project is
written when the project is created; afterwards a commit can only replace the dependencies.
Revisions are also made by merging three others, and they are copied between streams, versions,
branches and reviews, where nothing is checked again. `Contents.Keep` is what survives all of
this: the paths are paths of entities, and the configuration differs from the charter, the
configuration that the project was created with, in nothing but the dependencies.
-/

namespace Workstream

/-- The contents have only paths of entities, and the configuration of the charter, possibly
with other dependencies. -/
structure Contents.Keep (charter : Configuration) (contents : Contents) : Prop where
  paths : ∀ path content, contents.entities.get? path = some content →
    Naming.isEntityPath path = true
  /-- Only the dependencies vary. -/
  configuration : ∃ dependencies, contents.configuration = { charter with dependencies }

/-- The contents of a new project keep its first configuration. -/
theorem Projects.keep_firstContents (structureVersion : Nat) (name group artifact : String) :
    (firstContents structureVersion name group artifact).Keep
      (firstContents structureVersion name group artifact).configuration where
  paths _ _ stored := nomatch stored
  configuration := ⟨∅, rfl⟩

/-- A change that takes effect keeps the charter. -/
theorem Change.keep_of_apply {charter : Configuration} {contents changed : Contents}
    {change : Change} (kept : contents.Keep charter)
    (applied : change.apply contents = .ok changed) : changed.Keep charter := by
  cases change with
  | put path content =>
    simp only [apply] at applied
    split at applied
    · rename_i isPath
      cases applied
      exact { kept with paths := SortedMap.forall_get?_insert kept.paths isPath }
    · cases applied
  | delete path =>
    simp only [apply] at applied
    split at applied
    · cases applied
      exact { kept with paths := SortedMap.forall_get?_erase kept.paths path }
    · cases applied
  | dependencies declared =>
    cases applied
    obtain ⟨_, configured⟩ := kept.configuration
    exact { kept with configuration := ⟨declared, by rw [configured]⟩ }

/-- A list of changes that takes effect keeps the charter. -/
theorem Change.keep_of_applyAll {charter : Configuration} {contents changed : Contents}
    {changes : List Change} (kept : contents.Keep charter)
    (applied : applyAll changes contents = .ok changed) : changed.Keep charter := by
  induction changes generalizing contents with
  | nil =>
    cases applied
    exact kept
  | cons change later ih =>
    obtain ⟨middle, first, rest⟩ := bind_eq_ok_iff.1 applied
    exact ih (keep_of_apply kept first) rest

/-- A merge keeps a charter that both sides keep. -/
theorem Merge.keep_contents {charter : Configuration} (base : Contents) {ours theirs : Contents}
    (oursKept : ours.Keep charter) (theirsKept : theirs.Keep charter) :
    (Merge.of base ours theirs).contents.Keep charter where
  paths path content stored := by
    rw [get?_contents, merged] at stored
    split at stored
    · exact theirsKept.paths path content stored
    · split at stored
      · exact oursKept.paths path content stored
      · exact theirsKept.paths path content stored
  configuration := by
    simp only [Merge.of]
    split
    · exact oursKept.configuration
    · exact theirsKept.configuration

/-- Every revision that the project stores keeps the charter. -/
def Project.Keeps (project : Project) (charter : Configuration) : Prop :=
  project.StoresOnly fun snapshot => snapshot.contents.Keep charter

/-- An update merges revisions that keep the charter into one that keeps it. -/
theorem Workspaces.Updatable.keep_merge {project : String} {specification : Specification}
    {before : Session} {names : UpdateNames} {state : Project} {branch : Branch}
    {head : Snapshot} {charter : Configuration}
    (updatable : Updatable project specification before names state branch head)
    (kept : state.Keeps charter) : (updateMerge branch head).contents.Keep charter :=
  Merge.keep_contents _ (kept.allows (Project.stores_of_branch_head updatable.stored))
    (kept.allows (Project.stores_of_head updatable.isHead))

/-- A live workspace can be replaced by a branch whose revisions keep the charter, and be kept as
its backup. -/
theorem Workspaces.Updatable.keeps_replace {project : String} {specification : Specification}
    {before : Session} {names : UpdateNames} {state : Project} {branch updated : Branch}
    {head : Snapshot} {charter : Configuration}
    (updatable : Updatable project specification before names state branch head)
    (kept : state.Keeps charter) (base : updated.base.contents.Keep charter)
    (commits : ∀ snapshot ∈ updated.commits, snapshot.contents.Keep charter) :
    ((state.putBranch names.backup branch).putBranch names.live updated).Keeps charter := by
  obtain ⟨oldBase, oldCommits⟩ := kept.branches names.live branch updatable.stored
  exact (kept.putBranch names.backup oldBase oldCommits).putBranch names.live base commits

/-- The exchange creates the project with the given name. -/
def Exchange.creates (name : String) (exchange : Exchange) : Bool :=
  match exchange.request with
  | .createProject project _ _ => project = name
  | _ => false

/-- What is stored under a name agrees with the past: nothing if no project was created under
it, and otherwise a project that was created once and keeps what it was created with. -/
inductive Project.Chartered (past : List Exchange) (name : String) : Option Project → Prop where
  | absent (uncreated : past.filter (·.creates name) = []) : Chartered past name none
  | present {project : Project} {creation : Exchange} {group artifact : String}
      (created : past.filter (·.creates name) = [creation])
      (asked : creation.request = .createProject name group artifact)
      (kept : project.Keeps (Projects.firstContents creation.before.structureVersion name group
        artifact).configuration) : Chartered past name (some project)

namespace Project.Chartered

variable {past : List Exchange} {name : String}

/-- An exchange that does not create the project says nothing new about it. -/
theorem append {stored : Option Project} (chartered : Chartered past name stored)
    {exchange : Exchange} (other : exchange.creates name = false) :
    Chartered (past ++ [exchange]) name stored := by
  cases chartered with
  | absent uncreated => exact .absent (by simp [uncreated, other])
  | present created asked kept => exact .present (by simp [created, other]) asked kept

/-- A project may change to a state that keeps whatever the project has kept. -/
theorem replace {state changed : Project} (chartered : Chartered past name (some state))
    (keeps : ∀ charter, state.Keeps charter → changed.Keeps charter) :
    Chartered past name (some changed) := by
  cases chartered with
  | present created asked kept => exact .present created asked (keeps _ kept)

end Project.Chartered

/-- What is stored under any name agrees with the past. -/
def Session.Chartered (past : List Exchange) (session : Session) : Prop :=
  ∀ name, Project.Chartered past name (session.store.projects.get? name)

namespace Session.Chartered

variable {past : List Exchange} {before : Session} {exchange : Exchange}

/-- A session without projects has no past. -/
theorem start (currentUser : Option String) (structureVersion : Nat) :
    (Session.start currentUser structureVersion).Chartered [] :=
  fun _ => .absent rfl

/-- An exchange that creates no project may leave the projects alone. -/
theorem append (chartered : before.Chartered past)
    (other : ∀ name, exchange.creates name = false) :
    before.Chartered (past ++ [exchange]) :=
  fun name => (chartered name).append (other name)

/-- Counting a commit does not touch the projects. -/
theorem advance (chartered : before.Chartered past) : before.advance.Chartered past := chartered

/-- An exchange that creates no project may set a project to a state that keeps whatever the
project has kept. -/
theorem setProject (chartered : before.Chartered past)
    (other : ∀ name, exchange.creates name = false) {name : String} {state changed : Project}
    (found : before.store.projects.get? name = some state)
    (keeps : ∀ charter, state.Keeps charter → changed.Keeps charter) :
    (before.setProject name changed).Chartered (past ++ [exchange]) := by
  intro wanted
  have known := (chartered wanted).append (other wanted)
  rw [projects_setProject]
  by_cases same : wanted = name
  · subst same
    rw [found] at known
    rw [SortedMap.get?_insert_self]
    exact known.replace keeps
  · rwa [SortedMap.get?_insert_of_ne _ _ same]

/-- A project that is created keeps the configuration that it is created with. -/
theorem created (chartered : before.Chartered past) {name group artifact : String}
    {answer : Answer} (absent : before.store.projects.get? name = none) :
    (before.setProject name (.start (before.minted none Projects.firstMessage
      (Projects.firstContents before.structureVersion name group artifact)))).Chartered
        (past ++ [⟨before, .createProject name group artifact, answer⟩]) := by
  intro wanted
  have known := chartered wanted
  rw [projects_setProject]
  by_cases same : wanted = name
  · subst same
    rw [absent] at known
    cases known with
    | absent uncreated =>
      have kept := Projects.keep_firstContents before.structureVersion wanted group artifact
      let creation : Exchange := ⟨before, .createProject wanted group artifact, answer⟩
      have created : (past ++ [creation]).filter (·.creates wanted) = [creation] := by
        have creates : creation.creates wanted = true := by simp [creation, Exchange.creates]
        rw [List.filter_append, uncreated, List.filter_singleton, creates]
        rfl
      rw [SortedMap.get?_insert_self]
      exact .present created rfl (.start kept)
  · rw [SortedMap.get?_insert_of_ne _ _ same]
    exact known.append (by simp [Exchange.creates, Ne.symm same])

end Session.Chartered

/-- After a step what is stored agrees with the past that it has added to. -/
theorem Step.chartered {past : List Exchange} {before after : Session} {request : Request}
    {answer : Answer} (step : Step before request answer after)
    (chartered : before.Chartered past) :
    after.Chartered (past ++ [⟨before, request, answer⟩]) := by
  cases step with
  | query isQuery _ =>
    refine chartered.append fun name => ?_
    cases request <;> first | rfl | cases isQuery
  | becomeUser user => exact chartered.append fun _ => rfl
  | createProject created =>
    cases created with
    | intro absent minted =>
      rw [minted]
      exact chartered.created absent
  | releaseVersion released =>
    cases released with
    | intro found absent isHead =>
      exact chartered.setProject (fun _ => rfl) found fun _ kept =>
        kept.addVersion _ (kept.allows (Project.stores_of_head isHead))
  | openPatch opened =>
    cases opened with
    | intro found absent isReleased =>
      exact chartered.setProject (fun _ => rfl) found fun _ kept =>
        kept.addPatch _ (kept.allows (.release isReleased))
  | commitToStream committed =>
    cases committed with
    | intro found isHead changed minted =>
      refine chartered.advance.setProject (fun _ => rfl) found fun charter kept => ?_
      rw [minted]
      exact kept.pushRevision _
        (Change.keep_of_applyAll (kept.allows (Project.stores_of_head isHead)) changed)
  | commitToWorkspace committed =>
    cases committed with
    | intro named found stored changed minted =>
      refine chartered.advance.setProject (fun _ => rfl) found fun charter kept => ?_
      obtain ⟨base, commits⟩ := kept.branches _ _ stored
      have next := Change.keep_of_applyAll
        (kept.allows (Project.stores_of_branch_head stored)) changed
      rw [minted]
      exact kept.putBranch _ base
        (List.forall_mem_append.2 ⟨commits, List.forall_mem_singleton.2 next⟩)
  | openReview opened =>
    cases opened with
    | intro named found stored isReview =>
      exact chartered.setProject (fun _ => rfl) found fun _ kept =>
        kept.addReview (kept.allows (.base stored))
          (kept.allows (Project.stores_of_branch_head stored))
  | createWorkspace created =>
    cases created with
    | intro live named found absent isHead =>
      exact chartered.setProject (fun _ => rfl) found fun _ kept =>
        kept.putBranch _ (kept.allows (Project.stores_of_head isHead)) (List.forall_mem_nil _)
  | deleteWorkspace deleted =>
    cases deleted with
    | live live named resolutionNamed found stored =>
      exact chartered.setProject (fun _ => rfl) found fun _ kept =>
        (kept.dropBranch _).dropBranch _
    | alone notLive named found stored =>
      exact chartered.setProject (fun _ => rfl) found fun _ kept => kept.dropBranch _
  | updateWorkspace updated =>
    cases updated with
    | unchanged updatable current => exact chartered.append fun _ => rfl
    | moved updatable outdated clean idle =>
      exact chartered.setProject (fun _ => rfl) updatable.found fun _ kept =>
        updatable.keeps_replace kept (kept.allows (Project.stores_of_head updatable.isHead))
          (List.forall_mem_nil _)
    | replayed updatable outdated clean carries minted =>
      refine chartered.advance.setProject (fun _ => rfl) updatable.found fun charter kept => ?_
      rw [minted]
      exact updatable.keeps_replace kept (kept.allows (Project.stores_of_head updatable.isHead))
        (List.forall_mem_singleton.2 (updatable.keep_merge kept))
    | conflicting updatable outdated conflicts minted =>
      refine chartered.advance.setProject (fun _ => rfl) updatable.found fun charter kept => ?_
      rw [minted]
      exact kept.putBranch _ (kept.allows (Project.stores_of_head updatable.isHead))
        (List.forall_mem_singleton.2 (updatable.keep_merge kept))
  | discardBackup discarded =>
    cases discarded with
    | intro named found stored =>
      exact chartered.setProject (fun _ => rfl) found fun _ kept => kept.dropBranch _
  | recoverBackup recovered =>
    cases recovered with
    | intro named backupNamed found stored allowed =>
      refine chartered.setProject (fun _ => rfl) found fun charter kept => ?_
      obtain ⟨base, commits⟩ := kept.branches _ _ stored
      exact (kept.dropBranch _).putBranch _ base commits

/-- After a run what is stored agrees with the run. -/
theorem Session.chartered_after (currentUser : Option String) (structureVersion : Nat)
    (requests : List Request) :
    ((Session.start currentUser structureVersion).after requests).Chartered
      ((Session.start currentUser structureVersion).exchanges requests) :=
  (steps_exchanges _ requests).invariant (fun past session => session.Chartered past)
    (fun chartered step => step.chartered chartered) (.start currentUser structureVersion)

/-- A project that is stored after a run was created by one request of the run and by no other.
Every revision that is stored in the project, whether it was committed, made by an update or
copied to another place, has only paths of entities, and its configuration has the name of the
project, the structure version of the session when the project was created, and the group and
the artifact that were asked for. Nothing but the dependencies ever varies. -/
theorem revisions_keep_charter {currentUser : Option String} {structureVersion : Nat}
    {initial session : Session} {requests : List Request}
    (isInitial : initial = .start currentUser structureVersion)
    (isSession : session = initial.after requests) {name : String} {project : Project}
    (found : session.store.projects.get? name = some project) :
    ∃ creation group artifact,
      (initial.exchanges requests).filter (·.creates name) = [creation] ∧
      creation.request = .createProject name group artifact ∧
      ∀ snapshot, project.Stores snapshot →
        (∀ path content, snapshot.contents.entities.get? path = some content →
          Naming.isEntityPath path = true) ∧
        ∃ dependencies, snapshot.contents.configuration =
          { project := name, structureVersion := creation.before.structureVersion, group,
            artifact, dependencies } := by
  subst isInitial isSession
  have chartered := Session.chartered_after currentUser structureVersion requests name
  rw [found] at chartered
  cases chartered with
  | present created asked kept =>
    refine ⟨_, _, _, created, asked, fun snapshot stores => ?_⟩
    obtain ⟨paths, configuration⟩ := kept.allows stores
    exact ⟨paths, configuration⟩

/-- A run after which a revision of a workspace has an entity of the stream and dependencies
that the stream does not have. -/
def replayingRun : List Request :=
  dependentRun ++ [.commitToStream "p" .mainLine "go on" [.put "a::e" "theirs"],
    .updateWorkspace "p" Workspaces.sharedWorkspace]

/-- The revision that an update has made has an entity of the stream and depends on a library
that the project did not depend on when it was created. In nothing else does its configuration
differ from the first one. -/
theorem revisions_keep_charter_replayed :
    ∃ project snapshot, ∃ creation : Exchange, ∃ group artifact,
      ((Session.start none 13).after replayingRun).store.projects.get? "p" = some project ∧
      project.Stores snapshot ∧ snapshot.contents.entities.get? "a::e" = some "theirs" ∧
      Naming.isEntityPath "a::e" = true ∧
      creation.request = .createProject "p" group artifact ∧
      snapshot.contents.configuration =
        { project := "p", structureVersion := creation.before.structureVersion, group, artifact,
          dependencies := .ofList [libraryRelease] } := by
  have known : ((((Session.start none 13).after replayingRun).store.projects.get? "p").bind
      (·.branches.get? "group/group")).map (fun branch =>
        (branch.head.contents.entities.get? "a::e",
          branch.head.contents.configuration.dependencies)) =
      some (some "theirs", .ofList [libraryRelease]) := by decide +kernel
  obtain ⟨branch, stored, holds⟩ := Option.map_eq_some_iff.1 known
  obtain ⟨entity, declared⟩ := Prod.mk.inj holds
  obtain ⟨project, found, stored⟩ := Option.bind_eq_some_iff.1 stored
  have stores := Project.stores_of_branch_head stored
  obtain ⟨creation, group, artifact, _, asked, keep⟩ := revisions_keep_charter rfl rfl found
  obtain ⟨paths, dependencies, configured⟩ := keep _ stores
  rw [configured] at declared
  subst declared
  exact ⟨project, branch.head, creation, group, artifact, found, stores, entity,
    paths _ _ entity, asked, configured⟩

end Workstream
