import Workstream.Proofs.Store.Atomicity
import Workstream.Proofs.Store.Outdated

/-!
# The aftermath of an update

An update leaves a workspace in one of two states, and both of them last. Without a conflict the
workspace is cut from the head of its stream and has no conflict resolution; only a commit to
the stream, or whatever removes or replaces the live branch, can change that. With a conflict
the live branch and its conflict resolution stand side by side, and an update is refused until
one of them is deleted.

Each state is a property of the project that every other step preserves. Steps can only be told
apart by the names of the branches that they deal with, which is why the names of the workspace
are fixed first: they do not depend on the current user when no user is left open.
-/

namespace Workstream

namespace Exchange

/-- The exchange deletes the branch of a workspace. -/
def deletes (project : String) (branch : Specification) (exchange : Exchange) : Bool :=
  match exchange.request with
  | .deleteWorkspace name other =>
    name = project && other.resolve exchange.before.currentUser = branch
  | _ => false

/-- The exchange extends the stream of a live workspace, deletes the workspace or recovers it
from its backup. -/
def disturbs (project : String) (workspace : Specification) (exchange : Exchange) : Bool :=
  match exchange.request with
  | .commitToStream name stream _ _ => name = project && stream = workspace.stream
  | .recoverBackup name other _ =>
    name = project && (other.withAccess .live).resolve exchange.before.currentUser = workspace
  | _ => exchange.deletes project workspace

end Exchange

/-- A live workspace that leaves no user open, and the names of its live branch and its conflict
resolution. -/
structure Specification.Names (workspace : Specification) (live resolution : String) : Prop where
  isLive : workspace.access = .live
  pinned : workspace.awaitsUser = false
  live : ∀ currentUser, BranchName.encode currentUser workspace = .ok live
  resolution : ∀ currentUser,
    BranchName.encode currentUser (workspace.withAccess .resolution) = .ok resolution

namespace Specification.Names

variable {workspace : Specification} {live resolution : String} {currentUser : Option String}
  {other : Specification} {name : String}

/-- The names of a workspace that leaves no user open do not depend on who asks. -/
theorem of_encode (isLive : workspace.access = .live) (pinned : workspace.awaitsUser = false)
    (named : BranchName.encode currentUser workspace = .ok live)
    (resolutionNamed : BranchName.encode currentUser (workspace.withAccess .resolution) =
      .ok resolution) : workspace.Names live resolution where
  isLive := isLive
  pinned := pinned
  live := BranchName.encode_of_pinned pinned named
  resolution := by
    have alsoPinned : (workspace.withAccess .resolution).awaitsUser = false := pinned
    exact BranchName.encode_of_pinned alsoPinned resolutionNamed

/-- A branch that is no live workspace has another name than the live branch. -/
theorem ne_live (names : workspace.Names live resolution)
    (named : BranchName.encode currentUser other = .ok name) (notLive : other.access ≠ .live) :
    name ≠ live := by
  rintro rfl
  exact notLive ((BranchName.access_eq_of_encode named (names.live none)).trans names.isLive)

/-- A branch that is no conflict resolution has another name than the conflict resolution. -/
theorem ne_resolution (names : workspace.Names live resolution)
    (named : BranchName.encode currentUser other = .ok name)
    (differs : other.access ≠ .resolution) : name ≠ resolution := by
  rintro rfl
  exact differs (BranchName.access_eq_of_encode named (names.resolution none))

/-- What has the name of the live branch is the workspace. -/
theorem resolve_eq (names : workspace.Names live resolution)
    (named : BranchName.encode currentUser other = .ok live) :
    other.resolve currentUser = workspace := by
  rw [BranchName.resolve_eq_of_encode named (names.live none),
    Specification.resolve_of_pinned names.pinned]

/-- What has the name of the conflict resolution is the conflict resolution of the workspace. -/
theorem resolve_eq_resolution (names : workspace.Names live resolution)
    (named : BranchName.encode currentUser other = .ok resolution) :
    other.resolve currentUser = workspace.withAccess .resolution := by
  rw [BranchName.resolve_eq_of_encode named (names.resolution none)]
  exact congrArg (·.withAccess .resolution) (Specification.resolve_of_pinned names.pinned none)

/-- A live branch whose conflict resolution has the name of the conflict resolution has the name
of the live branch. -/
theorem eq_live (names : workspace.Names live resolution)
    (named : BranchName.encode currentUser (other.withAccess .live) = .ok name)
    (resolutionNamed : BranchName.encode currentUser (other.withAccess .resolution) =
      .ok resolution) : name = live := by
  have same := BranchName.encode_withAccess_of_encode resolutionNamed (names.resolution none) named
  have isLive := Specification.withAccess_of_access names.isLive
  exact Except.ok.inj (same.symm.trans (isLive ▸ names.live none))

end Specification.Names

/-- The project exists and has a property. -/
def Session.Holds (session : Session) (project : String) (property : Project → Prop) : Prop :=
  ∃ state, session.store.projects.get? project = some state ∧ property state

namespace Session.Holds

variable {session : Session} {project name : String} {property : Project → Prop}
  {state changed : Project}

/-- Counting a commit does not touch the projects. -/
theorem advance (holds : session.Holds project property) :
    session.advance.Holds project property := holds

/-- A project may be set to a state that has the property if the state before had it. -/
theorem setProject (holds : session.Holds project property)
    (found : session.store.projects.get? name = some state)
    (kept : name = project → property state → property changed) :
    (session.setProject name changed).Holds project property := by
  obtain ⟨known, isKnown, has⟩ := holds
  by_cases same : project = name
  · subst same
    obtain rfl : state = known := Option.some.inj (found.symm.trans isKnown)
    exact ⟨changed, SortedMap.get?_insert_self .., kept rfl has⟩
  · exact ⟨known, (SortedMap.get?_insert_of_ne _ _ same).trans isKnown, has⟩

/-- A project that did not exist may be set to any state. -/
theorem setProject_of_absent (holds : session.Holds project property)
    (absent : session.store.projects.get? name = none) (changed : Project) :
    (session.setProject name changed).Holds project property := by
  obtain ⟨known, isKnown, has⟩ := holds
  exact ⟨known, SortedMap.get?_insert_of_absent absent isKnown changed, has⟩

end Session.Holds

/-- The head of a stream depends on the history of the stream only. -/
theorem Project.head_eq_of_get? {before after : Project} {stream : DevelopmentStream}
    (same : after.streams.get? stream = before.streams.get? stream) (name : String) :
    after.head name stream = before.head name stream := by
  simp only [head, history, history?, same]

/-- The live branch was cut from what is the head of the stream, and there is no conflict
resolution. -/
structure Project.Settled (project : String) (stream : DevelopmentStream)
    (live resolution : String) (state : Project) : Prop where
  /-- The stream has not moved on. -/
  current : ∃ branch head, state.branches.get? live = some branch ∧
    state.head project stream = .ok head ∧ branch.base.revision.id = head.revision.id
  calm : state.branches.get? resolution = none

namespace Project.Settled

variable {project : String} {stream : DevelopmentStream} {live resolution name : String}
  {state : Project}

/-- Branches that are left alone stay settled when the head of the stream does not change. -/
theorem of_head_eq {changed : Project} (settled : state.Settled project stream live resolution)
    (branches : changed.branches = state.branches)
    (head : changed.head project stream = state.head project stream) :
    changed.Settled project stream live resolution where
  current := by
    rw [branches, head]
    exact settled.current
  calm := by
    rw [branches]
    exact settled.calm

/-- Branches of other names can be put. -/
theorem putBranch (settled : state.Settled project stream live resolution) (notLive : name ≠ live)
    (notResolution : name ≠ resolution) (branch : Branch) :
    (state.putBranch name branch).Settled project stream live resolution where
  current := by
    obtain ⟨found, head, stored, isHead, same⟩ := settled.current
    exact ⟨found, head, (SortedMap.get?_insert_of_ne _ _ notLive.symm).trans stored, isHead, same⟩
  calm := (SortedMap.get?_insert_of_ne _ _ notResolution.symm).trans settled.calm

/-- A branch that was cut from the same revision can be put in place of any other. -/
theorem putBranch_of_base_eq (settled : state.Settled project stream live resolution)
    {old branch : Branch} (stored : state.branches.get? name = some old)
    (base : branch.base = old.base) :
    (state.putBranch name branch).Settled project stream live resolution := by
  have notResolution : name ≠ resolution := by
    rintro rfl
    simp [settled.calm] at stored
  by_cases same : name = live
  · subst same
    obtain ⟨found, head, isStored, isHead, current⟩ := settled.current
    obtain rfl : old = found := Option.some.inj (stored.symm.trans isStored)
    refine ⟨⟨branch, head, SortedMap.get?_insert_self .., isHead, base ▸ current⟩, ?_⟩
    exact (SortedMap.get?_insert_of_ne _ _ notResolution.symm).trans settled.calm
  · exact settled.putBranch same notResolution branch

/-- Every branch but the live one can be dropped. -/
theorem dropBranch (settled : state.Settled project stream live resolution)
    (notLive : name ≠ live) :
    (state.dropBranch name).Settled project stream live resolution where
  current := by
    obtain ⟨found, head, stored, isHead, same⟩ := settled.current
    exact ⟨found, head, (SortedMap.get?_erase_of_ne _ notLive.symm).trans stored, isHead, same⟩
  calm := by simp [SortedMap.get?_erase, settled.calm]

end Project.Settled

namespace Workspaces.Updatable

variable {project : String} {workspace specification : Specification}
  {live resolution : String} {before : Session} {names : UpdateNames} {state : Project}
  {branch : Branch} {head : Snapshot}

/-- A workspace that is outdated is another one than a settled workspace. -/
theorem live_ne_of_settled
    (updatable : Updatable project specification before names state branch head)
    (settledNames : workspace.Names live resolution)
    (settled : state.Settled project workspace.stream live resolution)
    (outdated : branch.base.revision.id ≠ head.revision.id) : names.live ≠ live := by
  rintro rfl
  have stream := BranchName.stream_eq_of_encode updatable.liveNamed (settledNames.live none)
  obtain ⟨found, last, stored, isLast, current⟩ := settled.current
  obtain rfl : branch = found := Option.some.inj (updatable.stored.symm.trans stored)
  have isHead := updatable.isHead
  rw [stream, isLast] at isHead
  cases isHead
  exact outdated current

/-- Replacing an outdated workspace leaves a settled one alone. -/
theorem settled_replace
    (updatable : Updatable project specification before names state branch head)
    (settledNames : workspace.Names live resolution)
    (settled : state.Settled project workspace.stream live resolution)
    (outdated : branch.base.revision.id ≠ head.revision.id) (updated : Branch) :
    ((state.putBranch names.backup branch).putBranch names.live updated).Settled project
      workspace.stream live resolution := by
  have kept := settled.putBranch
    (settledNames.ne_live updatable.backupNamed (show Access.backup ≠ .live by decide))
    (settledNames.ne_resolution updatable.backupNamed
      (show Access.backup ≠ .resolution by decide)) branch
  exact kept.putBranch (updatable.live_ne_of_settled settledNames settled outdated)
    (settledNames.ne_resolution updatable.named (show Access.live ≠ .resolution by decide))
    updated

/-- The conflicts of an outdated workspace leave a settled one alone. -/
theorem settled_conflict
    (updatable : Updatable project specification before names state branch head)
    (settledNames : workspace.Names live resolution)
    (settled : state.Settled project workspace.stream live resolution)
    (outdated : branch.base.revision.id ≠ head.revision.id) (rebuilt : Branch) :
    (state.putBranch names.resolution rebuilt).Settled project workspace.stream live
      resolution := by
  have differs := updatable.live_ne_of_settled settledNames settled outdated
  refine settled.putBranch (settledNames.ne_live updatable.resolutionNamed
    (show Access.resolution ≠ .live by decide)) ?_ rebuilt
  intro same
  have named := updatable.resolutionNamed
  rw [same] at named
  exact differs (settledNames.eq_live updatable.named named)

/-- The names that an update finds are those of the workspace. -/
theorem namedFor (updatable : Updatable project workspace before names state branch head)
    (pinned : workspace.awaitsUser = false) : workspace.Names names.live names.resolution :=
  .of_encode updatable.live pinned updatable.liveNamed updatable.resolutionNamed

/-- An update without a conflict settles the workspace. -/
theorem settles (updatable : Updatable project specification before names state branch head)
    {updated : Branch} (base : updated.base = head) :
    ((state.putBranch names.backup branch).putBranch names.live updated).Settled project
      specification.stream names.live names.resolution where
  current := ⟨updated, head, SortedMap.get?_insert_self .., updatable.isHead, by rw [base]⟩
  calm := by
    have notLive : names.resolution ≠ names.live :=
      BranchName.encode_withAccess_ne (by decide) updatable.resolutionNamed updatable.named
    have notBackup : names.resolution ≠ names.backup :=
      BranchName.encode_withAccess_ne (by decide) updatable.resolutionNamed updatable.backupNamed
    exact (SortedMap.get?_insert_of_ne _ _ notLive).trans
      ((SortedMap.get?_insert_of_ne _ _ notBackup).trans updatable.calm)

end Workspaces.Updatable

/-- An update that reports no conflict settles the workspace. -/
theorem Workspaces.Updated.settled {project : String} {workspace : Specification}
    {before after : Session} {report : UpdateReport}
    (updated : Updated project workspace before report after)
    (pinned : workspace.awaitsUser = false) (clean : ∀ paths, report ≠ .conflicting paths) :
    ∃ live resolution, workspace.Names live resolution ∧
      after.Holds project (·.Settled project workspace.stream live resolution) := by
  cases updated with
  | unchanged updatable current =>
    exact ⟨_, _, updatable.namedFor pinned, _, updatable.found,
      ⟨_, _, updatable.stored, updatable.isHead, current⟩, updatable.calm⟩
  | moved updatable outdated clean idle =>
    exact ⟨_, _, updatable.namedFor pinned, _, SortedMap.get?_insert_self .., updatable.settles rfl⟩
  | replayed updatable outdated clean carries minted =>
    exact ⟨_, _, updatable.namedFor pinned, _, SortedMap.get?_insert_self .., updatable.settles rfl⟩
  | conflicting updatable outdated conflicts minted => exact absurd rfl (clean _)

/-- A workspace that is not disturbed stays settled. -/
theorem Step.settled {project : String} {workspace : Specification} {live resolution : String}
    {before after : Session} {request : Request} {answer : Answer}
    (step : Step before request answer after) (names : workspace.Names live resolution)
    (settled : before.Holds project (·.Settled project workspace.stream live resolution))
    (undisturbed : Exchange.disturbs project workspace ⟨before, request, answer⟩ = false) :
    after.Holds project (·.Settled project workspace.stream live resolution) := by
  cases step with
  | query _ _ => exact settled
  | becomeUser user => exact settled
  | createProject created =>
    cases created with
    | intro absent minted => exact settled.advance.setProject_of_absent absent _
  | releaseVersion released =>
    cases released with
    | intro found absent isHead =>
      exact settled.setProject found fun _ settled => settled.of_head_eq rfl rfl
  | openPatch opened =>
    cases opened with
    | @intro state released found absent isReleased =>
      refine settled.setProject found fun same settled => settled.of_head_eq rfl ?_
      obtain ⟨_, head, _, isHead, _⟩ := settled.current
      obtain ⟨history, stored, last⟩ := Project.head_eq_ok_iff.1 isHead
      refine Project.head_eq_of_get? ?_ project
      rw [stored]
      exact SortedMap.get?_insert_of_absent absent stored [released]
  | @commitToStream name stream _ _ _ _ committed =>
    cases committed with
    | intro found isHead changed minted =>
      refine settled.advance.setProject found fun same settled => settled.of_head_eq rfl ?_
      have elsewhere : workspace.stream ≠ stream := by
        rintro rfl
        simp [Exchange.disturbs, same] at undisturbed
      exact Project.head_eq_of_get? (SortedMap.get?_insert_of_ne _ _ elsewhere) project
  | commitToWorkspace committed =>
    cases committed with
    | intro named found stored changed minted =>
      exact settled.advance.setProject found fun _ settled =>
        settled.putBranch_of_base_eq stored rfl
  | openReview opened =>
    cases opened with
    | intro named found stored isReview =>
      exact settled.setProject found fun _ settled => settled.of_head_eq rfl rfl
  | createWorkspace created =>
    cases created with
    | intro isLive named found absent isHead =>
      refine settled.setProject found fun _ settled => settled.putBranch ?_ ?_ _
      · rintro rfl
        obtain ⟨_, _, stored, _, _⟩ := settled.current
        cases stored.symm.trans absent
      · exact names.ne_resolution named (by simp [isLive])
  | deleteWorkspace deleted =>
    cases deleted with
    | live isLive named resolutionNamed found stored =>
      refine settled.setProject found fun same settled => (settled.dropBranch ?_).dropBranch
        (names.ne_live resolutionNamed (show Access.resolution ≠ .live by decide))
      rintro rfl
      simp [Exchange.disturbs, Exchange.deletes, same, names.resolve_eq named] at undisturbed
    | alone notLive named found stored =>
      exact settled.setProject found fun _ settled =>
        settled.dropBranch (names.ne_live named notLive)
  | updateWorkspace updated =>
    cases updated with
    | unchanged updatable current => exact settled
    | moved updatable outdated clean idle =>
      refine settled.setProject updatable.found fun same settled => ?_
      subst same
      exact updatable.settled_replace names settled outdated _
    | replayed updatable outdated clean carries minted =>
      refine settled.advance.setProject updatable.found fun same settled => ?_
      subst same
      exact updatable.settled_replace names settled outdated _
    | conflicting updatable outdated conflicts minted =>
      refine settled.advance.setProject updatable.found fun same settled => ?_
      subst same
      exact updatable.settled_conflict names settled outdated _
  | discardBackup discarded =>
    cases discarded with
    | intro named found stored =>
      exact settled.setProject found fun _ settled =>
        settled.dropBranch (names.ne_live named (show Access.backup ≠ .live by decide))
  | recoverBackup recovered =>
    cases recovered with
    | intro named backupNamed found stored allowed =>
      have dropped := names.ne_live backupNamed (show Access.backup ≠ .live by decide)
      refine settled.setProject found fun same settled => (settled.dropBranch dropped).putBranch ?_
        (names.ne_resolution named (show Access.live ≠ .resolution by decide)) _
      rintro rfl
      simp [Exchange.disturbs, same, names.resolve_eq named] at undisturbed

/-- The live branch stands beside its conflict resolution. -/
structure Project.Unresolved (live resolution : String) (state : Project) : Prop where
  live : state.branches.contains live
  resolution : state.branches.contains resolution

namespace Project.Unresolved

variable {live resolution name : String} {state : Project}

/-- Branches that are left alone stay unresolved. -/
theorem of_branches_eq {changed : Project} (unresolved : state.Unresolved live resolution)
    (same : changed.branches = state.branches) : changed.Unresolved live resolution where
  live := same ▸ unresolved.live
  resolution := same ▸ unresolved.resolution

/-- Any branch can be put. -/
theorem putBranch (unresolved : state.Unresolved live resolution) (name : String)
    (branch : Branch) : (state.putBranch name branch).Unresolved live resolution where
  live := SortedMap.contains_insert_iff.2 (.inr unresolved.live)
  resolution := SortedMap.contains_insert_iff.2 (.inr unresolved.resolution)

/-- Any other branch can be dropped. -/
theorem dropBranch (unresolved : state.Unresolved live resolution) (notLive : name ≠ live)
    (notResolution : name ≠ resolution) : (state.dropBranch name).Unresolved live resolution where
  live := SortedMap.contains_erase_iff.2 ⟨notLive.symm, unresolved.live⟩
  resolution := SortedMap.contains_erase_iff.2 ⟨notResolution.symm, unresolved.resolution⟩

end Project.Unresolved

/-- An update with a conflict leaves the live branch and its conflict resolution. -/
theorem Workspaces.Updatable.unresolved {project : String} {specification : Specification}
    {before : Session} {names : UpdateNames} {state : Project} {branch : Branch}
    {head : Snapshot}
    (updatable : Updatable project specification before names state branch head)
    (rebuilt : Branch) :
    (state.putBranch names.resolution rebuilt).Unresolved names.live names.resolution where
  live := SortedMap.contains_insert_iff.2 (.inr (by simp [SortedMap.contains, updatable.stored]))
  resolution := SortedMap.contains_insert_iff.2 (.inl rfl)

/-- An update that reports a conflict leaves it unresolved. -/
theorem Workspaces.Updated.unresolved {project : String} {workspace : Specification}
    {before after : Session} {paths : List String}
    (updated : Updated project workspace before (.conflicting paths) after)
    (pinned : workspace.awaitsUser = false) :
    ∃ live resolution, workspace.Names live resolution ∧
      after.Holds project (·.Unresolved live resolution) := by
  cases updated with
  | conflicting updatable outdated conflicts minted =>
    exact ⟨_, _, updatable.namedFor pinned, _, SortedMap.get?_insert_self ..,
      updatable.unresolved _⟩

/-- Conflicts stay unresolved as long as neither branch is deleted. -/
theorem Step.unresolved {project : String} {workspace : Specification}
    {live resolution : String} {before after : Session} {request : Request} {answer : Answer}
    (step : Step before request answer after) (names : workspace.Names live resolution)
    (unresolved : before.Holds project (·.Unresolved live resolution))
    (kept : Exchange.deletes project workspace ⟨before, request, answer⟩ = false ∧
      Exchange.deletes project (workspace.withAccess .resolution) ⟨before, request, answer⟩ =
        false) : after.Holds project (·.Unresolved live resolution) := by
  obtain ⟨liveKept, resolutionKept⟩ := kept
  cases step with
  | query _ _ => exact unresolved
  | becomeUser user => exact unresolved
  | createProject created =>
    cases created with
    | intro absent minted => exact unresolved.advance.setProject_of_absent absent _
  | releaseVersion released =>
    cases released with
    | intro found absent isHead =>
      exact unresolved.setProject found fun _ unresolved => unresolved.of_branches_eq rfl
  | openPatch opened =>
    cases opened with
    | intro found absent isReleased =>
      exact unresolved.setProject found fun _ unresolved => unresolved.of_branches_eq rfl
  | commitToStream committed =>
    cases committed with
    | intro found isHead changed minted =>
      exact unresolved.advance.setProject found fun _ unresolved =>
        unresolved.of_branches_eq rfl
  | commitToWorkspace committed =>
    cases committed with
    | intro named found stored changed minted =>
      exact unresolved.advance.setProject found fun _ unresolved => unresolved.putBranch _ _
  | openReview opened =>
    cases opened with
    | intro named found stored isReview =>
      exact unresolved.setProject found fun _ unresolved => unresolved.of_branches_eq rfl
  | createWorkspace created =>
    cases created with
    | intro isLive named found absent isHead =>
      exact unresolved.setProject found fun _ unresolved => unresolved.putBranch _ _
  | deleteWorkspace deleted =>
    cases deleted with
    | @live name _ _ _ isLive named resolutionNamed found stored =>
      refine unresolved.setProject found fun same standing => ?_
      subst same
      have notLive : name ≠ live := by
        rintro rfl
        simp [Exchange.deletes, names.resolve_eq named] at liveKept
      have kept := standing.dropBranch notLive (names.ne_resolution named (by simp [isLive]))
      refine kept.dropBranch
        (names.ne_live resolutionNamed (show Access.resolution ≠ .live by decide)) ?_
      -- A live branch takes its own conflict resolution with it, and no other one.
      rintro rfl
      rw [← Specification.withAccess_of_access isLive] at named
      exact notLive (names.eq_live named resolutionNamed)
    | alone notLive named found stored =>
      refine unresolved.setProject found fun same unresolved =>
        unresolved.dropBranch (names.ne_live named notLive) ?_
      rintro rfl
      simp [Exchange.deletes, same, names.resolve_eq_resolution named] at resolutionKept
  | updateWorkspace updated =>
    cases updated with
    | unchanged updatable current => exact unresolved
    | moved updatable outdated clean idle =>
      exact unresolved.setProject updatable.found fun _ unresolved =>
        (unresolved.putBranch _ _).putBranch _ _
    | replayed updatable outdated clean carries minted =>
      exact unresolved.advance.setProject updatable.found fun _ unresolved =>
        (unresolved.putBranch _ _).putBranch _ _
    | conflicting updatable outdated conflicts minted =>
      exact unresolved.advance.setProject updatable.found fun _ unresolved =>
        unresolved.putBranch _ _
  | discardBackup discarded =>
    cases discarded with
    | intro named found stored =>
      exact unresolved.setProject found fun _ unresolved =>
        unresolved.dropBranch (names.ne_live named (show Access.backup ≠ .live by decide))
          (names.ne_resolution named (show Access.backup ≠ .resolution by decide))
  | recoverBackup recovered =>
    cases recovered with
    | intro named backupNamed found stored allowed =>
      have notLive := names.ne_live backupNamed (show Access.backup ≠ .live by decide)
      have notResolution :=
        names.ne_resolution backupNamed (show Access.backup ≠ .resolution by decide)
      exact unresolved.setProject found fun _ unresolved =>
        (unresolved.dropBranch notLive notResolution).putBranch _ _

/-- What harmless steps preserve lasts for a whole run of them. -/
theorem Session.Holds.after {project : String} {property : Project → Prop}
    {harmless : Exchange → Prop} {session : Session} {requests : List Request}
    (holds : session.Holds project property)
    (preserved : ∀ {before request answer after}, Step before request answer after →
      before.Holds project property → harmless ⟨before, request, answer⟩ →
        after.Holds project property)
    (all : ∀ exchange ∈ session.exchanges requests, harmless exchange) :
    (session.after requests).Holds project property := by
  have steps := session.steps_exchanges requests
  generalize session.exchanges requests = exchanges, session.after requests = last at *
  induction steps with
  | nil => exact holds
  | cons step rest ih =>
    rw [List.forall_mem_cons] at all
    exact ih (preserved step holds all.1) all.2

namespace Workspaces

/-- A settled workspace is not outdated, has no conflicts, and an update has nothing to do. -/
theorem untroubled_of_settled {project : String} {workspace : Specification}
    {live resolution : String} {session : Session} (names : workspace.Names live resolution)
    (settled : session.Holds project (·.Settled project workspace.stream live resolution)) :
    isOutdated project workspace session = .ok false ∧
      isInConflict project workspace session = .ok false ∧
      (update project workspace).Gives session .unchanged session := by
  obtain ⟨state, found, ⟨branch, head, stored, isHead, current⟩, calm⟩ := settled
  have liveNamed := names.live session.currentUser
  have resolutionNamed := names.resolution session.currentUser
  obtain ⟨backup, backupNamed⟩ := BranchName.encode_withAccess liveNamed .backup
  have updatable : Updatable project workspace session ⟨live, backup, resolution⟩ state branch
      head :=
    { live := names.isLive, liveNamed, backupNamed, resolutionNamed, found, stored, calm, isHead }
  have isFound := updatable.find_eq
  refine ⟨?_, ?_, updatable.update_gives_unchanged current⟩
  · exact (isOutdated_eq_ok_iff isFound).2 ⟨head, isHead, by simp [current]⟩
  · rw [← Specification.withAccess_of_access names.isLive] at isFound
    exact (isInConflict_eq_ok_iff isFound).2
      ⟨resolution, resolutionNamed, SortedMap.contains_eq_false_iff.2 calm⟩

/-- An update of a workspace with unresolved conflicts is refused. -/
theorem update_fails_of_unresolved {project : String} {workspace : Specification}
    {live resolution : String} {session : Session} (names : workspace.Names live resolution)
    (unresolved : session.Holds project (·.Unresolved live resolution)) :
    (update project workspace).Fails session (.inConflictResolution workspace) := by
  obtain ⟨state, found, present, unresolved⟩ := unresolved
  obtain ⟨branch, stored⟩ := Option.isSome_iff_exists.1 present
  have liveNamed := names.live session.currentUser
  have resolutionNamed := names.resolution session.currentUser
  obtain ⟨backup, backupNamed⟩ := BranchName.encode_withAccess liveNamed .backup
  rw [← BranchName.encode_resolve_withAccess] at backupNamed resolutionNamed
  refine .bind (.refuseIf (by simp [names.isLive]) _ _) ?_
  refine .bind (.locate liveNamed) ?_
  refine .bind (.locate backupNamed) (.bind (.locate resolutionNamed) ?_)
  refine .bind (.project found) ?_
  refine .bind (.ofExcept (Project.branch_eq_ok_iff.2 stored) _) ?_
  rw [Specification.resolve_of_pinned names.pinned]
  exact .refuseIf unresolved _ _

end Workspaces

/-- After an update of a live workspace that leaves no user open, the following requests may be
any at all. If the update has reported no conflict and no later request has extended the stream,
deleted the workspace or recovered it, then the workspace is not outdated, it has no conflicts,
and another update reports that there is nothing to do and changes nothing in the session. If
the update has reported a conflict and no later request has deleted the live branch or its
conflict resolution, then another update is refused as conflicting. -/
theorem update_has_aftermath {project : String} {workspace : Specification}
    {session middle : Session} {report : UpdateReport} (pinned : workspace.awaitsUser = false)
    (gives : (Workspaces.update project workspace).Gives session report middle)
    (requests : List Request) :
    ((∀ paths, report ≠ .conflicting paths) →
      (∀ exchange ∈ middle.exchanges requests, exchange.disturbs project workspace = false) →
        Workspaces.isOutdated project workspace (middle.after requests) = .ok false ∧
        Workspaces.isInConflict project workspace (middle.after requests) = .ok false ∧
        (Workspaces.update project workspace).Gives (middle.after requests) .unchanged
          (middle.after requests)) ∧
    ∀ paths, report = .conflicting paths →
      (∀ exchange ∈ middle.exchanges requests, exchange.deletes project workspace = false ∧
        exchange.deletes project (workspace.withAccess .resolution) = false) →
          ∃ failure, failure.status = .conflict ∧
            (Workspaces.update project workspace).Fails (middle.after requests) failure := by
  obtain ⟨succeeded, rfl⟩ := gives
  have updated := (Workspaces.update_meets project workspace).of_ok succeeded
  generalize ((Workspaces.update project workspace).run session).session = middle at updated ⊢
  constructor
  · intro clean undisturbed
    obtain ⟨live, resolution, names, settled⟩ := updated.settled pinned clean
    exact Workspaces.untroubled_of_settled names
      (settled.after (fun step settled => step.settled names settled) undisturbed)
  · rintro paths rfl kept
    obtain ⟨live, resolution, names, unresolved⟩ := updated.unresolved pinned
    refine ⟨_, rfl, Workspaces.update_fails_of_unresolved names ?_⟩
    exact unresolved.after (fun step unresolved => step.unresolved names unresolved) kept

/-- A workspace that is updated and then changed is still at the head of its stream. When a
later update has found conflicts, the next one is refused, even though the backup was recovered
by force in between. -/
theorem update_has_aftermath_recovered :
    (∃ head middle, (Workspaces.update "p" Workspaces.sharedWorkspace).Gives
        ((Session.start none 13).after (conflictingRun.take 3)) (.updated head) middle ∧
      Workspaces.isOutdated "p" Workspaces.sharedWorkspace (middle.after
        [.commitToWorkspace "p" Workspaces.sharedWorkspace "ours" [.put "a::e" "ours"]]) =
          .ok false) ∧
    ∃ middle failure, (Workspaces.update "p" Workspaces.sharedWorkspace).Gives
        ((Session.start none 13).after (conflictingRun.take 6)) (.conflicting ["a::e"]) middle ∧
      failure.status = .conflict ∧
      (Workspaces.update "p" Workspaces.sharedWorkspace).Fails
        (middle.after [.recoverBackup "p" Workspaces.sharedWorkspace true]) failure := by
  constructor
  · have updates : ((Workspaces.update "p" Workspaces.sharedWorkspace).run
        ((Session.start none 13).after (conflictingRun.take 3))).result =
          .ok (.updated ⟨"5df7d957eb367f0c33ecf49ebc0be598059582a5"⟩) := by decide +kernel
    obtain ⟨calm, _⟩ := update_has_aftermath (by decide) ⟨updates, rfl⟩
      [.commitToWorkspace "p" Workspaces.sharedWorkspace "ours" [.put "a::e" "ours"]]
    exact ⟨_, _, ⟨updates, rfl⟩, (calm (by rintro paths ⟨⟩) (by decide +kernel)).1⟩
  · have conflicts : ((Workspaces.update "p" Workspaces.sharedWorkspace).run
        ((Session.start none 13).after (conflictingRun.take 6))).result =
          .ok (.conflicting ["a::e"]) := by decide +kernel
    obtain ⟨_, refused⟩ := update_has_aftermath (by decide) ⟨conflicts, rfl⟩
      [.recoverBackup "p" Workspaces.sharedWorkspace true]
    obtain ⟨failure, isConflict, fails⟩ := refused _ rfl (by decide +kernel)
    exact ⟨_, failure, ⟨conflicts, rfl⟩, isConflict, fails⟩

end Workstream
