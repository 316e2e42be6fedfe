import Workstream.Proofs.Store.UpdateOutcome

/-!
# Conflict resolutions stand beside their workspaces

The live workspace and its conflict resolution are two branches under unrelated names. An
update sets the resolution up beside the workspace, and whatever removes the workspace
removes the resolution with it, so a resolution never stays behind alone. `Accompanied` is
this invariant, with one lemma for each way to change the branches of a project.

It is what makes a name safe to use again: a workspace that is created, be it for the first
time or after an earlier one of that name was deleted, has no conflicts to resolve.
-/

namespace Workstream

namespace Project

/-- Every conflict resolution has its live workspace beside it. -/
def Accompanied (project : Project) : Prop :=
  ∀ ⦃currentUser : Option String⦄ ⦃specification : Specification⦄ ⦃resolution : String⦄,
    BranchName.encode currentUser (specification.withAccess .resolution) = .ok resolution →
    project.branches.contains resolution →
    ∃ live, BranchName.encode currentUser (specification.withAccess .live) = .ok live ∧
      project.branches.contains live

namespace Accompanied

variable {project : Project} {currentUser : Option String} {specification : Specification}
  {name : String}

/-- A new project has no branches. -/
theorem start (first : Snapshot) : (Project.start first).Accompanied :=
  fun _ _ _ _ stored => nomatch stored

/-- A branch can be put under a name unless this leaves a conflict resolution alone. -/
theorem putBranch (accompanied : project.Accompanied) (branch : Branch)
    (attended : ∀ (currentUser : Option String) (specification : Specification),
      BranchName.encode currentUser (specification.withAccess .resolution) = .ok name →
      ∃ live, BranchName.encode currentUser (specification.withAccess .live) = .ok live ∧
        project.branches.contains live) : (project.putBranch name branch).Accompanied := by
  intro currentUser specification resolution named stored
  have kept : ∃ live,
      BranchName.encode currentUser (specification.withAccess .live) = .ok live ∧
        project.branches.contains live := by
    rcases SortedMap.contains_insert_iff.1 stored with rfl | stored
    · exact attended _ _ named
    · exact accompanied named stored
  obtain ⟨live, liveNamed, stored⟩ := kept
  exact ⟨live, liveNamed, SortedMap.contains_insert_iff.2 (.inr stored)⟩

/-- A branch that is no conflict resolution can be put under its name. -/
theorem putBranch_of_access_ne (accompanied : project.Accompanied)
    (named : BranchName.encode currentUser specification = .ok name)
    (differs : specification.access ≠ .resolution) (branch : Branch) :
    (project.putBranch name branch).Accompanied := by
  refine accompanied.putBranch branch fun otherUser other otherNamed => ?_
  exact absurd (BranchName.access_eq_of_encode named otherNamed) differs

/-- A branch can be put in place of another one. -/
theorem putBranch_of_contains (accompanied : project.Accompanied)
    (stored : project.branches.contains name) (branch : Branch) :
    (project.putBranch name branch).Accompanied :=
  accompanied.putBranch branch fun _ _ named => accompanied named stored

/-- A branch can be dropped unless this leaves its conflict resolution alone. -/
theorem dropBranch (accompanied : project.Accompanied)
    (unattended : ∀ (currentUser : Option String) (specification : Specification) resolution,
      BranchName.encode currentUser (specification.withAccess .live) = .ok name →
      BranchName.encode currentUser (specification.withAccess .resolution) = .ok resolution →
      ¬ project.branches.contains resolution) : (project.dropBranch name).Accompanied := by
  intro currentUser specification resolution named kept
  obtain ⟨_, stored⟩ := SortedMap.contains_erase_iff.1 kept
  obtain ⟨live, liveNamed, liveStored⟩ := accompanied named stored
  refine ⟨live, liveNamed, SortedMap.contains_erase_iff.2 ⟨?_, liveStored⟩⟩
  rintro rfl
  exact unattended _ _ _ liveNamed named stored

/-- A branch that is no live workspace can be dropped. -/
theorem dropBranch_of_access_ne (accompanied : project.Accompanied)
    (named : BranchName.encode currentUser specification = .ok name)
    (notLive : specification.access ≠ .live) : (project.dropBranch name).Accompanied := by
  refine accompanied.dropBranch fun otherUser other _ liveNamed _ => ?_
  exact absurd (BranchName.access_eq_of_encode named liveNamed) notLive

/-- A live workspace can be dropped together with its conflict resolution. -/
theorem dropWorkspace (accompanied : project.Accompanied) {live resolution : String}
    (liveNamed : BranchName.encode currentUser specification = .ok live)
    (named : BranchName.encode currentUser (specification.withAccess .resolution) =
      .ok resolution) : ((project.dropBranch live).dropBranch resolution).Accompanied := by
  intro otherUser other otherResolution otherNamed kept
  obtain ⟨differs, kept⟩ := SortedMap.contains_erase_iff.1 kept
  obtain ⟨_, stored⟩ := SortedMap.contains_erase_iff.1 kept
  obtain ⟨otherLive, otherLiveNamed, liveStored⟩ := accompanied otherNamed stored
  refine ⟨otherLive, otherLiveNamed, SortedMap.contains_erase_iff.2 ⟨?_,
    SortedMap.contains_erase_iff.2 ⟨?_, liveStored⟩⟩⟩
  · rintro rfl
    have same := BranchName.access_eq_of_encode otherLiveNamed named
    cases same
  · -- A second workspace under the dropped name would have the dropped resolution.
    rintro rfl
    have same := BranchName.encode_withAccess_of_encode liveNamed otherLiveNamed named
    exact differs (Except.ok.inj (otherNamed.symm.trans same))

end Accompanied

end Project

/-- In every project every conflict resolution has its live workspace beside it. -/
def Session.Accompanied (session : Session) : Prop :=
  ∀ name project, session.store.projects.get? name = some project → project.Accompanied

/-- A project can be set to one whose conflict resolutions are not alone. -/
theorem Session.Accompanied.setProject {session : Session} (accompanied : session.Accompanied)
    (name : String) {project : Project} (changed : project.Accompanied) :
    (session.setProject name project).Accompanied :=
  SortedMap.forall_get?_insert accompanied changed

/-- Counting a commit does not touch the projects. -/
theorem Session.Accompanied.advance {session : Session} (accompanied : session.Accompanied) :
    session.advance.Accompanied := accompanied

/-- Replacing a live workspace and keeping the old one as its backup sets up no conflict
resolution. -/
theorem Workspaces.Updatable.accompanied_replace {project : String}
    {specification : Specification} {before : Session} {names : UpdateNames} {state : Project}
    {branch : Branch} {head : Snapshot}
    (updatable : Updatable project specification before names state branch head)
    (accompanied : state.Accompanied) (updated : Branch) :
    ((state.putBranch names.backup branch).putBranch names.live updated).Accompanied := by
  have kept := accompanied.putBranch_of_access_ne updatable.backupNamed
    (show Access.backup ≠ .resolution by decide) branch
  refine kept.putBranch_of_access_ne updatable.liveNamed ?_ updated
  rw [updatable.live]
  decide

/-- A conflict resolution can be set up beside a live workspace. -/
theorem Workspaces.Updatable.accompanied_resolution {project : String}
    {specification : Specification} {before : Session} {names : UpdateNames} {state : Project}
    {branch : Branch} {head : Snapshot}
    (updatable : Updatable project specification before names state branch head)
    (accompanied : state.Accompanied) (resolution : Branch) :
    (state.putBranch names.resolution resolution).Accompanied := by
  refine accompanied.putBranch resolution fun otherUser other named => ?_
  have same := BranchName.encode_withAccess_of_encode updatable.resolutionNamed named
    updatable.named
  refine ⟨names.live, same, ?_⟩
  simp [SortedMap.contains, updatable.stored]

/-- A step leaves no conflict resolution alone. -/
theorem Step.accompanied {before after : Session} {request : Request} {answer : Answer}
    (step : Step before request answer after) (accompanied : before.Accompanied) :
    after.Accompanied := by
  cases step with
  | query _ _ => exact accompanied
  | becomeUser user => exact accompanied
  | createProject created =>
    cases created with
    | intro absent minted => exact accompanied.advance.setProject _ (.start _)
  | releaseVersion released =>
    cases released with
    | intro found absent isHead =>
      have branches : Project.Accompanied _ := accompanied _ _ found
      exact accompanied.setProject _ branches
  | openPatch opened =>
    cases opened with
    | intro found absent isReleased =>
      have branches : Project.Accompanied _ := accompanied _ _ found
      exact accompanied.setProject _ branches
  | commitToStream committed =>
    cases committed with
    | intro found isHead changed minted =>
      have branches : Project.Accompanied _ := accompanied _ _ found
      exact accompanied.advance.setProject _ branches
  | commitToWorkspace committed =>
    cases committed with
    | intro named found stored changed minted =>
      have branches := accompanied _ _ found
      exact accompanied.advance.setProject _
        (branches.putBranch_of_contains (by simp [SortedMap.contains, stored]) _)
  | openReview opened =>
    cases opened with
    | intro named found stored isReview =>
      have branches : Project.Accompanied _ := accompanied _ _ found
      exact accompanied.setProject _ branches
  | createWorkspace created =>
    cases created with
    | intro live named found absent isHead =>
      have branches := accompanied _ _ found
      exact accompanied.setProject _
        (branches.putBranch_of_access_ne named (by simp [live]) _)
  | deleteWorkspace deleted =>
    cases deleted with
    | live live named resolutionNamed found stored =>
      exact accompanied.setProject _ ((accompanied _ _ found).dropWorkspace named resolutionNamed)
    | alone notLive named found stored =>
      exact accompanied.setProject _
        ((accompanied _ _ found).dropBranch_of_access_ne named notLive)
  | updateWorkspace updated =>
    cases updated with
    | unchanged updatable current => exact accompanied
    | moved updatable outdated clean idle =>
      have branches := accompanied _ _ updatable.found
      exact accompanied.setProject _ (updatable.accompanied_replace branches _)
    | replayed updatable outdated clean carries minted =>
      have branches := accompanied _ _ updatable.found
      exact accompanied.advance.setProject _ (updatable.accompanied_replace branches _)
    | conflicting updatable outdated conflicts minted =>
      have branches := accompanied _ _ updatable.found
      exact accompanied.advance.setProject _ (updatable.accompanied_resolution branches _)
  | discardBackup discarded =>
    cases discarded with
    | intro named found stored =>
      exact accompanied.setProject _
        ((accompanied _ _ found).dropBranch_of_access_ne named
          (show Access.backup ≠ .live by decide))
  | recoverBackup recovered =>
    cases recovered with
    | intro named backupNamed found stored allowed =>
      have dropped := (accompanied _ _ found).dropBranch_of_access_ne backupNamed
        (show Access.backup ≠ .live by decide)
      exact accompanied.setProject _ (dropped.putBranch_of_access_ne named
        (show Access.live ≠ .resolution by decide) _)

/-- In a reachable session no conflict resolution is alone. -/
theorem Session.Reachable.accompanied {session : Session} (reachable : session.Reachable) :
    session.Accompanied :=
  reachable.invariant (fun _ _ _ _ stored => nomatch stored)
    fun _ accompanied step => step.accompanied accompanied

/-- Entities do not differ from themselves. -/
theorem Comparison.differencesOf_self (entities : Entities) :
    differencesOf entities entities = [] := by
  rw [differencesOf, Entities.edits_self]
  rfl

namespace Workspaces

/-- Neither the workspace nor its stream has moved on since the workspace was cut. -/
structure Untouched (project : String) (specification : Specification) (session : Session) :
    Prop where
  peaceful : isInConflict project specification session = .ok false
  current : isOutdated project specification session = .ok false
  unedited : ∃ comparison, creationComparison project specification session = .ok comparison ∧
    comparison.differences = [] ∧ comparison.configurationUpdated = false ∧
      comparison.fromRevision = comparison.toRevision
  settled : (update project specification).Gives session .unchanged session

/-- When no conflict resolution is alone, a workspace that does not exist has none. -/
theorem resolution_absent {state : Project} {currentUser : Option String}
    {specification : Specification} {name resolution : String} (accompanied : state.Accompanied)
    (live : specification.access = .live)
    (named : BranchName.encode currentUser specification = .ok name)
    (absent : state.branches.get? name = none)
    (resolutionNamed : BranchName.encode currentUser (specification.withAccess .resolution) =
      .ok resolution) : state.branches.get? resolution = none := by
  rw [← SortedMap.contains_eq_false_iff, Bool.eq_false_iff]
  intro stored
  obtain ⟨other, otherNamed, present⟩ := accompanied resolutionNamed stored
  rw [← Specification.withAccess_of_access live] at named
  obtain rfl : name = other := Except.ok.inj (named.symm.trans otherNamed)
  simp [SortedMap.contains, absent] at present

/-- A workspace at the head of its stream is left as it is by an update. -/
theorem Updatable.update_gives_unchanged {project : String} {specification : Specification}
    {session : Session} {names : UpdateNames} {state : Project} {branch : Branch}
    {head : Snapshot}
    (updatable : Updatable project specification session names state branch head)
    (current : branch.base.revision.id = head.revision.id) :
    (update project specification).Gives session .unchanged session := by
  obtain ⟨report, after, gives, updated⟩ := update_succeeds updatable
  cases updated with
  | unchanged _ _ => exact gives
  | moved other outdated _ _ =>
    obtain ⟨_, _, rfl, rfl⟩ := updatable.unique other
    exact absurd current outdated
  | replayed other outdated _ _ _ =>
    obtain ⟨_, _, rfl, rfl⟩ := updatable.unique other
    exact absurd current outdated
  | conflicting other outdated _ _ =>
    obtain ⟨_, _, rfl, rfl⟩ := updatable.unique other
    exact absurd current outdated

/-- A workspace is created by every specification that has its name. -/
theorem Created.of_encode_eq {project : String} {specification other : Specification}
    {before after : Session} {result : Workspace}
    (created : Created project specification before result after)
    (same : BranchName.encode before.currentUser other =
      BranchName.encode before.currentUser specification) :
    Created project other before result after := by
  cases created with
  | intro live named found absent isHead =>
    have otherNamed := same.trans named
    have stream := BranchName.stream_eq_of_encode named otherNamed
    rw [BranchName.resolve_eq_of_encode named otherNamed]
    refine .intro ?_ otherNamed found absent (stream ▸ isHead)
    rw [← live]
    exact BranchName.access_eq_of_encode otherNamed named

/-- A workspace that was just created is untouched. -/
theorem Created.untouched {project : String} {specification : Specification}
    {before after : Session} {result : Workspace}
    (created : Created project specification before result after)
    (accompanied : before.Accompanied) : Untouched project specification after := by
  cases created with
  | @intro name state head live named found absent isHead =>
    obtain ⟨backup, backupNamed⟩ := BranchName.encode_withAccess named .backup
    obtain ⟨resolution, resolutionNamed⟩ := BranchName.encode_withAccess named .resolution
    have isLive := Specification.withAccess_of_access live
    have differs : resolution ≠ name :=
      BranchName.encode_withAccess_ne (by decide) resolutionNamed (isLive.symm ▸ named)
    have unresolved := resolution_absent (accompanied _ _ found) live named absent
      resolutionNamed
    have calm : (state.putBranch name (.fresh head)).branches.get? resolution = none :=
      (SortedMap.get?_insert_of_ne _ _ differs).trans unresolved
    have updatable : Updatable project specification
        (before.setProject project (state.putBranch name (.fresh head)))
        ⟨name, backup, resolution⟩ (state.putBranch name (.fresh head)) (.fresh head) head :=
      { live, backupNamed, resolutionNamed, calm, isHead
        liveNamed := named
        found := SortedMap.get?_insert_self ..
        stored := SortedMap.get?_insert_self .. }
    have isFound := updatable.find_eq
    refine ⟨?_, ?_, ?_, updatable.update_gives_unchanged rfl⟩
    · rw [isInConflict_eq_ok_iff (isLive.symm ▸ isFound)]
      exact ⟨resolution, resolutionNamed, SortedMap.contains_eq_false_iff.2 calm⟩
    · rw [isOutdated_eq_ok_iff isFound]
      exact ⟨head, isHead, by simp [Branch.fresh]⟩
    · refine ⟨.of head head, bind_eq_ok_iff.2 ⟨_, isFound, rfl⟩, ?_, ?_, rfl⟩
      · exact Comparison.differencesOf_self head.contents.entities
      · simp [Comparison.of]

end Workspaces

/-- In a reachable session every conflict resolution has its live workspace beside it, so a
workspace that is created is free of what an earlier one of its name has left: it has no
conflicts to resolve, is at the head of its stream, differs in nothing from the revision that
it was cut from, and an update leaves it as it is. It does not matter by which specification
it is asked for, as long as this one has its name. -/
theorem new_workspace_untouched {session : Session} (reachable : session.Reachable) :
    (∀ name project, session.store.projects.get? name = some project →
      ∀ currentUser (specification : Specification) resolution,
        BranchName.encode currentUser (specification.withAccess .resolution) = .ok resolution →
        project.branches.contains resolution →
          ∃ live, BranchName.encode currentUser (specification.withAccess .live) = .ok live ∧
            project.branches.contains live) ∧
    ∀ name specification answer,
      ((Request.createWorkspace name specification).perform.run session).result = .ok answer →
        ∀ other, BranchName.encode session.currentUser other =
            BranchName.encode session.currentUser specification →
          Workspaces.Untouched name other
            ((Request.createWorkspace name specification).perform.run session).session := by
  have accompanied := reachable.accompanied
  refine ⟨fun name project found _ _ _ named => accompanied name project found named, ?_⟩
  intro name specification answer succeeded other same
  have step := ((Request.createWorkspace name specification).perform_meets session).of_ok succeeded
  generalize ((Request.createWorkspace name specification).perform.run session).session = after
    at step ⊢
  cases step with
  | query isQuery _ => cases isQuery
  | createWorkspace created => exact (created.of_encode_eq same).untouched accompanied

/-- A session in which a workspace was deleted while its conflicts were not resolved. -/
def abandonedSession : Session :=
  Workspaces.divergedSession.after
    [.updateWorkspace "p" Workspaces.sharedWorkspace,
      .deleteWorkspace "p" Workspaces.sharedWorkspace]

/-- The conflicts of a workspace that was deleted do not come back with its name. -/
theorem new_workspace_untouched_after_conflict :
    Workspaces.isInConflict "p" Workspaces.sharedWorkspace (Workspaces.divergedSession.after
      [.updateWorkspace "p" Workspaces.sharedWorkspace]) = .ok true ∧
    Workspaces.Untouched "p" Workspaces.sharedWorkspace (abandonedSession.after
      [.createWorkspace "p" Workspaces.sharedWorkspace]) := by
  have reachable : abandonedSession.Reachable :=
    ((Session.Reachable.start none 13).after _).after _
  have created : ((Request.createWorkspace "p" Workspaces.sharedWorkspace).perform.run
      abandonedSession).result.toBool := by decide +kernel
  refine ⟨by decide +kernel, ?_⟩
  cases value : ((Request.createWorkspace "p" Workspaces.sharedWorkspace).perform.run
      abandonedSession).result with
  | error failure => simp [value, Except.toBool] at created
  | ok answer => exact (new_workspace_untouched reachable).2 _ _ _ value _ rfl

end Workstream
