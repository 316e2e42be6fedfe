import Workstream.Proofs.Store.Outdated

/-!
# Two ways to recover a workspace

A backup can take the place of a live workspace by force, or the live workspace can be deleted
first and the backup recovered then. Both ways end with the same live branch and without a
backup, and they differ in one thing: a deletion takes the conflict resolution of the live
workspace with it, and a recovery by force leaves it behind, beside a live branch that it was
not made for.
-/

namespace Workstream

/-- What there is before a backup takes the place of a live workspace. -/
structure Backups.Replaceable (project : String) (specification : Specification)
    (session : Session) (names : Workspaces.UpdateNames) (state : Project) (old kept : Branch) :
    Prop where
  liveNamed : BranchName.encode session.currentUser (specification.withAccess .live) =
    .ok names.live
  backupNamed : BranchName.encode session.currentUser (specification.withAccess .backup) =
    .ok names.backup
  resolutionNamed : BranchName.encode session.currentUser
    (specification.withAccess .resolution) = .ok names.resolution
  found : session.store.projects.get? project = some state
  liveStored : state.branches.get? names.live = some old
  backupStored : state.branches.get? names.backup = some kept

/-- A backup can take the place of a live workspace when both are found. -/
theorem Backups.replaceable_of_find {project : String} {specification : Specification}
    {session : Session} {live backup : Workspaces.Found}
    (isLive : Workspaces.find project (specification.withAccess .live) session = .ok live)
    (isBackup : Workspaces.find project (specification.withAccess .backup) session =
      .ok backup) :
    ∃ names, Replaceable project specification session names live.project live.branch
      backup.branch := by
  obtain ⟨liveNamed, _, found, liveStored⟩ := Workspaces.find_eq_ok_iff.1 isLive
  obtain ⟨backupNamed, _, backupFound, backupStored⟩ := Workspaces.find_eq_ok_iff.1 isBackup
  obtain ⟨resolution, resolutionNamed⟩ := BranchName.encode_withAccess liveNamed .resolution
  have same : live.project = backup.project := Option.some.inj (found.symm.trans backupFound)
  rw [← same] at backupStored
  exact ⟨⟨live.name, backup.name, resolution⟩, liveNamed, backupNamed, resolutionNamed, found,
    liveStored, backupStored⟩

namespace Project

/-- The project in which a branch has taken the place of a live workspace. -/
def restore (state : Project) (names : Workspaces.UpdateNames) (kept : Branch) : Project :=
  (state.dropBranch names.backup).putBranch names.live kept

/-- The project without a live workspace and its conflict resolution. -/
def dropLive (state : Project) (names : Workspaces.UpdateNames) : Project :=
  (state.dropBranch names.live).dropBranch names.resolution

/-- A live branch that is replaced need not be dropped before, and it does not matter when the
conflict resolution is dropped. -/
theorem restore_dropLive (state : Project) {names : Workspaces.UpdateNames} (kept : Branch)
    (differs : names.resolution ≠ names.live) :
    (state.dropLive names).restore names kept =
      (state.restore names kept).dropBranch names.resolution := by
  have same : (((state.branches.erase names.live).erase names.resolution).erase
        names.backup).insert names.live kept =
      ((state.branches.erase names.backup).insert names.live kept).erase names.resolution := by
    apply SortedMap.ext
    intro name
    simp only [SortedMap.get?_insert, SortedMap.get?_erase, Std.compare_eq_iff_eq]
    by_cases isLive : name = names.live
    · simp [isLive, differs.symm]
    · by_cases isResolution : name = names.resolution <;> simp [isLive, isResolution, differs]
  exact congrArg (fun branches => { state with branches }) same

end Project

/-- Whether a workspace that is stored has conflicts is whether its conflict resolution is
stored. -/
theorem Workspaces.isInConflict_eq {project : String} {specification : Specification}
    {session : Session} {name resolution : String} {state : Project} {branch : Branch}
    (named : BranchName.encode session.currentUser (specification.withAccess .live) = .ok name)
    (resolutionNamed : BranchName.encode session.currentUser
      (specification.withAccess .resolution) = .ok resolution)
    (found : session.store.projects.get? project = some state)
    (stored : state.branches.get? name = some branch) :
    isInConflict project specification session = .ok (state.branches.contains resolution) :=
  (isInConflict_eq_ok_iff (find_eq_ok named found stored)).2 ⟨resolution, resolutionNamed, rfl⟩

namespace Backups.Replaceable

variable {project : String} {specification : Specification} {session : Session}
  {names : Workspaces.UpdateNames} {state : Project} {old kept : Branch}

/-- The conflict resolution is not the live branch. -/
theorem resolution_ne_live
    (replaceable : Replaceable project specification session names state old kept) :
    names.resolution ≠ names.live :=
  BranchName.encode_withAccess_ne (by decide) replaceable.resolutionNamed replaceable.liveNamed

/-- The backup is not the live branch. -/
theorem backup_ne_live
    (replaceable : Replaceable project specification session names state old kept) :
    names.backup ≠ names.live :=
  BranchName.encode_withAccess_ne (by decide) replaceable.backupNamed replaceable.liveNamed

/-- The backup is not the conflict resolution. -/
theorem backup_ne_resolution
    (replaceable : Replaceable project specification session names state old kept) :
    names.backup ≠ names.resolution :=
  BranchName.encode_withAccess_ne (by decide) replaceable.backupNamed
    replaceable.resolutionNamed

/-- A recovery leaves the conflict resolution where it is. -/
theorem contains_restore
    (replaceable : Replaceable project specification session names state old kept) :
    (state.restore names kept).branches.contains names.resolution =
      state.branches.contains names.resolution := by
  have unmoved : (state.restore names kept).branches.get? names.resolution =
      state.branches.get? names.resolution :=
    (SortedMap.get?_insert_of_ne _ _ replaceable.resolution_ne_live).trans
      (SortedMap.get?_erase_of_ne _ replaceable.backup_ne_resolution.symm)
  rw [SortedMap.contains, unmoved, SortedMap.contains]

/-- A recovery by force puts the backup in the place of the live workspace. -/
theorem forced (replaceable : Replaceable project specification session names state old kept) :
    (recover project specification true).Gives session ()
      (session.setProject project (state.restore names kept)) :=
  recover_succeeds (.intro replaceable.liveNamed replaceable.backupNamed replaceable.found
    replaceable.backupStored (.inl rfl))

/-- A deletion removes the live workspace and its conflict resolution. -/
theorem deleted (replaceable : Replaceable project specification session names state old kept) :
    (Workspaces.delete project (specification.withAccess .live)).Gives session ()
      (session.setProject project (state.dropLive names)) :=
  Workspaces.delete_succeeds (.live rfl replaceable.liveNamed replaceable.resolutionNamed
    replaceable.found replaceable.liveStored)

/-- A recovery after the deletion ends where a recovery by force ends, but without the conflict
resolution. -/
theorem recovered
    (replaceable : Replaceable project specification session names state old kept) :
    (recover project specification false).Gives
      (session.setProject project (state.dropLive names)) ()
      (session.setProject project
        ((state.restore names kept).dropBranch names.resolution)) := by
  have stored : (state.dropLive names).branches.get? names.backup = some kept := by
    refine (SortedMap.get?_erase_of_ne _ replaceable.backup_ne_resolution).trans ?_
    exact (SortedMap.get?_erase_of_ne _ replaceable.backup_ne_live).trans
      replaceable.backupStored
  have free : (state.dropLive names).branches.get? names.live = none := by
    refine (SortedMap.get?_erase_of_ne _ replaceable.resolution_ne_live.symm).trans ?_
    exact SortedMap.get?_erase_self ..
  have found : (session.setProject project (state.dropLive names)).store.projects.get? project =
      some (state.dropLive names) := SortedMap.get?_insert_self ..
  have recovered : Recovered project specification false
      (session.setProject project (state.dropLive names)) () _ :=
    .intro replaceable.liveNamed replaceable.backupNamed found stored (.inr free)
  have gives := recover_succeeds recovered
  rw [Session.setProject_setProject] at gives
  rw [← Project.restore_dropLive state kept replaceable.resolution_ne_live]
  exact gives

/-- Deleting the conflict resolution after a recovery by force makes up for the deletion of the
live workspace. -/
theorem resolved (replaceable : Replaceable project specification session names state old kept)
    (inConflict : state.branches.contains names.resolution) :
    (Workspaces.delete project (specification.withAccess .resolution)).Gives
      (session.setProject project (state.restore names kept)) ()
      (session.setProject project
        ((state.restore names kept).dropBranch names.resolution)) := by
  have present := (replaceable.contains_restore).trans inConflict
  obtain ⟨resolution, stored⟩ := Option.isSome_iff_exists.1 present
  have found : (session.setProject project (state.restore names kept)).store.projects.get?
      project = some (state.restore names kept) := SortedMap.get?_insert_self ..
  have notLive : (specification.withAccess .resolution).access ≠ .live :=
    show Access.resolution ≠ .live by decide
  have deleted : Workspaces.Deleted project (specification.withAccess .resolution)
      (session.setProject project (state.restore names kept)) () _ :=
    .alone notLive replaceable.resolutionNamed found stored
  have gives := Workspaces.delete_succeeds deleted
  rwa [Session.setProject_setProject] at gives

end Backups.Replaceable

/-- When the live branch and the backup of a workspace both exist, the backup can be recovered
by force, and it can also be recovered without force after the live workspace was deleted. A
recovery by force leaves the workspace in conflict exactly when it was in conflict before, and
after the deletion it never is. So both ways end in one session if the workspace was not in
conflict. If it was, they end in different ones, and what is missing after the recovery by force
is to delete the conflict resolution. -/
theorem forced_recovery_keeps_conflicts {project : String} {specification : Specification}
    {session : Session} {live backup : Workspaces.Found}
    (isLive : Workspaces.find project (specification.withAccess .live) session = .ok live)
    (isBackup : Workspaces.find project (specification.withAccess .backup) session =
      .ok backup) :
    ∃ forced deleted recovered,
      (Backups.recover project specification true).Gives session () forced ∧
      (Workspaces.delete project (specification.withAccess .live)).Gives session () deleted ∧
      (Backups.recover project specification false).Gives deleted () recovered ∧
      Workspaces.isInConflict project specification forced =
        Workspaces.isInConflict project specification session ∧
      Workspaces.isInConflict project specification recovered = .ok false ∧
      (Workspaces.isInConflict project specification session = .ok false →
        forced = recovered) ∧
      (Workspaces.isInConflict project specification session = .ok true →
        forced ≠ recovered ∧
        (Workspaces.delete project (specification.withAccess .resolution)).Gives forced ()
          recovered) := by
  obtain ⟨names, replaceable⟩ := Backups.replaceable_of_find isLive isBackup
  have before := Workspaces.isInConflict_eq replaceable.liveNamed replaceable.resolutionNamed
    replaceable.found replaceable.liveStored
  have afterForce : Workspaces.isInConflict project specification (session.setProject project
      (live.project.restore names backup.branch)) = .ok _ :=
    Workspaces.isInConflict_eq replaceable.liveNamed replaceable.resolutionNamed
      (SortedMap.get?_insert_self ..) (SortedMap.get?_insert_self ..)
  have afterDeletion : Workspaces.isInConflict project specification (session.setProject project
      ((live.project.restore names backup.branch).dropBranch names.resolution)) = .ok _ :=
    Workspaces.isInConflict_eq replaceable.liveNamed replaceable.resolutionNamed
      (SortedMap.get?_insert_self ..)
      ((SortedMap.get?_erase_of_ne _ replaceable.resolution_ne_live.symm).trans
        (SortedMap.get?_insert_self ..))
  rw [replaceable.contains_restore] at afterForce
  have gone : ((live.project.restore names backup.branch).dropBranch
      names.resolution).branches.contains names.resolution = false :=
    SortedMap.contains_eq_false_iff.2 (SortedMap.get?_erase_self ..)
  rw [gone] at afterDeletion
  refine ⟨_, _, _, replaceable.forced, replaceable.deleted, replaceable.recovered,
    afterForce.trans before.symm, afterDeletion, ?_, ?_⟩
  · intro calm
    have absent := replaceable.contains_restore.trans (Except.ok.inj (before.symm.trans calm))
    rw [Project.dropBranch_of_absent (SortedMap.contains_eq_false_iff.1 absent)]
  · intro inConflict
    have present := Except.ok.inj (before.symm.trans inConflict)
    refine ⟨fun same => ?_, replaceable.resolved present⟩
    rw [same, afterDeletion] at afterForce
    cases (Except.ok.inj afterForce).trans present

/-- A workspace with a backup and with conflicts is still in conflict when its backup was
recovered by force, and no longer when the conflict resolution is deleted as well. -/
theorem forced_recovery_keeps_conflicts_resolved :
    ∃ forced recovered,
      (Backups.recover "p" Workspaces.sharedWorkspace true).Gives
        ((Session.start none 13).after conflictingRun) () forced ∧
      Workspaces.isInConflict "p" Workspaces.sharedWorkspace forced = .ok true ∧
      (Workspaces.delete "p" (Workspaces.sharedWorkspace.withAccess .resolution)).Gives forced ()
        recovered ∧
      Workspaces.isInConflict "p" Workspaces.sharedWorkspace recovered = .ok false := by
  have inConflict : Workspaces.isInConflict "p" Workspaces.sharedWorkspace
      ((Session.start none 13).after conflictingRun) = .ok true := by decide +kernel
  have stored : (Workspaces.find "p" (Workspaces.sharedWorkspace.withAccess .live)
        ((Session.start none 13).after conflictingRun)).toBool ∧
      (Workspaces.find "p" (Workspaces.sharedWorkspace.withAccess .backup)
        ((Session.start none 13).after conflictingRun)).toBool := by decide +kernel
  cases isLive : Workspaces.find "p" (Workspaces.sharedWorkspace.withAccess .live)
      ((Session.start none 13).after conflictingRun) with
  | error failure => simp [isLive, Except.toBool] at stored
  | ok live =>
    cases isBackup : Workspaces.find "p" (Workspaces.sharedWorkspace.withAccess .backup)
        ((Session.start none 13).after conflictingRun) with
    | error failure => simp [isBackup, Except.toBool] at stored
    | ok backup =>
      obtain ⟨forced, deleted, recovered, gives, _, _, kept, resolved, _, apart⟩ :=
        forced_recovery_keeps_conflicts isLive isBackup
      exact ⟨forced, recovered, gives, kept.trans inConflict, (apart inConflict).2, resolved⟩

/-- A recovery by force is not the same as a deletion and a recovery: here both ways succeed,
but they end in different sessions, and after the recovery by force the workspace is in conflict
because of the conflict resolution of the branch that was replaced. -/
theorem recovery_routes_differ :
    ((Backups.recover "p" Workspaces.sharedWorkspace true).run
        ((Session.start none 13).after conflictingRun)).result = .ok () ∧
      ((Session.start none 13).after
        (conflictingRun ++ [.recoverBackup "p" Workspaces.sharedWorkspace true])) ≠
      ((Session.start none 13).after
        (conflictingRun ++ [.deleteWorkspace "p" Workspaces.sharedWorkspace,
          .recoverBackup "p" Workspaces.sharedWorkspace false])) ∧
      Workspaces.isInConflict "p" Workspaces.sharedWorkspace ((Session.start none 13).after
        (conflictingRun ++ [.recoverBackup "p" Workspaces.sharedWorkspace true])) = .ok true := by
  decide +kernel

end Workstream
