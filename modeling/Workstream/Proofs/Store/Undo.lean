import Workstream.Proofs.Store.CleanUpdate
import Workstream.Proofs.Store.Isolation
import Workstream.Proofs.Store.Recovery

/-!
# Recovery undoes an update

An update keeps the whole branch that it replaces as the backup, and a recovery puts a whole
branch back. So right after an update that reports success both ways to recover lead back to the
projects as they were before: the live branch has its base and its commits again, and so every
question about the workspace has its old answer. Two things are not brought back. The number of
the commit that the update may have made is not given out again, and a backup that was there
before the update is lost.
-/

namespace Workstream

/-- Putting the old branch back in the place of the one that has replaced it brings the project
back, but without a backup. -/
theorem Project.restore_replace {state : Project} {names : Workspaces.UpdateNames}
    {old : Branch} (stored : state.branches.get? names.live = some old)
    (differs : names.backup ≠ names.live) (updated : Branch) :
    (state.replace names old updated).restore names old = state.dropBranch names.backup := by
  have same : ((((state.branches.insert names.backup old).insert names.live updated).erase
        names.backup).insert names.live old) = state.branches.erase names.backup := by
    apply SortedMap.ext
    intro name
    simp only [SortedMap.get?_insert, SortedMap.get?_erase, Std.compare_eq_iff_eq]
    by_cases isLive : name = names.live
    · simp [isLive, differs.symm, stored]
    · by_cases isBackup : name = names.backup <;> simp [isLive, isBackup, differs]
  exact congrArg (fun branches => { state with branches }) same

/-- The session with one project and the count of commits replaced. -/
def Session.resume (session : Session) (name : String) (state : Project) (sequence : Nat) :
    Session :=
  { session with
    store := { projects := session.store.projects.insert name state, sequence } }

/-- A question that finds the same in two sessions has the same answer. -/
theorem Action.result_map_read_congr {Result Next : Type} {transform : Result → Next}
    {query : Session → Except Failure Result} {first second : Session}
    (same : query first = query second) :
    ((transform <$> Action.read query).run first).result =
      ((transform <$> Action.read query).run second).result := by
  rw [run_map_read, run_map_read, same]

/-- A question about a workspace. -/
inductive Request.AsksAbout (project : String) (workspace : Specification) : Request → Prop where
  | get : AsksAbout project workspace (.getWorkspace project workspace)
  | outdated : AsksAbout project workspace (.isOutdated project workspace)
  | inConflict : AsksAbout project workspace (.isInConflict project workspace)
  | creationComparison : AsksAbout project workspace (.compareWithCreation project workspace)
  | streamComparison : AsksAbout project workspace (.compareWithStream project workspace)
  | dependencies (revision : String) (transitive : Bool) :
      AsksAbout project workspace (.dependencies project workspace revision transitive)
  | configuration : AsksAbout project workspace (.workspaceConfiguration project workspace)
  | revisionConfiguration (revision : String) : AsksAbout project workspace
      (.workspaceRevisionConfiguration project workspace revision)

namespace Workspaces.Updatable

variable {project : String} {specification : Specification} {session : Session}
  {names : UpdateNames} {state : Project} {branch : Branch} {head : Snapshot}

/-- A workspace that can be updated is still found, with its branch, when its backup is gone. -/
theorem find_without_backup
    (updatable : Updatable project specification session names state branch head)
    (sequence : Nat) :
    find project specification (session.resume project (state.dropBranch names.backup) sequence) =
      .ok { name := names.live, specification := specification.resolve session.currentUser,
            project := state.dropBranch names.backup, branch } :=
  find_eq_ok updatable.liveNamed (SortedMap.get?_insert_self ..)
    ((SortedMap.get?_erase_of_ne _ updatable.backup_ne_live.symm).trans updatable.stored)

/-- Nothing that was released is a backup. -/
theorem released_without_backup
    (updatable : Updatable project specification session names state branch head)
    (sequence : Nat) (dependency : Dependency) :
    (session.resume project (state.dropBranch names.backup) sequence).store.released dependency =
      session.store.released dependency := by
  simp only [Session.resume, Store.released, Store.project]
  by_cases same : dependency.project = project
  · rw [same, SortedMap.get?_insert_self, updatable.found]
    rfl
  · rw [SortedMap.get?_insert_of_ne _ _ same]

/-- No question about a workspace is answered by its backup. -/
theorem answers_without_backup
    (updatable : Updatable project specification session names state branch head)
    (sequence : Nat) {request : Request} (asks : request.AsksAbout project specification) :
    (request.perform.run
        (session.resume project (state.dropBranch names.backup) sequence)).result =
      (request.perform.run session).result := by
  have before := updatable.find_eq
  have after := updatable.find_without_backup sequence
  have streams : (state.dropBranch names.backup).head = state.head := rfl
  have calm : (state.dropBranch names.backup).branches.contains names.resolution =
      state.branches.contains names.resolution := by
    simp [SortedMap.contains, SortedMap.get?_erase, updatable.calm]
  cases asks with
  | get =>
    refine Action.result_map_read_congr ?_
    simp only [get, before, after, ok_bind]
  | outdated =>
    refine Action.result_map_read_congr ?_
    simp only [isOutdated, before, after, streams, ok_bind]
  | inConflict =>
    obtain ⟨_, _, found, stored⟩ := find_eq_ok_iff.1 after
    have unresolved := isInConflict_eq updatable.named updatable.resolutionNamed
      updatable.found updatable.stored
    have again : isInConflict project specification
        (session.resume project (state.dropBranch names.backup) sequence) = .ok _ :=
      isInConflict_eq updatable.named updatable.resolutionNamed found stored
    exact Action.result_map_read_congr (again.trans (calm ▸ unresolved.symm))
  | creationComparison =>
    refine Action.result_map_read_congr ?_
    simp only [creationComparison, before, after, ok_bind]
  | streamComparison =>
    refine Action.result_map_read_congr ?_
    simp only [streamComparison, before, after, streams, ok_bind]
  | dependencies revision transitive =>
    refine Action.result_map_read_congr ?_
    simp only [Dependencies.ofRevision, before, after, ok_bind, Dependencies.closure,
      Dependencies.follow_eq (updatable.released_without_backup sequence)]
  | configuration =>
    refine Action.result_map_read_congr ?_
    simp only [Configurations.ofWorkspace, before, after, ok_bind]
  | revisionConfiguration revision =>
    refine Action.result_map_read_congr ?_
    simp only [Configurations.ofWorkspaceRevision, before, after, ok_bind]

end Workspaces.Updatable

namespace Workspaces.CleanUpdate

variable {project : String} {specification : Specification} {before after : Session}
  {names : UpdateNames} {state : Project} {branch rebuilt : Branch} {head : Snapshot}

/-- After a clean update the old branch can take the place of the new one. -/
theorem replaceable
    (clean : CleanUpdate project specification before names state branch head rebuilt after) :
    Backups.Replaceable project specification after names
      (state.replace names branch rebuilt) rebuilt branch := by
  have updatable := clean.updatable
  have user := clean.currentUser_eq
  exact
    { liveNamed := user ▸ updatable.named
      backupNamed := user ▸ updatable.backupNamed
      resolutionNamed := user ▸ updatable.resolutionNamed
      found := clean.found_after
      liveStored := Project.live_replace ..
      backupStored := Project.backup_replace state updatable.backup_ne_live .. }

/-- When the old branch is back, the session is what it was, except for the backup and for the
count of commits. -/
theorem setProject_restore
    (clean : CleanUpdate project specification before names state branch head rebuilt after) :
    after.setProject project ((state.replace names branch rebuilt).restore names branch) =
      before.resume project (state.dropBranch names.backup) after.store.sequence := by
  rw [Project.restore_replace clean.updatable.stored clean.updatable.backup_ne_live]
  obtain ⟨current, counted, rfl⟩ := clean.replaced
  rw [Session.setProject_setProject]
  rcases counted with rfl | rfl <;> rfl

/-- The count of commits is not turned back. -/
theorem sequence_le
    (clean : CleanUpdate project specification before names state branch head rebuilt after) :
    before.store.sequence ≤ after.store.sequence := by
  obtain ⟨current, rfl | rfl, rfl⟩ := clean.replaced
  · exact Nat.le_refl _
  · exact Nat.le_succ _

end Workspaces.CleanUpdate

/-- After an update that reports success the backup can be recovered by force, or the live
workspace can be deleted and the backup recovered without force. All of this succeeds, both ways
lead to one session, and this is the session before the update, except that the workspace has no
backup, whether it had one or not, and that the count of commits is that after the update. Every
question about the workspace is answered as before the update. -/
theorem recovery_undoes_update {project : String} {specification : Specification}
    {before updated : Session} {revision : RevisionId}
    (updates : (Workspaces.update project specification).Gives before (.updated revision)
      updated) :
    ∃ backup state deleted restored,
      BranchName.encode before.currentUser (specification.withAccess .backup) = .ok backup ∧
      before.store.projects.get? project = some state ∧
      (Backups.recover project specification true).Gives updated () restored ∧
      (Workspaces.delete project specification).Gives updated () deleted ∧
      (Backups.recover project specification false).Gives deleted () restored ∧
      restored = before.resume project (state.dropBranch backup) updated.store.sequence ∧
      before.store.sequence ≤ updated.store.sequence ∧
      ∀ request, Request.AsksAbout project specification request →
        (request.perform.run restored).result = (request.perform.run before).result := by
  obtain ⟨names, state, branch, head, rebuilt, clean, -⟩ :=
    Workspaces.CleanUpdate.of_gives updates
  have updatable := clean.updatable
  have replaceable := clean.replaceable
  have calm : (state.dropBranch names.backup).branches.get? names.resolution = none := by
    simp [SortedMap.get?_erase, updatable.calm]
  have forced := replaceable.forced
  have deleted := replaceable.deleted
  have recovered := replaceable.recovered
  rw [Specification.withAccess_of_access updatable.live] at deleted
  rw [Project.restore_replace updatable.stored updatable.backup_ne_live,
    Project.dropBranch_of_absent calm,
    ← Project.restore_replace updatable.stored updatable.backup_ne_live rebuilt] at recovered
  rw [clean.setProject_restore] at forced recovered
  exact ⟨names.backup, state, _, _, updatable.backupNamed, updatable.found, forced, deleted,
    recovered, rfl, clean.sequence_le, fun request asks =>
      updatable.answers_without_backup _ asks⟩

/-- A run after which a workspace has a backup and is behind its stream again. -/
def fallingBehindRun : List Request :=
  [.createProject "p" "g" "a", .createWorkspace "p" Workspaces.sharedWorkspace,
    .commitToStream "p" .mainLine "theirs" [.put "a::e" "theirs"],
    .updateWorkspace "p" Workspaces.sharedWorkspace,
    .commitToWorkspace "p" Workspaces.sharedWorkspace "ours" [.put "a::f" "ours"],
    .commitToStream "p" .mainLine "theirs" [.delete "a::e"]]

/-- The workspace is brought up to date and put back, although it had an older backup, and it is
behind its stream as before. -/
theorem recovery_undoes_update_behind :
    ∃ revision updated deleted restored,
      (Workspaces.find "p" (Workspaces.sharedWorkspace.withAccess .backup)
        ((Session.start none 13).after fallingBehindRun)).toBool ∧
      (Workspaces.update "p" Workspaces.sharedWorkspace).Gives
        ((Session.start none 13).after fallingBehindRun) (.updated revision) updated ∧
      (Backups.recover "p" Workspaces.sharedWorkspace true).Gives updated () restored ∧
      (Workspaces.delete "p" Workspaces.sharedWorkspace).Gives updated () deleted ∧
      (Backups.recover "p" Workspaces.sharedWorkspace false).Gives deleted () restored ∧
      ((Request.isOutdated "p" Workspaces.sharedWorkspace).perform.run restored).result =
        .ok (.flag true) := by
  have updates : ((Workspaces.update "p" Workspaces.sharedWorkspace).run
      ((Session.start none 13).after fallingBehindRun)).result =
        .ok (.updated ⟨"6535688cc51131392df42ccb88ff3961e9a338ee"⟩) := by decide +kernel
  have behind : ((Request.isOutdated "p" Workspaces.sharedWorkspace).perform.run
      ((Session.start none 13).after fallingBehindRun)).result = .ok (.flag true) := by
    decide +kernel
  obtain ⟨_, _, deleted, restored, _, _, forced, deletes, recovers, _, _, answers⟩ :=
    recovery_undoes_update ⟨updates, rfl⟩
  exact ⟨_, _, deleted, restored, by decide +kernel, ⟨updates, rfl⟩, forced, deletes, recovers,
    (answers _ .outdated).trans behind⟩

end Workstream
