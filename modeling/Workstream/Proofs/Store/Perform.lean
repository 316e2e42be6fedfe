import Workstream.Proofs.Store.Step

/-!
# Operations follow their relations

Each operation of the store meets its relation of `Workstream.Proofs.Store.Step`, and so
does every request. A request that fails is the fault of its client and leaves the whole
session as it was, the commit number included.
-/

namespace Workstream

open Workstream.Action

namespace Projects

variable {session : Session}

theorem create_meets (project group artifact : String) :
    (create project group artifact).Meets session (Created project group artifact session) := by
  refine Meets.read (BlamesClient.ok session) fun current isCurrent => ?_
  obtain rfl := Except.ok.inj isCurrent
  refine Meets.refuseIf (by simp [Failure.status]) fun absent => ?_
  refine Meets.of_gives ?_ (.intro (SortedMap.contains_eq_false_iff.1 absent) rfl)
  refine (Gives.commit none firstMessage _ session).bind ?_
  exact (Gives.modifyStore _ _).bind ((Gives.inform _ _ _ _).bind (Gives.pure _ _))

theorem release_meets (project : String) (version : Version) :
    (release project version).Meets session (Released project version session) := by
  refine Meets.project fun state found => ?_
  refine Meets.refuseIf (by simp [Failure.status]) fun absent => ?_
  refine Meets.ofExcept (BlamesClient.head _ _ _) fun head isHead => ?_
  refine Meets.of_gives ?_ (.intro found (SortedMap.contains_eq_false_iff.1 absent) isHead)
  exact (Gives.modifyProject found _).bind ((Gives.inform _ _ _ _).bind (Gives.pure _ _))

theorem openPatch_meets (project : String) (version : Version) :
    (openPatch project version).Meets session (PatchOpened project version session) := by
  refine Meets.project fun state found => ?_
  refine Meets.refuseIf (by simp [Failure.status]) fun absent => ?_
  refine Meets.ofExcept (BlamesClient.release _ _ _) fun released isReleased => ?_
  refine Meets.of_gives ?_ (.intro found (SortedMap.contains_eq_false_iff.1 absent)
    (Project.release_eq_ok_iff.1 isReleased))
  exact (Gives.modifyProject found _).bind ((Gives.inform _ _ _ _).bind (Gives.pure _ _))

theorem commit_meets (project : String) (stream : DevelopmentStream) (message : String)
    (changes : List Change) : (commit project stream message changes).Meets session
      (Committed project stream message changes session) := by
  refine Meets.project fun state found => ?_
  refine Meets.ofExcept (BlamesClient.head _ _ _) fun head isHead => ?_
  refine Meets.ofExcept (BlamesClient.applyAll _ _) fun contents changed => ?_
  refine Meets.of_gives ?_ (.intro found isHead changed rfl)
  refine (Gives.commit (some head) message contents session).bind ?_
  have stillFound : session.advance.store.projects.get? project = some state := found
  exact (Gives.modifyProject stillFound _).bind (Gives.pure _ _)

end Projects

namespace Workspaces

variable {session : Session}

theorem create_meets (project : String) (specification : Specification) :
    (create project specification).Meets session (Created project specification session) := by
  refine Meets.refuseIf (by simp [Failure.status]) fun live => ?_
  refine Meets.locate fun name named => ?_
  refine Meets.project fun state found => ?_
  refine Meets.refuseIf (by simp [Failure.status]) fun absent => ?_
  refine Meets.ofExcept (BlamesClient.head _ _ _) fun head isHead => ?_
  refine Meets.of_gives ?_ (.intro (by simpa using live) named found
    (SortedMap.contains_eq_false_iff.1 absent) isHead)
  exact (Gives.modifyProject found _).bind ((Gives.inform _ _ _ _).bind (Gives.pure _ _))

/-- A commit that is pushed to a stored branch takes effect. -/
theorem pushCommit_gives {project name : String} {state : Project} {branch : Branch}
    (found : session.store.projects.get? project = some state)
    (stored : state.branches.get? name = some branch) (next : Snapshot) :
    (Action.modifyProject project (·.pushCommit name next)).Gives session ()
      (session.setProject project (state.putBranch name (branch.push next))) := by
  have pushed : state.pushCommit name next = state.putBranch name (branch.push next) := by
    simp [Project.pushCommit, stored]
  rw [← pushed]
  exact Gives.modifyProject found _

theorem commit_meets (project : String) (specification : Specification) (message : String)
    (changes : List Change) : (commit project specification message changes).Meets session
      (Committed project specification message changes session) := by
  refine Meets.read (BlamesClient.find _ _ _) fun found isFound => ?_
  obtain ⟨named, _, stateFound, stored⟩ := find_eq_ok_iff.1 isFound
  refine Meets.ofExcept (BlamesClient.applyAll _ _) fun contents changed => ?_
  refine Meets.of_gives ?_ (.intro named stateFound stored changed rfl)
  refine (Gives.commit (some found.branch.head) message contents session).bind ?_
  have stillFound : session.advance.store.projects.get? project = some found.project :=
    stateFound
  exact (pushCommit_gives stillFound stored _).bind (Gives.pure _ _)

/-- Deleting a companion that may be missing drops it. -/
theorem deleteCompanion_gives {project name : String} {state : Project}
    (found : session.store.projects.get? project = some state) :
    (deleteCompanion project (some name)).Gives session ()
      (session.setProject project (state.dropBranch name)) := by
  refine (Gives.project found).bind ?_
  cases stored : state.branches.contains name with
  | true => exact (Gives.modifyProject found _).bind (Gives.inform _ _ _ _)
  | false =>
    rw [Project.dropBranch_of_absent (SortedMap.contains_eq_false_iff.1 stored),
      Session.setProject_self found]
    exact ⟨rfl, rfl⟩

/-- Only a live workspace has a companion, which is its conflict resolution. -/
theorem companionName?_eq_ok {specification : Specification} {companion : Option String}
    (isCompanion : companionName? (specification.resolve session.currentUser) session =
      .ok companion) :
    (specification.access = .live ∧ ∃ resolution, companion = some resolution ∧
      BranchName.encode session.currentUser (specification.withAccess .resolution) =
        .ok resolution) ∨ specification.access ≠ .live ∧ companion = none := by
  unfold companionName? at isCompanion
  split at isCompanion
  · rename_i live
    obtain ⟨⟨resolution, _⟩, located, isCompanion⟩ := bind_eq_ok_iff.1 isCompanion
    have named := (Session.locate_eq_ok_iff.1 located).1
    rw [BranchName.encode_resolve_withAccess] at named
    exact .inl ⟨live, resolution, (Except.ok.inj isCompanion).symm, named⟩
  · rename_i notLive
    exact .inr ⟨notLive, (Except.ok.inj isCompanion).symm⟩

/-- The project without a branch and its companion, if it has one. -/
def dropAll (state : Project) (name : String) : Option String → Project
  | none => state.dropBranch name
  | some companion => (state.dropBranch name).dropBranch companion

/-- A branch and its companion are dropped one after the other, and this is reported. -/
theorem dropAll_gives {project name : String} {state : Project}
    (found : session.store.projects.get? project = some state) (companion : Option String)
    (event : LogEvent) :
    (Action.modifyProject project (·.dropBranch name) >>= fun _ =>
      deleteCompanion project companion >>= fun _ => Action.report event).Gives session ()
        (session.setProject project (dropAll state name companion)) := by
  have dropped : (deleteCompanion project companion).Gives
      (session.setProject project (state.dropBranch name)) ()
      (session.setProject project (dropAll state name companion)) := by
    cases companion with
    | none => exact ⟨rfl, rfl⟩
    | some other =>
      have stillFound : (session.setProject project (state.dropBranch name)).store.projects.get?
          project = some (state.dropBranch name) := by simp
      have dropped : (deleteCompanion project (some other)).Gives _ () _ :=
        deleteCompanion_gives stillFound
      rwa [Session.setProject_setProject] at dropped
  exact (Gives.modifyProject found _).bind (dropped.bind (Gives.report event _))

theorem delete_meets (project : String) (specification : Specification) :
    (delete project specification).Meets session (Deleted project specification session) := by
  refine Meets.locate fun name named => ?_
  refine Meets.read (BlamesClient.companionName? _ _) fun companion isCompanion => ?_
  refine Meets.project fun state found => ?_
  refine Meets.ofExcept (BlamesClient.branch _ _ _) fun branch stored => ?_
  have stored := Project.branch_eq_ok_iff.1 stored
  rcases companionName?_eq_ok isCompanion with
    ⟨live, resolution, rfl, resolutionNamed⟩ | ⟨notLive, rfl⟩
  · refine Meets.of_gives ?_ (.live live named resolutionNamed found stored)
    exact dropAll_gives found _ _
  · refine Meets.of_gives ?_ (.alone notLive named found stored)
    exact dropAll_gives found _ _

/-- A deletion that finds what it needs succeeds. -/
theorem delete_succeeds {project : String} {specification : Specification} {after : Session}
    (deleted : Deleted project specification session () after) :
    (delete project specification).Gives session () after := by
  cases deleted with
  | @live name resolution state branch live named resolutionNamed found stored =>
    rw [← BranchName.encode_resolve_withAccess] at resolutionNamed
    have companion : companionName? (specification.resolve session.currentUser) session =
        .ok (some resolution) := by
      have isLive : (specification.resolve session.currentUser).access = .live := live
      rw [companionName?, if_pos isLive]
      exact bind_eq_ok_iff.2 ⟨_, Session.locate_eq_ok_iff.2 ⟨resolutionNamed, rfl⟩, rfl⟩
    refine (Gives.locate named).bind ((Gives.read companion).bind ?_)
    refine (Gives.project found).bind ?_
    refine (Gives.ofExcept (Project.branch_eq_ok_iff.2 stored) _).bind ?_
    exact dropAll_gives found _ _
  | @alone name state branch notLive named found stored =>
    have companion : companionName? (specification.resolve session.currentUser) session =
        .ok none := if_neg notLive
    refine (Gives.locate named).bind ((Gives.read companion).bind ?_)
    refine (Gives.project found).bind ?_
    refine (Gives.ofExcept (Project.branch_eq_ok_iff.2 stored) _).bind ?_
    exact dropAll_gives found _ _

/-- When there is nothing to carry over, a replay is the head of the stream alone. -/
theorem replay_gives_of_idle {head : Snapshot} {merge : Merge}
    (idle : merge.carriesOver = false) :
    (replay head merge).Gives session (.fresh head) session := by
  rw [replay, if_neg (by simp [idle])]
  exact Gives.pure _ _

/-- What is carried over is committed on the head of the stream. -/
theorem replay_gives_of_carriesOver {head : Snapshot} {merge : Merge}
    (carries : merge.carriesOver = true) : (replay head merge).Gives session
      { base := head, commits := [session.minted (some head) replayMessage merge.contents] }
      session.advance := by
  rw [replay, if_pos carries]
  exact (Gives.commit _ _ _ _).bind (Gives.pure _ _)

section

variable {project : String} {state : Project} {branch : Branch} {head : Snapshot}

/-- Without conflicts the old branch becomes the backup and is replaced by its replay. -/
theorem moveTo_gives_of_clean (names : UpdateNames) {updated : Branch} {current : Session}
    (clean : (updateMerge branch head).conflicts = [])
    (replayed : (replay head (updateMerge branch head)).Gives session updated current)
    (found : current.store.projects.get? project = some state) :
    (moveTo project names branch head).Gives session (.updated updated.head.revision.id)
      (current.setProject project
        ((state.putBranch names.backup branch).putBranch names.live updated)) := by
  change (if (updateMerge branch head).conflicts.isEmpty then
      replay head (updateMerge branch head) >>= replace project names branch
    else enterResolution project names head (updateMerge branch head)).Gives session _ _
  rw [if_pos (List.isEmpty_iff.2 clean)]
  exact replayed.bind
    ((Gives.modifyProject found _).bind ((Gives.inform _ _ _ _).bind (Gives.pure _ _)))

/-- With conflicts a resolution is set up by a new revision. -/
theorem moveTo_gives_of_conflicts (names : UpdateNames)
    (conflicts : (updateMerge branch head).conflicts ≠ [])
    (found : session.store.projects.get? project = some state) :
    (moveTo project names branch head).Gives session
      (.conflicting (updateMerge branch head).conflicts)
      (session.advance.setProject project (state.putBranch names.resolution
        { base := head
          commits := [session.minted (some head) resolutionMessage
            (updateMerge branch head).contents] })) := by
  change (if (updateMerge branch head).conflicts.isEmpty then
      replay head (updateMerge branch head) >>= replace project names branch
    else enterResolution project names head (updateMerge branch head)).Gives session _ _
  rw [if_neg fun empty => conflicts (List.isEmpty_iff.1 empty)]
  have stillFound : session.advance.store.projects.get? project = some state := found
  exact (Gives.commit _ _ _ _).bind
    ((Gives.modifyProject stillFound _).bind ((Gives.report _ _).bind (Gives.pure _ _)))

end

/-- What is left of an update after its checks follows the relation and cannot fail. -/
theorem settle_gives {project : String} {specification : Specification} {names : UpdateNames}
    {state : Project} {branch : Branch} {head : Snapshot}
    (updatable : Updatable project specification session names state branch head) :
    ∃ report after, (if branch.base.revision.id = head.revision.id then pure .unchanged
        else moveTo project names branch head : Action UpdateReport).Gives session report after ∧
      Updated project specification session report after := by
  have found := updatable.found
  by_cases current : branch.base.revision.id = head.revision.id
  · rw [if_pos current]
    exact ⟨_, _, Gives.pure _ _, .unchanged updatable current⟩
  rw [if_neg current]
  by_cases clean : (updateMerge branch head).conflicts = []
  · cases carries : (updateMerge branch head).carriesOver with
    | false =>
      have gives := moveTo_gives_of_clean names clean (replay_gives_of_idle carries) found
      exact ⟨_, _, gives, .moved updatable current clean carries⟩
    | true =>
      have gives := moveTo_gives_of_clean names clean (replay_gives_of_carriesOver carries) found
      exact ⟨_, _, gives, .replayed updatable current clean carries rfl⟩
  · exact ⟨_, _, moveTo_gives_of_conflicts names clean found,
      .conflicting updatable current clean rfl⟩

theorem update_meets (project : String) (specification : Specification) :
    (update project specification).Meets session (Updated project specification session) := by
  refine Meets.refuseIf (by simp [Failure.status]) fun live => ?_
  refine Meets.locate fun name named => ?_
  refine Meets.locate fun backup backupNamed => ?_
  refine Meets.locate fun resolution resolutionNamed => ?_
  refine Meets.project fun state found => ?_
  refine Meets.ofExcept (BlamesClient.branch _ _ _) fun branch stored => ?_
  refine Meets.refuseIf (by simp [Failure.status]) fun calm => ?_
  refine Meets.ofExcept (BlamesClient.head _ _ _) fun head isHead => ?_
  rw [BranchName.encode_resolve_withAccess] at backupNamed resolutionNamed
  have updatable : Updatable project specification session
      { live := name, backup, resolution } state branch head :=
    { live := by simpa using live
      liveNamed := named
      backupNamed, resolutionNamed, found
      stored := Project.branch_eq_ok_iff.1 stored
      calm := SortedMap.contains_eq_false_iff.1 calm
      isHead }
  obtain ⟨report, after, gives, updated⟩ := settle_gives updatable
  exact Meets.of_gives gives updated

/-- An update that finds what it needs succeeds. -/
theorem update_succeeds {project : String} {specification : Specification}
    {names : UpdateNames} {state : Project} {branch : Branch} {head : Snapshot}
    (updatable : Updatable project specification session names state branch head) :
    ∃ report after, (update project specification).Gives session report after ∧
      Updated project specification session report after := by
  obtain ⟨report, after, gives, updated⟩ := settle_gives updatable
  have backupNamed := updatable.backupNamed
  have resolutionNamed := updatable.resolutionNamed
  rw [← BranchName.encode_resolve_withAccess] at backupNamed resolutionNamed
  refine ⟨report, after, ?_, updated⟩
  refine (Gives.refuseIf (by simp [updatable.live]) _ _).bind ?_
  refine (Gives.locate updatable.liveNamed).bind ?_
  refine (Gives.locate backupNamed).bind ((Gives.locate resolutionNamed).bind ?_)
  refine (Gives.project updatable.found).bind ?_
  refine (Gives.ofExcept (Project.branch_eq_ok_iff.2 updatable.stored) _).bind ?_
  refine (Gives.refuseIf (SortedMap.contains_eq_false_iff.2 updatable.calm) _ _).bind ?_
  exact (Gives.ofExcept updatable.isHead _).bind gives

end Workspaces

section

variable {session : Session}

theorem Backups.discard_meets (project : String) (specification : Specification) :
    (discard project specification).Meets session (Discarded project specification session) := by
  refine Meets.read (BlamesClient.find _ _ _) fun found isFound => ?_
  obtain ⟨named, _, stateFound, stored⟩ := Workspaces.find_eq_ok_iff.1 isFound
  refine Meets.of_gives ?_ (.intro named stateFound stored)
  exact (Gives.modifyProject stateFound _).bind (Gives.inform _ _ _ _)

theorem Backups.recover_meets (project : String) (specification : Specification) (force : Bool) :
    (recover project specification force).Meets session
      (Recovered project specification force session) := by
  refine Meets.locate fun name named => ?_
  refine Meets.read (BlamesClient.find _ _ _) fun found isFound => ?_
  obtain ⟨backupNamed, _, stateFound, stored⟩ := Workspaces.find_eq_ok_iff.1 isFound
  refine Meets.refuseIf (by simp [Failure.status]) fun free => ?_
  have allowed : force = true ∨ found.project.branches.get? name = none := by
    cases force with
    | true => exact .inl rfl
    | false => exact .inr (SortedMap.contains_eq_false_iff.1 (by simpa using free))
  refine Meets.of_gives ?_ (.intro named backupNamed stateFound stored allowed)
  exact (Gives.modifyProject stateFound _).bind (Gives.inform _ _ _ _)

/-- A recovery that finds what it needs succeeds. -/
theorem Backups.recover_succeeds {project : String} {specification : Specification}
    {force : Bool} {after : Session}
    (recovered : Recovered project specification force session () after) :
    (recover project specification force).Gives session () after := by
  cases recovered with
  | @intro name backup state branch named backupNamed found stored allowed =>
    have free : (!force && state.branches.contains name) = false := by
      rcases allowed with rfl | absent
      · rfl
      · rw [SortedMap.contains_eq_false_iff.2 absent, Bool.and_false]
    refine (Gives.locate named).bind ?_
    refine (Gives.read (Workspaces.find_eq_ok backupNamed found stored)).bind ?_
    refine (Gives.refuseIf free _ _).bind ?_
    exact (Gives.modifyProject found _).bind (Gives.inform _ _ _ _)

theorem Reviews.create_meets (project : String) (specification : Specification) :
    (create project specification).Meets session (Opened project specification session) := by
  refine Meets.read (BlamesClient.find _ _ _) fun found isFound => ?_
  obtain ⟨named, resolved, stateFound, stored⟩ := Workspaces.find_eq_ok_iff.1 isFound
  obtain ⟨name, other, state, branch⟩ := found
  simp only at resolved
  subst resolved
  refine Meets.of_gives ?_ (.intro named stateFound stored rfl)
  exact (Gives.modifyProject stateFound _).bind ((Gives.inform _ _ _ _).bind (Gives.pure _ _))

end

namespace BlamesClient

theorem review (project : Project) (name : String) (stream : DevelopmentStream) (id : String) :
    BlamesClient (project.review name stream id) := by
  unfold Project.review
  split
  · split
    · exact ok _
    · exact error (by simp [Failure.status])
  · exact error (by simp [Failure.status])

theorem findReview (project : String) (stream : DevelopmentStream) (id : String)
    (session : Session) : BlamesClient (Reviews.find project stream id session) :=
  bind (BlamesClient.project _ _) fun _ _ => review _ _ _ _

theorem listFor (viewer : Option String) (project : String) (stream : DevelopmentStream)
    (kinds : List Ownership) (session : Session) :
    BlamesClient (Workspaces.listFor viewer project stream kinds session) :=
  bind (BlamesClient.project _ _) fun _ _ => bind (history _ _ _) fun _ _ => ok _

theorem list (project : String) (stream : DevelopmentStream) (kinds : List Ownership)
    (session : Session) : BlamesClient (Workspaces.list project stream kinds session) := by
  unfold Workspaces.list
  split <;> exact listFor _ _ _ _ _

theorem released (store : Store) (dependency : Dependency) :
    BlamesClient (store.released dependency) :=
  bind (BlamesClient.project _ _) fun _ _ => release _ _ _

theorem follow (store : Store) (followed : SortedSet Dependency) (pending : List Dependency) :
    BlamesClient (Dependencies.follow store followed pending) := by
  fun_induction Dependencies.follow store followed pending with
  | case1 => exact ok _
  | case2 _ _ _ _ ih => exact ih
  | case3 _ dependency _ _ failure failed => exact error (released store dependency failure failed)
  | case4 _ _ _ _ _ _ ih => exact ih

theorem ofRevision (project : String) (specification : Specification) (revision : String)
    (transitive : Bool) (session : Session) :
    BlamesClient (Dependencies.ofRevision project specification revision transitive session) := by
  refine bind (find _ _ _) fun found _ => ?_
  split
  · exact error (by simp [Failure.status])
  · split
    · exact follow _ _ _
    · exact ok _

theorem ofStreamRevision (project : String) (stream : DevelopmentStream) (revision : String)
    (session : Session) :
    BlamesClient (Configurations.ofStreamRevision project stream revision session) := by
  refine bind (BlamesClient.project _ _) fun _ _ => bind (history _ _ _) fun _ _ => ?_
  split
  · exact ok _
  · exact error (by simp [Failure.status])

theorem ofWorkspaceRevision (project : String) (specification : Specification)
    (revision : String) (session : Session) :
    BlamesClient (Configurations.ofWorkspaceRevision project specification revision session) := by
  refine bind (find _ _ _) fun _ _ => ?_
  split
  · exact ok _
  · exact error (by simp [Failure.status])

end BlamesClient

/-- An answered query is a step that leaves the session alone. -/
theorem Action.Meets.step_of_query {Result : Type} {request : Request}
    {query : Session → Except Failure Result} {transform : Result → Answer}
    (performs : request.perform = transform <$> Action.read query)
    (isQuery : request.isQuery = true) {session : Session} (blames : BlamesClient (query session)) :
    request.perform.Meets session (Step session request) := by
  have looked : request.perform.Meets session fun answer after =>
      ∃ result, query session = .ok result ∧ answer = transform result ∧ after = session := by
    rw [performs]
    exact (Meets.query blames).map fun result after ⟨found, same⟩ => ⟨result, found, rfl, same⟩
  cases value : (request.perform.run session).result with
  | error failure => simpa only [Meets, value] using looked.of_error value
  | ok answer =>
    obtain ⟨_, _, _, same⟩ := looked.of_ok value
    simp only [Meets, value]
    exact same.symm ▸ .query isQuery value

/-- A request either takes a step or fails, and then the client is at fault and the session
is what it was. -/
theorem Request.perform_meets (request : Request) (session : Session) :
    request.perform.Meets session (Step session request) := by
  cases request with
  | becomeUser user => exact .becomeUser user
  | structureVersion => exact Meets.step_of_query rfl rfl (BlamesClient.ok _)
  | createProject => exact (Projects.create_meets _ _ _).map fun _ _ => .createProject
  | releaseVersion => exact (Projects.release_meets _ _).map fun _ _ => .releaseVersion
  | openPatch => exact (Projects.openPatch_meets _ _).map fun _ _ => .openPatch
  | commitToStream => exact (Projects.commit_meets _ _ _ _).map fun _ _ => .commitToStream
  | commitToWorkspace =>
    exact (Workspaces.commit_meets _ _ _ _).map fun _ _ => .commitToWorkspace
  | openReview => exact (Reviews.create_meets _ _).map fun _ _ => .openReview
  | listWorkspaces => exact Meets.step_of_query rfl rfl (BlamesClient.list _ _ _ _)
  | listAllWorkspaces => exact Meets.step_of_query rfl rfl (BlamesClient.listFor _ _ _ _ _)
  | getWorkspace =>
    exact Meets.step_of_query rfl rfl (.bind (.find _ _ _) fun _ _ => .ok _)
  | createWorkspace => exact (Workspaces.create_meets _ _).map fun _ _ => .createWorkspace
  | deleteWorkspace => exact (Workspaces.delete_meets _ _).map fun _ _ => .deleteWorkspace
  | updateWorkspace => exact (Workspaces.update_meets _ _).map fun _ _ => .updateWorkspace
  | isOutdated =>
    exact Meets.step_of_query rfl rfl
      (.bind (.find _ _ _) fun _ _ => .bind (.head _ _ _) fun _ _ => .ok _)
  | isInConflict =>
    exact Meets.step_of_query rfl rfl
      (.bind (.locate _ _) fun _ _ => .bind (.find _ _ _) fun _ _ => .ok _)
  | discardBackup => exact (Backups.discard_meets _ _).map fun _ _ => .discardBackup
  | recoverBackup => exact (Backups.recover_meets _ _ _).map fun _ _ => .recoverBackup
  | compareWithCreation =>
    exact Meets.step_of_query rfl rfl (.bind (.find _ _ _) fun _ _ => .ok _)
  | compareWithStream =>
    exact Meets.step_of_query rfl rfl
      (.bind (.find _ _ _) fun _ _ => .bind (.head _ _ _) fun _ _ => .ok _)
  | compareReviewWithStream =>
    exact Meets.step_of_query rfl rfl (.bind (.project _ _) fun _ _ =>
      .bind (.review _ _ _ _) fun _ _ => .bind (.head _ _ _) fun _ _ => .ok _)
  | compareReviewWithCreation =>
    exact Meets.step_of_query rfl rfl (.bind (.findReview _ _ _ _) fun _ _ => .ok _)
  | dependencies => exact Meets.step_of_query rfl rfl (.ofRevision _ _ _ _ _)
  | streamConfiguration =>
    exact Meets.step_of_query rfl rfl
      (.bind (.project _ _) fun _ _ => .bind (.head _ _ _) fun _ _ => .ok _)
  | streamRevisionConfiguration =>
    exact Meets.step_of_query rfl rfl (.ofStreamRevision _ _ _ _)
  | workspaceConfiguration =>
    exact Meets.step_of_query rfl rfl (.bind (.find _ _ _) fun _ _ => .ok _)
  | workspaceRevisionConfiguration =>
    exact Meets.step_of_query rfl rfl (.ofWorkspaceRevision _ _ _ _)
  | versionConfiguration =>
    exact Meets.step_of_query rfl rfl
      (.bind (.project _ _) fun _ _ => .bind (.release _ _ _) fun _ _ => .ok _)
  | reviewBaseConfiguration =>
    exact Meets.step_of_query rfl rfl (.bind (.findReview _ _ _ _) fun _ _ => .ok _)
  | reviewHeadConfiguration =>
    exact Meets.step_of_query rfl rfl (.bind (.findReview _ _ _ _) fun _ _ => .ok _)

end Workstream
