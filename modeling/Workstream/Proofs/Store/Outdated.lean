import Workstream.Proofs.Store.Chronology
import Workstream.Proofs.Store.Integrity
import Workstream.Proofs.Store.Resolution

/-!
# Backups and conflicts are behind their streams

A backup is what an update has replaced, and an update only replaces what is outdated. A
conflict resolution stands beside a workspace that an update could not bring to the head of
its stream. In both cases the stream has gone on after the revision that the branch was cut
from, and since histories only grow, it has done so for good, whatever becomes of the branch.

Whether a workspace is outdated is decided by ids, so this shows only when the commits of the
run have different ones.
-/

namespace Workstream

namespace Project

/-- The stream has gone on after the revision. -/
def HasPassed (project : Project) (stream : DevelopmentStream) (snapshot : Snapshot) : Prop :=
  ∃ history, project.streams.get? stream = some history ∧ snapshot ∈ history.dropLast

/-- A stream that has gone on does not come back. -/
theorem HasPassed.of_grows {before after : Project} {stream : DevelopmentStream}
    {snapshot : Snapshot} (passed : before.HasPassed stream snapshot)
    (grows : Grows before after) : after.HasPassed stream snapshot := by
  obtain ⟨history, stored, listed⟩ := passed
  obtain ⟨more, extended⟩ := grows stream history stored
  refine ⟨history ++ more, extended, ?_⟩
  cases more with
  | nil => rwa [List.append_nil]
  | cons next later =>
    rw [List.dropLast_append_of_ne_nil (List.cons_ne_nil _ _)]
    exact List.mem_append_left _ (List.mem_of_mem_dropLast listed)

/-- A stream has passed every revision of its history that is not its head. -/
theorem InHistory.passed {project : Project} {name : String} {stream : DevelopmentStream}
    {snapshot head : Snapshot} (member : project.InHistory stream snapshot)
    (isHead : project.head name stream = .ok head)
    (differs : snapshot.revision.id ≠ head.revision.id) : project.HasPassed stream snapshot := by
  obtain ⟨history, stored, listed⟩ := member
  obtain ⟨known, isKnown, last⟩ := head_eq_ok_iff.1 isHead
  obtain rfl : history = known := Option.some.inj (stored.symm.trans isKnown)
  rw [← List.dropLast_append_getLast? head last, List.mem_append, List.mem_singleton] at listed
  rcases listed with listed | rfl
  · exact ⟨history, stored, listed⟩
  · exact absurd rfl differs

/-- A revision that its stream has passed differs from the head by its id when no id is twice
in the history. -/
theorem HasPassed.ne_head {project : Project} {stream : DevelopmentStream}
    {snapshot : Snapshot} (passed : project.HasPassed stream snapshot) (name : String)
    (distinct : ∀ history, project.streams.get? stream = some history →
      (history.map fun other => other.revision.id).Nodup) :
    ∃ head, project.head name stream = .ok head ∧
      snapshot.revision.id ≠ head.revision.id := by
  obtain ⟨history, stored, listed⟩ := passed
  have nonempty : history ≠ [] := by
    rintro rfl
    cases listed
  have last := List.getLast?_eq_some_getLast nonempty
  refine ⟨history.getLast nonempty, head_eq_ok_iff.2 ⟨history, stored, last⟩, ?_⟩
  have ids := distinct history stored
  rw [← List.dropLast_append_getLast nonempty, List.map_append, List.nodup_append] at ids
  exact ids.2.2 _ (List.mem_map_of_mem listed) _ (List.mem_singleton_self _)

end Project

/-- The streams have passed the revisions that backups and workspaces with conflicts were cut
from. -/
structure Project.Trailing (project : Project) : Prop where
  /-- The stream of a backup has gone on. -/
  backups : ∀ ⦃currentUser : Option String⦄ ⦃specification : Specification⦄ ⦃name : String⦄
    ⦃branch : Branch⦄,
    BranchName.encode currentUser (specification.withAccess .backup) = .ok name →
    project.branches.get? name = some branch →
    project.HasPassed specification.stream branch.base
  /-- The stream of a workspace with a conflict resolution has gone on. -/
  conflicts : ∀ ⦃currentUser : Option String⦄ ⦃specification : Specification⦄
    ⦃resolution live : String⦄ ⦃branch : Branch⦄,
    BranchName.encode currentUser (specification.withAccess .resolution) = .ok resolution →
    BranchName.encode currentUser (specification.withAccess .live) = .ok live →
    project.branches.contains resolution → project.branches.get? live = some branch →
    project.HasPassed specification.stream branch.base

namespace Project.Trailing

variable {project : Project} {currentUser : Option String} {specification : Specification}
  {name : String} {branch : Branch}

/-- A new project has no branches. -/
theorem start (first : Snapshot) : (Project.start first).Trailing where
  backups _ _ _ _ _ stored := nomatch stored
  conflicts _ _ _ _ _ _ _ _ stored := nomatch stored

/-- Branches that are left alone stay behind as histories grow. -/
theorem of_grows {before after : Project} (trailing : before.Trailing)
    (grows : Grows before after) (same : after.branches = before.branches) : after.Trailing where
  backups := by
    intro currentUser specification name branch named stored
    rw [same] at stored
    exact (trailing.backups named stored).of_grows grows
  conflicts := by
    intro currentUser specification resolution live branch resolutionNamed named present stored
    rw [same] at present stored
    exact (trailing.conflicts resolutionNamed named present stored).of_grows grows

/-- A branch can be dropped. -/
theorem dropBranch (trailing : project.Trailing) (name : String) :
    (project.dropBranch name).Trailing where
  backups := by
    intro currentUser specification other branch named stored
    exact trailing.backups named (SortedMap.get?_erase_eq_some_iff.1 stored).2
  conflicts := by
    intro currentUser specification resolution live branch resolutionNamed named present stored
    have present := (SortedMap.contains_erase_iff.1 present).2
    exact trailing.conflicts resolutionNamed named present
      (SortedMap.get?_erase_eq_some_iff.1 stored).2

/-- A branch can be put under a name if its stream has passed it where the name is that of a
backup or of a workspace with conflicts, and the stream of the workspace beside it where the
name is that of a conflict resolution. -/
theorem putBranch (trailing : project.Trailing)
    (backup : ∀ (currentUser : Option String) (specification : Specification),
      BranchName.encode currentUser (specification.withAccess .backup) = .ok name →
      project.HasPassed specification.stream branch.base)
    (live : ∀ (currentUser : Option String) (specification : Specification) resolution,
      BranchName.encode currentUser (specification.withAccess .live) = .ok name →
      BranchName.encode currentUser (specification.withAccess .resolution) = .ok resolution →
      project.branches.contains resolution →
      project.HasPassed specification.stream branch.base)
    (resolution : ∀ (currentUser : Option String) (specification : Specification) live other,
      BranchName.encode currentUser (specification.withAccess .resolution) = .ok name →
      BranchName.encode currentUser (specification.withAccess .live) = .ok live →
      project.branches.get? live = some other →
      project.HasPassed specification.stream other.base) :
    (project.putBranch name branch).Trailing where
  backups := by
    intro currentUser specification other found named stored
    rcases SortedMap.get?_insert_eq_some_iff.1 stored with ⟨rfl, rfl⟩ | ⟨_, stored⟩
    · exact backup _ _ named
    · exact trailing.backups named stored
  conflicts := by
    intro currentUser specification other liveName found otherNamed liveNamed present stored
    rcases SortedMap.get?_insert_eq_some_iff.1 stored with ⟨rfl, rfl⟩ | ⟨_, kept⟩
    · -- A live workspace and a conflict resolution do not share a name.
      rcases SortedMap.contains_insert_iff.1 present with rfl | present
      · exact absurd rfl (BranchName.encode_withAccess_ne (by decide) otherNamed liveNamed)
      · exact live _ _ _ liveNamed otherNamed present
    · rcases SortedMap.contains_insert_iff.1 present with rfl | present
      · exact resolution _ _ _ _ otherNamed liveNamed kept
      · exact trailing.conflicts otherNamed liveNamed present kept

/-- A branch that was cut from the same revision can be put in place of another one. -/
theorem putBranch_of_base_eq (trailing : project.Trailing) {old : Branch}
    (stored : project.branches.get? name = some old) (same : branch.base = old.base) :
    (project.putBranch name branch).Trailing := by
  have present : project.branches.contains name := by simp [SortedMap.contains, stored]
  refine trailing.putBranch ?_ ?_ ?_
  · intro otherUser other named
    rw [same]
    exact trailing.backups named stored
  · intro otherUser other resolution named resolutionNamed resolutionPresent
    rw [same]
    exact trailing.conflicts resolutionNamed named resolutionPresent stored
  · intro otherUser other live found named liveNamed liveStored
    exact trailing.conflicts named liveNamed present liveStored

/-- A branch that its stream has passed can be put under the name of a backup. -/
theorem putBackup (trailing : project.Trailing)
    (named : BranchName.encode currentUser (specification.withAccess .backup) = .ok name)
    (passed : project.HasPassed specification.stream branch.base) :
    (project.putBranch name branch).Trailing := by
  refine trailing.putBranch ?_ ?_ ?_
  · intro otherUser other otherNamed
    have stream := BranchName.stream_eq_of_encode named otherNamed
    exact stream ▸ passed
  · intro otherUser other resolution otherNamed
    cases BranchName.access_eq_of_encode named otherNamed
  · intro otherUser other live branch otherNamed
    cases BranchName.access_eq_of_encode named otherNamed

/-- A branch can be put under the name of a live workspace that has no conflicts, and one that
its stream has passed under the name of any live workspace. -/
theorem putLive (trailing : project.Trailing)
    (named : BranchName.encode currentUser (specification.withAccess .live) = .ok name)
    (passed : ∀ resolution,
      BranchName.encode currentUser (specification.withAccess .resolution) = .ok resolution →
      project.branches.contains resolution →
      project.HasPassed specification.stream branch.base) :
    (project.putBranch name branch).Trailing := by
  refine trailing.putBranch ?_ ?_ ?_
  · intro otherUser other otherNamed
    cases BranchName.access_eq_of_encode named otherNamed
  · intro otherUser other resolution otherNamed resolutionNamed present
    have stream := BranchName.stream_eq_of_encode named otherNamed
    have same := BranchName.encode_withAccess_of_encode otherNamed named resolutionNamed
    exact stream ▸ passed resolution same present
  · intro otherUser other live branch otherNamed
    cases BranchName.access_eq_of_encode named otherNamed

/-- A conflict resolution can be put beside a live workspace that its stream has passed. -/
theorem putResolution (trailing : project.Trailing) {live : String} {old : Branch}
    (named : BranchName.encode currentUser (specification.withAccess .resolution) = .ok name)
    (liveNamed : BranchName.encode currentUser (specification.withAccess .live) = .ok live)
    (stored : project.branches.get? live = some old)
    (passed : project.HasPassed specification.stream old.base) :
    (project.putBranch name branch).Trailing := by
  refine trailing.putBranch ?_ ?_ ?_
  · intro otherUser other otherNamed
    cases BranchName.access_eq_of_encode named otherNamed
  · intro otherUser other resolution otherNamed
    cases BranchName.access_eq_of_encode named otherNamed
  · intro otherUser other otherLive found otherNamed otherLiveNamed otherStored
    have stream := BranchName.stream_eq_of_encode named otherNamed
    have same := BranchName.encode_withAccess_of_encode named otherNamed liveNamed
    obtain rfl : live = otherLive := Except.ok.inj (same.symm.trans otherLiveNamed)
    obtain rfl : old = found := Option.some.inj (stored.symm.trans otherStored)
    exact stream ▸ passed

end Project.Trailing

/-- In every project the streams have gone on after what stays behind. -/
def Session.Trailing (session : Session) : Prop :=
  ∀ name project, session.store.projects.get? name = some project → project.Trailing

/-- A project can be set to one whose streams have gone on. -/
theorem Session.Trailing.setProject {session : Session} (trailing : session.Trailing)
    (name : String) {project : Project} (changed : project.Trailing) :
    (session.setProject name project).Trailing :=
  SortedMap.forall_get?_insert trailing changed

/-- Counting a commit does not touch the projects. -/
theorem Session.Trailing.advance {session : Session} (trailing : session.Trailing) :
    session.advance.Trailing := trailing

namespace Workspaces.Updatable

variable {project : String} {specification : Specification} {before : Session}
  {names : UpdateNames} {state : Project} {branch : Branch} {head : Snapshot}

/-- The stream of an outdated workspace has gone on. -/
theorem passed (updatable : Updatable project specification before names state branch head)
    (sound : state.Sound) (outdated : branch.base.revision.id ≠ head.revision.id) :
    state.HasPassed specification.stream branch.base :=
  (sound.inHistory_base updatable.liveNamed updatable.stored).passed updatable.isHead outdated

/-- The outdated workspace that becomes the backup has been passed, and what replaces it has no
conflicts. -/
theorem trailing_replace
    (updatable : Updatable project specification before names state branch head)
    (trailing : state.Trailing) (passed : state.HasPassed specification.stream branch.base)
    (updated : Branch) :
    ((state.putBranch names.backup branch).putBranch names.live updated).Trailing := by
  refine (trailing.putBackup updatable.backupNamed passed).putLive updatable.named ?_
  intro resolution named present
  obtain rfl : names.resolution = resolution :=
    Except.ok.inj (updatable.resolutionNamed.symm.trans named)
  rcases SortedMap.contains_insert_iff.1 present with same | present
  · exact absurd same (BranchName.encode_withAccess_ne (by decide) named updatable.backupNamed)
  · simp [SortedMap.contains, updatable.calm] at present

end Workspaces.Updatable

/-- A step leaves behind only what the streams have passed. -/
theorem Step.trailing {before after : Session} {request : Request} {answer : Answer}
    (step : Step before request answer after) (sound : before.Sound)
    (accompanied : before.Accompanied) (trailing : before.Trailing) : after.Trailing := by
  cases step with
  | query _ _ => exact trailing
  | becomeUser user => exact trailing
  | createProject created =>
    cases created with
    | intro absent minted => exact trailing.advance.setProject _ (.start _)
  | releaseVersion released =>
    cases released with
    | intro found absent isHead =>
      exact trailing.setProject _ ((trailing _ _ found).of_grows (.of_streams_eq rfl) rfl)
  | openPatch opened =>
    cases opened with
    | intro found absent isReleased =>
      exact trailing.setProject _ ((trailing _ _ found).of_grows (.addPatch absent _) rfl)
  | commitToStream committed =>
    cases committed with
    | intro found isHead changed minted =>
      exact trailing.advance.setProject _
        ((trailing _ _ found).of_grows (.pushRevision _ _ _) rfl)
  | commitToWorkspace committed =>
    cases committed with
    | intro named found stored changed minted =>
      exact trailing.advance.setProject _ ((trailing _ _ found).putBranch_of_base_eq stored rfl)
  | openReview opened =>
    cases opened with
    | intro named found stored isReview =>
      exact trailing.setProject _ ((trailing _ _ found).of_grows (.of_streams_eq rfl) rfl)
  | createWorkspace created =>
    cases created with
    | intro live named found absent isHead =>
      have isLive := Specification.withAccess_of_access live
      refine trailing.setProject _ ((trailing _ _ found).putLive (isLive.symm ▸ named) ?_)
      intro resolution resolutionNamed present
      have unresolved := Workspaces.resolution_absent (accompanied _ _ found) live named absent
        resolutionNamed
      simp [SortedMap.contains, unresolved] at present
  | deleteWorkspace deleted =>
    cases deleted with
    | live live named resolutionNamed found stored =>
      exact trailing.setProject _ (((trailing _ _ found).dropBranch _).dropBranch _)
    | alone notLive named found stored =>
      exact trailing.setProject _ ((trailing _ _ found).dropBranch _)
  | updateWorkspace updated =>
    cases updated with
    | unchanged updatable current => exact trailing
    | moved updatable outdated clean idle =>
      have passed := updatable.passed (sound _ _ updatable.found) outdated
      exact trailing.setProject _
        (updatable.trailing_replace (trailing _ _ updatable.found) passed _)
    | replayed updatable outdated clean carries minted =>
      have passed := updatable.passed (sound _ _ updatable.found) outdated
      exact trailing.advance.setProject _
        (updatable.trailing_replace (trailing _ _ updatable.found) passed _)
    | conflicting updatable outdated conflicts minted =>
      have passed := updatable.passed (sound _ _ updatable.found) outdated
      exact trailing.advance.setProject _ ((trailing _ _ updatable.found).putResolution
        updatable.resolutionNamed updatable.named updatable.stored passed)
  | discardBackup discarded =>
    cases discarded with
    | intro named found stored =>
      exact trailing.setProject _ ((trailing _ _ found).dropBranch _)
  | recoverBackup recovered =>
    cases recovered with
    | intro named backupNamed found stored allowed =>
      have passed := (trailing _ _ found).backups backupNamed stored
      exact trailing.setProject _
        (((trailing _ _ found).dropBranch _).putLive named fun _ _ _ => passed)

/-- In a reachable session the streams have gone on after what stays behind. -/
theorem Session.Reachable.trailing {session : Session} (reachable : session.Reachable) :
    session.Trailing :=
  reachable.invariant (fun _ _ _ _ stored => nomatch stored) fun reachable trailing step =>
    step.trailing reachable.sound reachable.accompanied trailing

section

variable {session : Session} {commits : List Commit} {project : String}
  {specification : Specification}

/-- A branch that its stream has passed is outdated when no id is given twice. -/
theorem Workspaces.isOutdated_of_passed (follows : session.Follows commits)
    (distinct : DistinctIds commits) {found : Found}
    (isFound : find project specification session = .ok found)
    (passed : found.project.HasPassed specification.stream found.branch.base) :
    isOutdated project specification session = .ok true := by
  obtain ⟨_, _, stateFound, _⟩ := find_eq_ok_iff.1 isFound
  obtain ⟨head, isHead, differs⟩ := passed.ne_head project fun _ stored =>
    follows.nodup_ids distinct stateFound stored
  exact (isOutdated_eq_ok_iff isFound).2 ⟨head, isHead, decide_eq_true differs⟩

/-- A backup that is found is outdated. -/
theorem Workspaces.isOutdated_of_backup (trailing : session.Trailing)
    (follows : session.Follows commits) (distinct : DistinctIds commits) {found : Found}
    (isBackup : specification.access = .backup)
    (isFound : find project specification session = .ok found) :
    isOutdated project specification session = .ok true := by
  obtain ⟨named, _, stateFound, stored⟩ := find_eq_ok_iff.1 isFound
  rw [← Specification.withAccess_of_access isBackup] at named
  exact isOutdated_of_passed follows distinct isFound
    ((trailing _ _ stateFound).backups named stored)

/-- A workspace with conflicts is outdated. -/
theorem Workspaces.isOutdated_of_isInConflict (trailing : session.Trailing)
    (follows : session.Follows commits) (distinct : DistinctIds commits)
    (inConflict : isInConflict project specification session = .ok true) :
    isOutdated project (specification.withAccess .live) session = .ok true := by
  obtain ⟨_, _, found⟩ := bind_eq_ok_iff.1 inConflict
  obtain ⟨found, isFound, _⟩ := bind_eq_ok_iff.1 found
  obtain ⟨resolution, resolutionNamed, present⟩ := (isInConflict_eq_ok_iff isFound).1 inConflict
  obtain ⟨named, _, stateFound, stored⟩ := find_eq_ok_iff.1 isFound
  exact isOutdated_of_passed follows distinct isFound
    ((trailing _ _ stateFound).conflicts resolutionNamed named present stored)

/-- A workspace that was just recovered is outdated. -/
theorem Backups.Recovered.isOutdated (trailing : session.Trailing)
    (follows : session.Follows commits) (distinct : DistinctIds commits) {force : Bool}
    {after : Session} (recovered : Recovered project specification force session () after) :
    Workspaces.isOutdated project (specification.withAccess .live) after = .ok true := by
  cases recovered with
  | @intro name backup state branch named backupNamed found stored allowed =>
    have passed := (trailing _ _ found).backups backupNamed stored
    have isStored : ((state.dropBranch backup).putBranch name branch).branches.get? name =
        some branch := SortedMap.get?_insert_self ..
    have isFound : Workspaces.find project (specification.withAccess .live)
        (session.setProject project ((state.dropBranch backup).putBranch name branch)) = .ok _ :=
      Workspaces.find_eq_ok named (SortedMap.get?_insert_self ..) isStored
    refine Workspaces.isOutdated_of_passed (follows.of_insert rfl ?_) distinct isFound ?_
    · exact fun stream history stored => follows _ _ stream history found stored
    · exact passed.of_grows (.of_streams_eq rfl)

/-- An update has nothing to do for a workspace that is not outdated. -/
theorem Workspaces.update_gives_unchanged (trailing : session.Trailing)
    (follows : session.Follows commits) (distinct : DistinctIds commits)
    (live : specification.access = .live)
    (current : isOutdated project specification session = .ok false) :
    (update project specification).Gives session .unchanged session := by
  obtain ⟨found, isFound, _⟩ := bind_eq_ok_iff.1 current
  have isLive := isFound
  rw [← Specification.withAccess_of_access live] at isLive
  obtain ⟨resolution, resolutionNamed⟩ :=
    BranchName.encode_withAccess (find_eq_ok_iff.1 isFound).1 .resolution
  have known := (isInConflict_eq_ok_iff isLive).2 ⟨resolution, resolutionNamed, rfl⟩
  cases present : found.project.branches.contains resolution with
  | true =>
    rw [present] at known
    have outdated := isOutdated_of_isInConflict trailing follows distinct known
    rw [Specification.withAccess_of_access live, current] at outdated
    cases outdated
  | false =>
    rw [present] at known
    obtain ⟨names, head, _, updatable, same⟩ := updatable_of_known live isFound known current
    exact updatable.update_gives_unchanged (by simpa using same)

end

namespace Action

variable {Result Next : Type} {session : Session} {failure : Failure}

/-- An action that looks something up first fails for want of it or later on. -/
theorem error_of_read_bind {query : Session → Except Failure Result}
    {rest : Result → Action Next}
    (failed : ((read query >>= rest).run session).result = .error failure) :
    query session = .error failure ∨
      ∃ result, query session = .ok result ∧
        ((rest result).run session).result = .error failure := by
  have unfolded : (read query >>= rest).run session = andThen (read query) rest session := rfl
  rw [unfolded, andThen] at failed
  cases value : query session with
  | ok result => exact .inr ⟨result, rfl, by simpa only [run, read, value] using failed⟩
  | error other =>
    simp only [read, value] at failed
    exact .inl (congrArg _ (Except.error.inj failed))

/-- An action that takes a value first fails for want of it or later on. -/
theorem error_of_ofExcept_bind {value : Except Failure Result} {rest : Result → Action Next}
    (failed : ((ofExcept value >>= rest).run session).result = .error failure) :
    value = .error failure ∨
      ∃ result, value = .ok result ∧ ((rest result).run session).result = .error failure := by
  cases value with
  | ok result => exact .inr ⟨result, rfl, failed⟩
  | error other => exact .inl (congrArg _ (Except.error.inj failed))

/-- An action that checks a condition first is refused because of it or fails later on. -/
theorem error_of_refuseIf_bind {condition : Bool} {reason : Failure}
    {rest : Unit → Action Next}
    (failed : ((refuseIf condition reason >>= rest).run session).result = .error failure) :
    condition = true ∧ failure = reason ∨
      condition = false ∧ ((rest ()).run session).result = .error failure := by
  cases condition with
  | true => exact .inl ⟨rfl, (Except.error.inj failed).symm⟩
  | false => exact .inr ⟨rfl, failed⟩

/-- An action that locates a workspace first fails because this has no name, or later on. -/
theorem error_of_locate_bind {specification : Specification}
    {rest : String × Specification → Action Next} (named : ∀ cause, failure ≠ .unnamed cause)
    (failed : ((locate specification >>= rest).run session).result = .error failure) :
    ∃ name, BranchName.encode session.currentUser specification = .ok name ∧
      ((rest (name, specification.resolve session.currentUser)).run session).result =
        .error failure := by
  rcases error_of_read_bind failed with unlocated | ⟨⟨name, resolved⟩, located, failed⟩
  · obtain ⟨cause, isUnnamed⟩ := Session.locate_eq_error unlocated
    exact absurd isUnnamed (named cause)
  · obtain ⟨encoded, rfl⟩ := Session.locate_eq_ok_iff.1 located
    exact ⟨name, encoded, failed⟩

end Action

/-- A stream whose head is missing is reported. -/
theorem Project.head_eq_error {project : Project} {name : String} {stream : DevelopmentStream}
    {failure : Failure} (missing : project.head name stream = .error failure) :
    failure = unknownStream name stream := by
  unfold head history at missing
  cases known : project.history? stream with
  | none => simpa [known, eq_comm] using missing
  | some history =>
    simp only [known, ok_bind] at missing
    split at missing
    · cases missing
    · exact (Except.error.inj missing).symm

/-- Only live workspaces with conflicts are refused an update because of conflicts. -/
theorem Workspaces.isInConflict_of_refused {session : Session} {project : String}
    {specification resolved : Specification}
    (refused : ((update project specification).run session).result =
      .error (.inConflictResolution resolved)) :
    specification.access = .live ∧ isInConflict project specification session = .ok true := by
  rcases Action.error_of_refuseIf_bind refused with ⟨_, ⟨⟩⟩ | ⟨isLive, refused⟩
  have live : specification.access = .live := by simpa using isLive
  obtain ⟨name, named, refused⟩ := Action.error_of_locate_bind (by simp) refused
  obtain ⟨backup, backupNamed, refused⟩ := Action.error_of_locate_bind (by simp) refused
  obtain ⟨resolution, resolutionNamed, refused⟩ :=
    Action.error_of_locate_bind (by simp) refused
  rw [BranchName.encode_resolve_withAccess] at backupNamed resolutionNamed
  rcases Action.error_of_read_bind refused with missing | ⟨state, found, refused⟩
  · cases (Store.project_eq_error_iff.1 missing).2
  have found := Store.project_eq_ok_iff.1 found
  rcases Action.error_of_ofExcept_bind refused with missing | ⟨branch, stored, refused⟩
  · cases (Project.branch_eq_error_iff.1 missing).2
  have stored := Project.branch_eq_ok_iff.1 stored
  rcases Action.error_of_refuseIf_bind refused with ⟨present, _⟩ | ⟨calm, refused⟩
  · rw [← Specification.withAccess_of_access live] at named
    have isFound := find_eq_ok named found stored
    exact ⟨live, (isInConflict_eq_ok_iff isFound).2 ⟨resolution, resolutionNamed, present⟩⟩
  rcases Action.error_of_ofExcept_bind refused with missing | ⟨head, isHead, refused⟩
  · have unknown := Project.head_eq_error missing
    cases stream : specification.stream <;>
      simp [Specification.resolve, stream, Project.unknownStream] at unknown
  -- All checks are passed, and what is left of the update cannot fail.
  have updatable : Updatable project specification session ⟨name, backup, resolution⟩ state
      branch head :=
    { live, backupNamed, resolutionNamed, found, stored, isHead
      liveNamed := named
      calm := SortedMap.contains_eq_false_iff.1 calm }
  obtain ⟨report, after, gives, _⟩ := settle_gives updatable
  have reported := gives.1.symm.trans refused
  cases reported

/-- As long as no two commits of a run are given one id, every backup that is stored after it
is outdated, and so is every live workspace whose conflicts are not resolved. Therefore a
workspace that is recovered from a backup is outdated at once. An update that is refused
because of conflicts would have had something to do, and an update of a workspace that is not
outdated finds out that there is nothing to do. -/
theorem left_behind_outdated {currentUser : Option String} {structureVersion : Nat}
    {initial session : Session} {requests : List Request}
    (isInitial : initial = .start currentUser structureVersion)
    (isSession : session = initial.after requests)
    (distinct : DistinctIds (ledger (initial.exchanges requests))) (project : String) :
    (∀ state name branch specification, session.store.projects.get? project = some state →
      state.branches.get? name = some branch →
      BranchName.decode? name = some specification → specification.access = .backup →
        Workspaces.isOutdated project specification session = .ok true) ∧
    (∀ specification found, specification.access = .backup →
      Workspaces.find project specification session = .ok found →
        Workspaces.isOutdated project specification session = .ok true) ∧
    (∀ specification, Workspaces.isInConflict project specification session = .ok true →
      Workspaces.isOutdated project (specification.withAccess .live) session = .ok true) ∧
    (∀ specification force after,
      (Backups.recover project specification force).Gives session () after →
        Workspaces.isOutdated project (specification.withAccess .live) after = .ok true) ∧
    (∀ specification resolved,
      ((Workspaces.update project specification).run session).result =
        .error (.inConflictResolution resolved) →
          Workspaces.isOutdated project specification session = .ok true) ∧
    ∀ specification, specification.access = .live →
      Workspaces.isOutdated project specification session = .ok false →
        (Workspaces.update project specification).Gives session .unchanged session := by
  subst isInitial isSession
  have trailing := ((Session.Reachable.start currentUser structureVersion).after
    requests).trailing
  have follows := Session.follows_after currentUser structureVersion requests
  refine ⟨?_, ?_, ?_, ?_, ?_, ?_⟩
  · intro state name branch specification found stored decoded isBackup
    have named := BranchName.encode_decode (BranchName.decode?_eq_some_iff.1 decoded)
    exact Workspaces.isOutdated_of_backup trailing follows distinct isBackup
      (Workspaces.find_eq_ok (named _) found stored)
  · intro specification found isBackup isFound
    exact Workspaces.isOutdated_of_backup trailing follows distinct isBackup isFound
  · intro specification inConflict
    exact Workspaces.isOutdated_of_isInConflict trailing follows distinct inConflict
  · rintro specification force _ ⟨succeeded, rfl⟩
    have recovered := (Backups.recover_meets project specification force).of_ok succeeded
    exact recovered.isOutdated trailing follows distinct
  · intro specification resolved refused
    obtain ⟨live, inConflict⟩ := Workspaces.isInConflict_of_refused refused
    rw [← Specification.withAccess_of_access live]
    exact Workspaces.isOutdated_of_isInConflict trailing follows distinct inConflict
  · intro specification live current
    exact Workspaces.update_gives_unchanged trailing follows distinct live current

/-- A run that leaves a workspace with a backup and with conflicts. -/
def conflictingRun : List Request :=
  [.createProject "p" "g" "a", .createWorkspace "p" Workspaces.sharedWorkspace,
    .commitToStream "p" .mainLine "theirs" [.put "a::e" "theirs"],
    .updateWorkspace "p" Workspaces.sharedWorkspace,
    .commitToWorkspace "p" Workspaces.sharedWorkspace "ours" [.put "a::e" "ours"],
    .commitToStream "p" .mainLine "theirs" [.delete "a::e"],
    .updateWorkspace "p" Workspaces.sharedWorkspace]

/-- Both the backup and the workspace itself are outdated while there are conflicts. -/
theorem left_behind_outdated_conflicting :
    Workspaces.isOutdated "p" (Workspaces.sharedWorkspace.withAccess .backup)
        ((Session.start none 13).after conflictingRun) = .ok true ∧
      Workspaces.isInConflict "p" Workspaces.sharedWorkspace
        ((Session.start none 13).after conflictingRun) = .ok true ∧
      Workspaces.isOutdated "p" Workspaces.sharedWorkspace
        ((Session.start none 13).after conflictingRun) = .ok true := by
  have distinct : DistinctIds (ledger ((Session.start none 13).exchanges conflictingRun)) := by
    decide +kernel
  have isOk : (Workspaces.find "p" (Workspaces.sharedWorkspace.withAccess .backup)
      ((Session.start none 13).after conflictingRun)).toBool := by decide +kernel
  have inConflict : Workspaces.isInConflict "p" Workspaces.sharedWorkspace
      ((Session.start none 13).after conflictingRun) = .ok true := by decide +kernel
  obtain ⟨_, backups, conflicts, _⟩ := left_behind_outdated rfl rfl distinct "p"
  have outdated := conflicts Workspaces.sharedWorkspace inConflict
  rw [Specification.withAccess_of_access (show Workspaces.sharedWorkspace.access = .live from rfl)]
    at outdated
  cases isFound : Workspaces.find "p" (Workspaces.sharedWorkspace.withAccess .backup)
      ((Session.start none 13).after conflictingRun) with
  | error failure => simp [isFound, Except.toBool] at isOk
  | ok found => exact ⟨backups _ found rfl isFound, inConflict, outdated⟩

end Workstream
