import Workstream.Proofs.Resource.Call
import Workstream.Proofs.Store.UpdateOutcome

/-!
# What is answered can be relied on

A failure always has a cause in the request: a parameter that cannot be used, something that
does not exist, or something that stands in the way. The places where the store itself would
be at fault are never reached, because the name of a branch is always read back.

A success is not an empty promise either. The revision that a commit has answered with is the
head of its stream or branch afterwards, and a recovered backup has become the live workspace.
-/

namespace Workstream

/-- The numbers of the failures that are the fault of the client. -/
def Status.clientCodes : List Nat := [400, 404, 409]

/-- Every status but one has such a number. -/
theorem Status.code_mem_clientCodes_iff {status : Status} :
    status.code ∈ clientCodes ↔ status ≠ .internal := by
  cases status <;> decide

/-- The latest revision of a stream of a project. -/
def Session.streamHead (project : String) (stream : DevelopmentStream) (session : Session) :
    Except Failure Snapshot := do
  let state ← session.store.project project
  state.head project stream

section

variable {session after : Session} {project message : String} {stream : DevelopmentStream}
  {specification : Specification} {changes : List Change} {revision : Revision} {force : Bool}

/-- The head of a stream is found in its project. -/
theorem Session.streamHead_eq_ok {state : Project} {head : Snapshot}
    (found : session.store.projects.get? project = some state)
    (isHead : state.head project stream = .ok head) :
    session.streamHead project stream = .ok head :=
  bind_eq_ok_iff.2 ⟨state, Store.project_eq_ok_iff.2 found, isHead⟩

/-- What was pushed to a stream is its head. -/
theorem Project.head_pushRevision (state : Project) (project : String)
    (stream : DevelopmentStream) (snapshot : Snapshot) :
    (state.pushRevision stream snapshot).head project stream = .ok snapshot :=
  head_eq_ok_iff.2 ⟨_, SortedMap.get?_insert_self .., List.getLast?_concat⟩

/-- What was pushed to a branch is its head. -/
theorem Branch.head_push (branch : Branch) (snapshot : Snapshot) :
    (branch.push snapshot).head = snapshot := by
  simp [head, push]

/-- The revision that was committed to a stream is its head. It holds what the changes make of
the former head. -/
theorem Projects.Committed.isHead
    (committed : Projects.Committed project stream message changes session revision after) :
    ∃ former head, session.streamHead project stream = .ok former ∧
      after.streamHead project stream = .ok head ∧
      Change.applyAll changes former.contents = .ok head.contents ∧
      head.revision = revision := by
  cases committed with
  | @intro state former next contents found isHead changed minted =>
    refine ⟨former, next, Session.streamHead_eq_ok found isHead, ?_, ?_, rfl⟩
    · exact Session.streamHead_eq_ok (SortedMap.get?_insert_self ..)
        (state.head_pushRevision project stream next)
    · rw [changed, minted]
      rfl

/-- The revision that was committed to a workspace is the head of its branch. It holds what
the changes make of the former head. -/
theorem Workspaces.Committed.isHead
    (committed : Workspaces.Committed project specification message changes session revision
      after) :
    ∃ former found, find project specification session = .ok former ∧
      find project specification after = .ok found ∧
      Change.applyAll changes former.branch.head.contents = .ok found.branch.head.contents ∧
      found.branch.head.revision = revision := by
  cases committed with
  | @intro name state branch next contents named found stored changed minted =>
    have isPushed : find project specification (session.advance.setProject project
        (state.putBranch name (branch.push next))) = .ok _ :=
      find_eq_ok named (SortedMap.get?_insert_self ..) (SortedMap.get?_insert_self ..)
    refine ⟨_, _, find_eq_ok named found stored, isPushed, ?_, ?_⟩
    · rw [Branch.head_push, minted]
      exact changed
    · rw [Branch.head_push]

/-- The backup that was recovered is the live workspace, and no backup any more. -/
theorem Backups.Recovered.isLive
    (recovered : Backups.Recovered project specification force session () after) :
    ∃ backup live,
      Workspaces.find project (specification.withAccess .backup) session = .ok backup ∧
      Workspaces.find project (specification.withAccess .live) after = .ok live ∧
      live.branch = backup.branch ∧
      Workspaces.find project (specification.withAccess .backup) after =
        .error (.unknownWorkspace backup.specification) := by
  cases recovered with
  | @intro name backupName state branch named backupNamed found stored allowed =>
    have isLive : Workspaces.find project (specification.withAccess .live)
        (session.setProject project ((state.dropBranch backupName).putBranch name branch)) =
          .ok _ :=
      Workspaces.find_eq_ok named (SortedMap.get?_insert_self ..) (SortedMap.get?_insert_self ..)
    have differs : backupName ≠ name :=
      BranchName.encode_withAccess_ne (by decide) backupNamed named
    have gone : ((state.dropBranch backupName).putBranch name branch).branches.get? backupName =
        none := by
      rw [Project.putBranch, SortedMap.get?_insert_of_ne _ _ differs]
      exact SortedMap.get?_erase_self ..
    exact ⟨_, _, Workspaces.find_eq_ok backupNamed found stored, isLive, rfl,
      Workspaces.find_eq_unknown backupNamed (SortedMap.get?_insert_self ..) gone⟩

/-- A request that succeeds takes a step. -/
theorem Request.step_of_gives {request : Request} {answer : Answer}
    (gives : request.perform.Gives session answer after) : Step session request answer after := by
  obtain ⟨succeeded, rfl⟩ := gives
  exact (request.perform_meets session).of_ok succeeded

end

/-- No request and no call of a resource fails through the fault of the store, whatever its
parameters. When a commit is answered with a revision, the former head of the stream or of the
branch has been succeeded by this revision, with the changes made. When a recovery is done, the
live workspace is the former backup, and there is no backup any more. -/
theorem answers_reliable (session : Session) :
    (∀ (request : Request) failure, (request.perform.run session).result = .error failure →
      failure.status.code ∈ Status.clientCodes) ∧
    (∀ ownership project version call failure,
      ((PatchCall.perform ownership project version call).run session).result =
        .error failure → failure.status.code ∈ Status.clientCodes) ∧
    (∀ project stream message changes revision after,
      (Request.commitToStream project stream message changes).perform.Gives session
          (.revision revision) after →
        ∃ former head, session.streamHead project stream = .ok former ∧
          after.streamHead project stream = .ok head ∧
          Change.applyAll changes former.contents = .ok head.contents ∧
          head.revision = revision) ∧
    (∀ project specification message changes revision after,
      (Request.commitToWorkspace project specification message changes).perform.Gives session
          (.revision revision) after →
        ∃ former found, Workspaces.find project specification session = .ok former ∧
          Workspaces.find project specification after = .ok found ∧
          Change.applyAll changes former.branch.head.contents =
            .ok found.branch.head.contents ∧
          found.branch.head.revision = revision) ∧
    ∀ project specification force after,
      (Request.recoverBackup project specification force).perform.Gives session .done after →
        ∃ backup live,
          Workspaces.find project (specification.withAccess .backup) session = .ok backup ∧
          Workspaces.find project (specification.withAccess .live) after = .ok live ∧
          live.branch = backup.branch ∧
          Workspaces.find project (specification.withAccess .backup) after =
            .error (.unknownWorkspace backup.specification) := by
  refine ⟨?_, ?_, ?_, ?_, ?_⟩
  · intro request failure failed
    exact Status.code_mem_clientCodes_iff.2 ((request.perform_meets session).of_error failed).1
  · intro ownership project version call failure failed
    exact Status.code_mem_clientCodes_iff.2 (PatchCall.perform_of_error failed).1
  · intro project stream message changes revision after gives
    cases Request.step_of_gives gives with
    | query isQuery _ => cases isQuery
    | commitToStream committed => exact committed.isHead
  · intro project specification message changes revision after gives
    cases Request.step_of_gives gives with
    | query isQuery _ => cases isQuery
    | commitToWorkspace committed => exact committed.isHead
  · intro project specification force after gives
    cases Request.step_of_gives gives with
    | query isQuery _ => cases isQuery
    | recoverBackup recovered => exact recovered.isLive

/-- A session in which a workspace was brought up to date, so that it has a backup. -/
def backedUpSession : Session :=
  (Session.start none 13).after
    [.createProject "p" "g" "a", .createWorkspace "p" Workspaces.sharedWorkspace,
      .commitToStream "p" .mainLine "theirs" [.put "a::e" "theirs"],
      .updateWorkspace "p" Workspaces.sharedWorkspace]

/-- A recovery that is done by force puts the backup in the place of the live workspace. -/
theorem answers_reliable_recovered :
    ∃ (after : Session) (backup live : Workspaces.Found),
      (Request.recoverBackup "p" Workspaces.sharedWorkspace true).perform.Gives
        backedUpSession .done after ∧
      Workspaces.find "p" (Workspaces.sharedWorkspace.withAccess .backup) backedUpSession =
        .ok backup ∧
      Workspaces.find "p" (Workspaces.sharedWorkspace.withAccess .live) after = .ok live ∧
      live.branch = backup.branch ∧
      Workspaces.find "p" (Workspaces.sharedWorkspace.withAccess .backup) after =
        .error (.unknownWorkspace backup.specification) := by
  have done : ((Request.recoverBackup "p" Workspaces.sharedWorkspace true).perform.run
      backedUpSession).result = .ok .done := by decide +kernel
  obtain ⟨_, _, _, _, recovered⟩ := answers_reliable backedUpSession
  obtain ⟨backup, live, wasBackup, isLive, same, gone⟩ := recovered _ _ _ _ ⟨done, rfl⟩
  exact ⟨_, backup, live, ⟨done, rfl⟩, wasBackup, isLive, same, gone⟩

end Workstream
