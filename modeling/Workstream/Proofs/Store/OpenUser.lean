import Workstream.Proofs.Store.Atomicity
import Workstream.Proofs.Store.UpdateOutcome

/-!
# Workspaces that leave their user open

A specification may leave the user of a workspace open, and then it means the workspace of the
current user. Each request fills the user in on its own, some of them for several branches, but
all of them go by `Session.locate`, for which a specification and the same one with the user
filled in are one and the same. `Request.subject?` takes the specification out of a request, so
that one request can be asked about both.

Only in the wording of a failure a request can tell the two apart, which is why failures are
compared by their kinds. Without a current user an open specification means nothing, and the
client is told so whatever is in the store.
-/

namespace Workstream

/-- The specification that a request is about, and the same request about any other one. -/
def Request.subject? : Request → Option (Specification × (Specification → Request))
  | .commitToWorkspace project workspace message changes =>
    some (workspace, (.commitToWorkspace project · message changes))
  | .openReview project workspace => some (workspace, .openReview project)
  | .getWorkspace project workspace => some (workspace, .getWorkspace project)
  | .createWorkspace project workspace => some (workspace, .createWorkspace project)
  | .deleteWorkspace project workspace => some (workspace, .deleteWorkspace project)
  | .updateWorkspace project workspace => some (workspace, .updateWorkspace project)
  | .isOutdated project workspace => some (workspace, .isOutdated project)
  | .isInConflict project workspace => some (workspace, .isInConflict project)
  | .discardBackup project workspace => some (workspace, .discardBackup project)
  | .recoverBackup project workspace force => some (workspace, (.recoverBackup project · force))
  | .compareWithCreation project workspace => some (workspace, .compareWithCreation project)
  | .compareWithStream project workspace => some (workspace, .compareWithStream project)
  | .dependencies project workspace revision transitive =>
    some (workspace, (.dependencies project · revision transitive))
  | .workspaceConfiguration project workspace =>
    some (workspace, .workspaceConfiguration project)
  | .workspaceRevisionConfiguration project workspace revision =>
    some (workspace, (.workspaceRevisionConfiguration project · revision))
  | _ => none

/-- A request is the one that asks about its own specification. -/
theorem Request.eq_of_subject? {request : Request} {specification : Specification}
    {ask : Specification → Request} (about : request.subject? = some (specification, ask)) :
    request = ask specification := by
  cases request <;> cases about <;> rfl

/-- What can be told about a failure without reading its message. -/
inductive Failure.Kind where
  | malformed
  | unnamed
  /-- Anything else, of which only the class is known. -/
  | plain (status : Status)
deriving DecidableEq

/-- The kind of a failure. -/
def Failure.kind : Failure → Kind
  | .malformed _ => .malformed
  | .unnamed _ => .unnamed
  | failure => .plain failure.status

/-- Two results are equal, up to the wording of a failure. -/
inductive SameResult {Result : Type} : Except Failure Result → Except Failure Result → Prop where
  | ok (result : Result) : SameResult (.ok result) (.ok result)
  | error {failure other : Failure} (kind : failure.kind = other.kind) :
      SameResult (.error failure) (.error other)

namespace SameResult

variable {Result Next : Type}

/-- Equal results are the same. -/
theorem of_eq {first second : Except Failure Result} (same : first = second) :
    SameResult first second := by
  subst same
  cases first with
  | ok result => exact .ok result
  | error failure => exact .error rfl

/-- Being the same goes both ways. -/
theorem symm {first second : Except Failure Result} (same : SameResult first second) :
    SameResult second first := by
  cases same with
  | ok result => exact .ok result
  | error kind => exact .error kind.symm

/-- Results stay the same when they are put into another form. -/
theorem map {first second : Except Failure Result} (same : SameResult first second)
    (transform : Result → Next) : SameResult (first.map transform) (second.map transform) := by
  cases same with
  | ok result => exact .ok (transform result)
  | error kind => exact .error kind

end SameResult

/-- A user's specification with the current user named is the one with its user filled in. -/
theorem Specification.withUser_eq_resolve {specification : Specification}
    (awaits : specification.awaitsUser = true) (user : String) :
    specification.withUser user = specification.resolve (some user) := by
  obtain ⟨id, owner, access, stream⟩ := specification
  have isOpen : owner = .user none := of_decide_eq_true awaits
  subst isOpen
  rfl

open Workstream.Action

section

variable (session : Session) (project : String) (specification : Specification)

/-- Where a workspace is does not depend on whether its user is filled in. -/
theorem Session.locate_resolve :
    session.locate (specification.resolve session.currentUser) =
      session.locate specification := by
  cases named : BranchName.encode session.currentUser specification with
  | error cause => simp only [locate, BranchName.encode_resolve, named]
  | ok name =>
    have filled := BranchName.encode_resolve session.currentUser specification
    simp only [locate, filled, named, BranchName.decode_encode named]

/-- What is found does not depend on whether the user is filled in. -/
theorem Workspaces.find_resolve :
    find project (specification.resolve session.currentUser) session =
      find project specification session := by
  simp only [find, session.locate_resolve]

namespace Action

variable {Result Next : Type} {session}

/-- Actions that look up the same and go on alike have one outcome. -/
theorem run_read_bind_congr {query other : Session → Except Failure Result}
    {rest next : Result → Action Next} (same : query session = other session)
    (continues : ∀ result, (rest result).run session = (next result).run session) :
    (read query >>= rest).run session = (read other >>= next).run session := by
  change andThen (read query) rest session = andThen (read other) next session
  have continues : ∀ result, rest result session = next result session := continues
  simp only [andThen, read, same, continues]

/-- Actions that check one condition and go on alike have one outcome. -/
theorem run_refuseIf_bind_congr {condition : Bool} {failure : Failure}
    {rest other : Unit → Action Next} (same : (rest ()).run session = (other ()).run session) :
    (refuseIf condition failure >>= rest).run session =
      (refuseIf condition failure >>= other).run session := by
  cases condition with
  | true => rfl
  | false =>
    change andThen (done ()) rest session = andThen (done ()) other session
    have same : rest () session = other () session := same
    simp only [andThen, done, same]

/-- Putting the results of actions with one outcome into another form gives one outcome. -/
theorem run_map_congr {first second : Action Result}
    (same : first.run session = second.run session) (transform : Result → Next) :
    (transform <$> first).run session = (transform <$> second).run session := by
  change andThen first (done ∘ transform) session = andThen second (done ∘ transform) session
  have same : first session = second session := same
  simp only [andThen, same]

end Action

namespace Workspaces

theorem create_resolve :
    (create project (specification.resolve session.currentUser)).run session =
      (create project specification).run session :=
  run_refuseIf_bind_congr (run_read_bind_congr (session.locate_resolve specification) fun _ => rfl)

theorem commit_resolve (message : String) (changes : List Change) :
    (commit project (specification.resolve session.currentUser) message changes).run session =
      (commit project specification message changes).run session :=
  run_read_bind_congr (find_resolve session project specification) fun _ => rfl

theorem delete_resolve :
    (delete project (specification.resolve session.currentUser)).run session =
      (delete project specification).run session :=
  run_read_bind_congr (session.locate_resolve specification) fun _ => rfl

theorem update_resolve :
    (update project (specification.resolve session.currentUser)).run session =
      (update project specification).run session :=
  run_refuseIf_bind_congr (run_read_bind_congr (session.locate_resolve specification) fun _ => rfl)

/-- The two branches that decide about conflicts are both found with the user filled in. -/
theorem isInConflict_resolve :
    isInConflict project (specification.resolve session.currentUser) session =
      isInConflict project specification session := by
  have resolution := session.locate_resolve (specification.withAccess .resolution)
  have live := find_resolve session project (specification.withAccess .live)
  change (session.locate ((specification.withAccess .resolution).resolve session.currentUser) >>=
    fun located => find project ((specification.withAccess .live).resolve session.currentUser)
      session >>= fun found => .ok (found.project.branches.contains located.1)) = _
  rw [resolution, live]
  rfl

end Workspaces

namespace Backups

theorem discard_resolve :
    (discard project (specification.resolve session.currentUser)).run session =
      (discard project specification).run session :=
  run_read_bind_congr
    (Workspaces.find_resolve session project (specification.withAccess .backup)) fun _ => rfl

/-- The live workspace is located and its backup found with the user filled in. -/
theorem recover_resolve (force : Bool) :
    (recover project (specification.resolve session.currentUser) force).run session =
      (recover project specification force).run session := by
  refine run_read_bind_congr (session.locate_resolve (specification.withAccess .live))
    fun (name, live) => ?_
  exact run_read_bind_congr
    (Workspaces.find_resolve session project (specification.withAccess .backup)) fun _ => rfl

end Backups

theorem Reviews.create_resolve :
    (create project (specification.resolve session.currentUser)).run session =
      (create project specification).run session :=
  run_read_bind_congr
    (Workspaces.find_resolve session project (specification.withAccess .live)) fun _ => rfl

/-- A revision that is missing is reported with the specification as it was given, so here the
failures are only of one kind. -/
theorem Configurations.ofWorkspaceRevision_resolve (revision : String) :
    SameResult
      (ofWorkspaceRevision project (specification.resolve session.currentUser) revision session)
      (ofWorkspaceRevision project specification revision session) := by
  simp only [ofWorkspaceRevision, Workspaces.find_resolve]
  cases Workspaces.find project specification session with
  | error failure => exact .error rfl
  | ok found =>
    simp only [ok_bind]
    cases found.branch.find? revision with
    | some snapshot => exact .ok _
    | none => exact .error rfl

end

/-- Two runs give the same answer and leave one session behind. -/
structure Outcome.Alike (first second : Outcome Answer) : Prop where
  /-- The answers are the same, up to the wording of a failure. -/
  result : SameResult first.result second.result
  session : first.session = second.session

namespace Outcome.Alike

/-- Runs with one outcome are alike. -/
theorem of_eq {first second : Outcome Answer} (same : first = second) : first.Alike second := by
  subst same
  exact ⟨.of_eq rfl, rfl⟩

/-- Questions that find the same are answered alike. -/
theorem of_query {Result : Type} {query other : Session → Except Failure Result}
    {session : Session} (same : SameResult (query session) (other session))
    (transform : Result → Answer) :
    Alike ((transform <$> Action.read query).run session)
      ((transform <$> Action.read other).run session) := by
  rw [run_map_read, run_map_read]
  exact ⟨same.map transform, rfl⟩

end Outcome.Alike

/-- A request is answered alike for a specification and for the same one with the user filled
in. -/
theorem Request.alike_resolve {request : Request} {specification : Specification}
    {ask : Specification → Request} (about : request.subject? = some (specification, ask))
    (session : Session) :
    ((ask (specification.resolve session.currentUser)).perform.run session).Alike
      (request.perform.run session) := by
  have find_resolve (project) := Workspaces.find_resolve session project specification
  cases request with
  | commitToWorkspace project _ message changes =>
    cases about
    exact .of_eq (run_map_congr (Workspaces.commit_resolve _ _ _ message changes) _)
  | openReview =>
    cases about
    exact .of_eq (run_map_congr (Reviews.create_resolve _ _ _) _)
  | getWorkspace =>
    cases about
    exact .of_query (.of_eq (by simp only [Workspaces.get, find_resolve])) _
  | createWorkspace =>
    cases about
    exact .of_eq (run_map_congr (Workspaces.create_resolve _ _ _) _)
  | deleteWorkspace =>
    cases about
    exact .of_eq (run_map_congr (Workspaces.delete_resolve _ _ _) _)
  | updateWorkspace =>
    cases about
    exact .of_eq (run_map_congr (Workspaces.update_resolve _ _ _) _)
  | isOutdated =>
    cases about
    exact .of_query (.of_eq (by simp only [Workspaces.isOutdated, find_resolve])) _
  | isInConflict =>
    cases about
    exact .of_query (.of_eq (Workspaces.isInConflict_resolve _ _ _)) _
  | discardBackup =>
    cases about
    exact .of_eq (run_map_congr (Backups.discard_resolve _ _ _) _)
  | recoverBackup project _ force =>
    cases about
    exact .of_eq (run_map_congr (Backups.recover_resolve _ _ _ force) _)
  | compareWithCreation =>
    cases about
    exact .of_query (.of_eq (by simp only [Workspaces.creationComparison, find_resolve])) _
  | compareWithStream =>
    cases about
    exact .of_query (.of_eq (by simp only [Workspaces.streamComparison, find_resolve])) _
  | dependencies =>
    cases about
    exact .of_query (.of_eq (by simp only [Dependencies.ofRevision, find_resolve])) _
  | workspaceConfiguration =>
    cases about
    exact .of_query (.of_eq (by simp only [Configurations.ofWorkspace, find_resolve])) _
  | workspaceRevisionConfiguration project _ revision =>
    cases about
    exact .of_query (Configurations.ofWorkspaceRevision_resolve _ _ _ revision) _
  | _ => cases about

section

variable {session : Session} {specification : Specification}

/-- Without a current user an open workspace has no name, whichever of its branches is meant. -/
theorem Session.locate_eq_missingUser (awaits : specification.awaitsUser = true)
    (nobody : session.currentUser = none) (access : Access) :
    session.locate (specification.withAccess access) =
      .error (.unnamed (.missingUser specification.id)) := by
  obtain ⟨id, owner, _, stream⟩ := specification
  have isOpen : owner = .user none := of_decide_eq_true awaits
  subst isOpen
  rw [locate, nobody]
  rfl

/-- So it is not found in any project. -/
theorem Workspaces.find_eq_missingUser (awaits : specification.awaitsUser = true)
    (nobody : session.currentUser = none) (project : String) (access : Access) :
    find project (specification.withAccess access) session =
      .error (.unnamed (.missingUser specification.id)) :=
  bind_eq_error (Session.locate_eq_missingUser awaits nobody access) _

/-- The action fails, and the request itself is at fault. -/
def Action.Refused {Result : Type} (action : Action Result) (session : Session) : Prop :=
  ∃ failure, action.Fails session failure ∧ failure.status = .badRequest

namespace Action.Refused

variable {Result Next : Type} {action : Action Result}

/-- An action that fails for want of a name is refused. -/
theorem of_unnamed {cause : BranchName.NamingError}
    (fails : action.Fails session (.unnamed cause)) : action.Refused session :=
  ⟨_, fails, rfl⟩

/-- Putting a result into another form does not help. -/
theorem map (refused : action.Refused session) (transform : Result → Next) :
    (transform <$> action).Refused session := by
  obtain ⟨failure, fails, status⟩ := refused
  exact ⟨failure, fails.map transform, status⟩

/-- A question that cannot be answered for want of a name is refused. -/
theorem query {query : Session → Except Failure Result} {cause : BranchName.NamingError}
    (missing : query session = .error (.unnamed cause)) : (Action.read query).Refused session :=
  of_unnamed ⟨missing, rfl⟩

/-- An action that is about live workspaces only and is refused for them is refused. -/
theorem refuseIf {condition : Bool} {failure : Failure} {rest : Unit → Action Next}
    (status : failure.status = .badRequest) (refused : (rest ()).Refused session) :
    (Action.refuseIf condition failure >>= rest).Refused session := by
  cases condition with
  | true => exact ⟨failure, Fails.refuseIf rfl failure rest, status⟩
  | false =>
    obtain ⟨other, fails, otherStatus⟩ := refused
    exact ⟨other, fails.bind (Gives.refuseIf rfl failure session), otherStatus⟩

end Action.Refused

/-- Without a current user a request about an open workspace is refused. -/
theorem Request.refused_of_awaitsUser {request : Request} {ask : Specification → Request}
    (about : request.subject? = some (specification, ask))
    (awaits : specification.awaitsUser = true) (nobody : session.currentUser = none) :
    request.perform.Refused session := by
  have unlocated := Session.locate_eq_missingUser awaits nobody
  have missing (project access) :=
    Workspaces.find_eq_missingUser awaits nobody project access
  cases request with
  | commitToWorkspace project =>
    cases about
    exact .map (.of_unnamed (Fails.read (missing project _) _)) _
  | openReview project =>
    cases about
    exact .map (.of_unnamed (Fails.read (missing project .live) _)) _
  | getWorkspace project =>
    cases about
    exact .map (.query (bind_eq_error (missing project _) _)) _
  | createWorkspace =>
    cases about
    exact .map (.refuseIf rfl (.of_unnamed (Fails.read (unlocated _) _))) _
  | deleteWorkspace =>
    cases about
    exact .map (.of_unnamed (Fails.read (unlocated _) _)) _
  | updateWorkspace =>
    cases about
    exact .map (.refuseIf rfl (.of_unnamed (Fails.read (unlocated _) _))) _
  | isOutdated project =>
    cases about
    exact .map (.query (bind_eq_error (missing project _) _)) _
  | isInConflict =>
    cases about
    exact .map (.query (bind_eq_error (unlocated .resolution) _)) _
  | discardBackup project =>
    cases about
    exact .map (.of_unnamed (Fails.read (missing project .backup) _)) _
  | recoverBackup =>
    cases about
    exact .map (.of_unnamed (Fails.read (unlocated .live) _)) _
  | compareWithCreation project =>
    cases about
    exact .map (.query (bind_eq_error (missing project _) _)) _
  | compareWithStream project =>
    cases about
    exact .map (.query (bind_eq_error (missing project _) _)) _
  | dependencies project =>
    cases about
    exact .map (.query (bind_eq_error (missing project _) _)) _
  | workspaceConfiguration project =>
    cases about
    exact .map (.query (bind_eq_error (missing project _) _)) _
  | workspaceRevisionConfiguration project =>
    cases about
    exact .map (.query (bind_eq_error (missing project _) _)) _
  | _ => cases about

end

/-- A request about an open workspace is the same request about the workspace of the current
user: it gives the same answer, or a failure of the same kind, and leaves the same session
behind. Without a current user it is refused and changes nothing, whatever is in the store. -/
theorem open_user_is_current {request : Request} {specification : Specification}
    {ask : Specification → Request} (about : request.subject? = some (specification, ask))
    (awaits : specification.awaitsUser = true) (session : Session) :
    request = ask specification ∧
    (∀ user, session.currentUser = some user →
      SameResult (request.perform.run session).result
          ((ask (specification.withUser user)).perform.run session).result ∧
        (request.perform.run session).session =
          ((ask (specification.withUser user)).perform.run session).session) ∧
    (session.currentUser = none →
      ∃ failure, request.perform.Fails session failure ∧ failure.status.code = 400) := by
  refine ⟨Request.eq_of_subject? about, ?_, ?_⟩
  · intro user isCurrent
    obtain ⟨result, sameSession⟩ := Request.alike_resolve about session
    rw [isCurrent, ← Specification.withUser_eq_resolve awaits] at result sameSession
    exact ⟨result.symm, sameSession.symm⟩
  · intro nobody
    obtain ⟨failure, fails, status⟩ := Request.refused_of_awaitsUser about awaits nobody
    exact ⟨failure, fails, by rw [status]; rfl⟩

/-- The open workspace whose name is a reserved word. -/
def openWorkspace : Specification := .forUser Workspaces.sharedWorkspace.id

/-- A session in which two users have a workspace of one id. -/
def namesakesSession : Session :=
  (Session.start (some "u") 13).after
    [.createProject "p" "g" "a", .createWorkspace "p" openWorkspace,
      .becomeUser "v", .createWorkspace "p" openWorkspace, .becomeUser "u"]

/-- An open workspace is deleted as that of the current user, and not as that of another one. -/
theorem open_user_is_current_deleted :
    ((Request.deleteWorkspace "p" openWorkspace).perform.run namesakesSession).result =
        .ok .done ∧
      namesakesSession.after [.deleteWorkspace "p" openWorkspace] =
        namesakesSession.after [.deleteWorkspace "p" (openWorkspace.withUser "u")] ∧
      namesakesSession.after [.deleteWorkspace "p" openWorkspace] ≠
        namesakesSession.after [.deleteWorkspace "p" (openWorkspace.withUser "v")] := by
  have current : namesakesSession.currentUser = some "u" := by decide +kernel
  have about : (Request.deleteWorkspace "p" openWorkspace).subject? =
      some (openWorkspace, .deleteWorkspace "p") := rfl
  obtain ⟨_, pinned, _⟩ := open_user_is_current about rfl namesakesSession
  exact ⟨by decide +kernel, (pinned "u" current).2, by decide +kernel⟩

end Workstream
