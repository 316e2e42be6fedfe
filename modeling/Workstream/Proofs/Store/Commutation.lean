import Workstream.Proofs.Store.Coupling
import Workstream.Proofs.Store.Frame

/-!
# Requests for different workspaces commute

A request for a workspace reads and changes the branches of that workspace, reads the history
of its stream, which no such request changes, and counts its commits. Requests for different
workspaces therefore only meet in the counter. When one of them does not commit anything, the
other one makes the same revision in either order, and the order does not matter at all.
-/

namespace Workstream

/-- The places that a request for a workspace looks at, besides the counter. -/
inductive Specification.Sees (specification : Specification) (currentUser : Option String)
    (project : String) : Store.Place → Prop where
  | project : Sees specification currentUser project (.project project)
  | history :
      Sees specification currentUser project (.inside project (.history specification.stream))
  | branch {place : Store.Place} (owned : specification.Owns currentUser project place) :
      Sees specification currentUser project place

/-- Projects correspond when they are known in both stores or in none. -/
theorem Store.corresponds_of_content? {first second : Store} {name : String}
    (known : first.content? (.project name) = second.content? (.project name)) :
    Corresponds (fun state other =>
        first.projects.get? name = some state ∧ second.projects.get? name = some other)
      (first.project name) (second.project name) := by
  simp only [content?] at known
  unfold project
  cases found : first.projects.get? name with
  | none =>
    rw [found] at known
    rw [Option.map_eq_none_iff.1 known.symm]
    exact .missing _
  | some state =>
    rw [found] at known
    obtain ⟨other, otherFound, _⟩ := Option.map_eq_some_iff.1 known.symm
    rw [otherFound]
    exact .present ⟨rfl, rfl⟩

namespace Session.AlikeFor

variable {project : String} {specification : Specification} {session other : Session}

/-- Sessions are alike for a workspace when they hold the same in all places that are looked
at. -/
theorem of_content? (user : session.currentUser = other.currentUser)
    (same : ∀ place, specification.Sees session.currentUser project place →
      session.store.content? place = other.store.content? place) :
    session.AlikeFor project specification other := by
  refine ⟨user, (Store.corresponds_of_content? (same _ .project)).imp ?_⟩
  rintro state otherState ⟨found, otherFound⟩
  have history := same _ .history
  have branches (access name) (named : BranchName.encode session.currentUser
      (specification.withAccess access) = .ok name) :=
    same _ (.branch ⟨access, name, named, rfl⟩)
  simp only [Store.content?, found, otherFound] at history branches
  exact ⟨history, branches⟩

/-- Sessions that are alike for a workspace hold the same branches of it. -/
theorem content?_eq (alike : session.AlikeFor project specification other)
    {place : Store.Place} (owned : specification.Owns session.currentUser project place) :
    session.store.content? place = other.store.content? place := by
  obtain ⟨access, name, named, rfl⟩ := owned
  have states := alike.states
  simp only [Store.content?]
  generalize looked : session.store.project project = result,
    otherLooked : other.store.project project = otherResult at states
  cases states with
  | missing failure =>
    rw [(Store.project_eq_error_iff.1 looked).1, (Store.project_eq_error_iff.1 otherLooked).1]
  | present states =>
    rw [Store.project_eq_ok_iff.1 looked, Store.project_eq_ok_iff.1 otherLooked]
    exact states.branches access name named

end Session.AlikeFor

/-- Two workspaces are different ones for a current user. -/
def Apart (currentUser : Option String) (project : String) (specification : Specification)
    (otherProject : String) (other : Specification) : Prop :=
  project ≠ otherProject ∨
    ¬ (specification.resolve currentUser).SameWorkspace (other.resolve currentUser)

namespace Apart

variable {currentUser : Option String} {project otherProject : String}
  {specification other : Specification}

/-- Being different goes both ways. -/
theorem symm (apart : Apart currentUser project specification otherProject other) :
    Apart currentUser otherProject other project specification :=
  apart.imp Ne.symm fun differs same => differs ⟨same.id.symm, same.owner.symm, same.stream.symm⟩

/-- Different workspaces have no branch in common. -/
theorem not_owns (apart : Apart currentUser project specification otherProject other)
    {place : Store.Place} (owned : specification.Owns currentUser project place) :
    ¬ other.Owns currentUser otherProject place := by
  obtain ⟨access, name, named, rfl⟩ := owned
  rintro ⟨otherAccess, otherName, otherNamed, same⟩
  cases same
  rcases apart with differs | differs
  · exact differs rfl
  · have decoded := BranchName.decode?_of_encode named
    have same := Specification.SameWorkspace.of_encode otherNamed decoded
    exact differs ⟨same.id, same.owner, same.stream⟩

end Apart

section

variable {request : Request} {project : String} {specification : Specification}

/-- A step of a request for a workspace does not change what is known about the client. -/
theorem Step.client_eq {before after : Session} {answer : Answer}
    (step : Step before request answer after)
    (addressed : request.workspace? = some (project, specification)) :
    after.currentUser = before.currentUser ∧
      after.structureVersion = before.structureVersion := by
  cases step with
  | query _ _ => exact ⟨rfl, rfl⟩
  | commitToWorkspace committed => cases committed; exact ⟨rfl, rfl⟩
  | createWorkspace created => cases created; exact ⟨rfl, rfl⟩
  | deleteWorkspace deleted => cases deleted <;> exact ⟨rfl, rfl⟩
  | updateWorkspace updated => cases updated <;> exact ⟨rfl, rfl⟩
  | discardBackup discarded => cases discarded; exact ⟨rfl, rfl⟩
  | recoverBackup recovered => cases recovered; exact ⟨rfl, rfl⟩
  | _ => cases addressed

namespace Request

/-- A request for a workspace does not change what is known about the client, whether or not
it succeeds. -/
theorem client_eq (addressed : request.workspace? = some (project, specification))
    (session : Session) :
    (request.perform.run session).session.currentUser = session.currentUser ∧
      (request.perform.run session).session.structureVersion = session.structureVersion := by
  have meets := request.perform_meets session
  cases value : (request.perform.run session).result with
  | ok answer => exact (meets.of_ok value).client_eq addressed
  | error failure =>
    rw [(meets.of_error value).2]
    exact ⟨rfl, rfl⟩

/-- A request for a workspace leaves all places alone but the counter and the branches of the
workspace, whether or not it succeeds. -/
theorem content?_eq (addressed : request.workspace? = some (project, specification))
    (session : Session) {place : Store.Place} (uncounted : place ≠ .counter)
    (foreign : ¬ specification.Owns session.currentUser project place) :
    (request.perform.run session).session.store.content? place =
      session.store.content? place := by
  have meets := request.perform_meets session
  cases value : (request.perform.run session).result with
  | ok answer =>
    refine (meets.of_ok value).content?_eq fun touches => ?_
    rcases touches.of_workspace addressed with counter | owned
    · exact uncounted counter
    · exact foreign owned
  | error failure => rw [(meets.of_error value).2]

/-- In sessions that are alike for the workspace of a request the runs of the request are
coupled. -/
theorem perform_coupled (addressed : request.workspace? = some (project, specification))
    {session other : Session} (alike : session.AlikeFor project specification other) :
    request.perform.Coupled request.perform session other
      (Matched project specification session other) := by
  cases request with
  | commitToWorkspace =>
    cases addressed
    exact (Workspaces.commit_coupled alike _ _).mapResult _
  | createWorkspace =>
    cases addressed
    exact (Workspaces.create_coupled alike).mapResult _
  | deleteWorkspace =>
    cases addressed
    exact (Workspaces.delete_coupled alike).mapResult _
  | updateWorkspace =>
    cases addressed
    exact (Workspaces.update_coupled alike).mapResult _
  | discardBackup =>
    cases addressed
    exact (Backups.discard_coupled alike).mapResult _
  | recoverBackup =>
    cases addressed
    exact (Backups.recover_coupled alike _).mapResult _
  | _ => cases addressed

end Request

end

/-- Sessions of one client with one store are equal. -/
theorem Session.eq_of_store_eq {first second : Session}
    (user : first.currentUser = second.currentUser)
    (version : first.structureVersion = second.structureVersion)
    (store : first.store = second.store) : first = second := by
  cases first
  cases second
  simp_all

section

variable {session : Session} {first second : Request} {project otherProject : String}
  {specification other : Specification}

/-- A request for another workspace leaves a session behind that is alike. -/
theorem Apart.alikeFor
    (apart : Apart session.currentUser project specification otherProject other)
    (addressed : first.workspace? = some (project, specification)) :
    session.AlikeFor otherProject other (first.perform.run session).session := by
  refine .of_content? (first.client_eq addressed session).1.symm fun place sees => ?_
  refine (first.content?_eq addressed session ?_ ?_).symm
  · rintro rfl
    cases sees with
    | branch owned => obtain ⟨_, _, _, ⟨⟩⟩ := owned
  · intro owned
    cases sees with
    | project => obtain ⟨_, _, _, ⟨⟩⟩ := owned
    | history => obtain ⟨_, _, _, ⟨⟩⟩ := owned
    | branch otherOwned => exact apart.not_owns owned otherOwned

/-- What two requests for different workspaces have changed does not depend on their order
when each of them finds the other's workspace as it was. -/
theorem Apart.content?_eq
    (apart : Apart session.currentUser project specification otherProject other)
    (addressed : first.workspace? = some (project, specification))
    (otherAddressed : second.workspace? = some (otherProject, other))
    (alike : (first.perform.run session).session.AlikeFor project specification
      (first.perform.run (second.perform.run session).session).session)
    (otherAlike : (second.perform.run session).session.AlikeFor otherProject other
      (second.perform.run (first.perform.run session).session).session)
    {place : Store.Place} (uncounted : place ≠ .counter) :
    (second.perform.run (first.perform.run session).session).session.store.content? place =
      (first.perform.run (second.perform.run session).session).session.store.content? place := by
  have user := (first.client_eq addressed session).1
  have otherUser := (second.client_eq otherAddressed session).1
  have left (foreign : ¬ specification.Owns session.currentUser project place) :=
    first.content?_eq addressed session uncounted foreign
  have otherLeft (foreign : ¬ other.Owns session.currentUser otherProject place) :=
    second.content?_eq otherAddressed session uncounted foreign
  have leftLater (foreign : ¬ specification.Owns session.currentUser project place) :=
    first.content?_eq addressed (second.perform.run session).session uncounted
      (by rw [otherUser]; exact foreign)
  have otherLeftLater (foreign : ¬ other.Owns session.currentUser otherProject place) :=
    second.content?_eq otherAddressed (first.perform.run session).session uncounted
      (by rw [user]; exact foreign)
  by_cases owned : specification.Owns session.currentUser project place
  · rw [otherLeftLater (apart.not_owns owned)]
    exact alike.content?_eq (by rw [user]; exact owned)
  by_cases otherOwned : other.Owns session.currentUser otherProject place
  · rw [leftLater owned]
    exact (otherAlike.content?_eq (by rw [otherUser]; exact otherOwned)).symm
  · rw [otherLeftLater otherOwned, left owned, leftLater owned, otherLeft otherOwned]

/-- Two requests for different workspaces lead to the same session in either order when each
of them finds the other's workspace as it was and equally many commits are counted. -/
theorem Apart.session_eq
    (apart : Apart session.currentUser project specification otherProject other)
    (addressed : first.workspace? = some (project, specification))
    (otherAddressed : second.workspace? = some (otherProject, other))
    (alike : (first.perform.run session).session.AlikeFor project specification
      (first.perform.run (second.perform.run session).session).session)
    (otherAlike : (second.perform.run session).session.AlikeFor otherProject other
      (second.perform.run (first.perform.run session).session).session)
    (counted : (second.perform.run (first.perform.run session).session).session.store.sequence =
      (first.perform.run (second.perform.run session).session).session.store.sequence) :
    (second.perform.run (first.perform.run session).session).session =
      (first.perform.run (second.perform.run session).session).session := by
  obtain ⟨user, version⟩ := first.client_eq addressed session
  obtain ⟨otherUser, otherVersion⟩ := second.client_eq otherAddressed session
  obtain ⟨userLater, versionLater⟩ :=
    first.client_eq addressed (second.perform.run session).session
  obtain ⟨otherUserLater, otherVersionLater⟩ :=
    second.client_eq otherAddressed (first.perform.run session).session
  refine Session.eq_of_store_eq ?_ ?_ (Store.eq_of_content? fun place => ?_)
  · rw [otherUserLater, user, userLater, otherUser]
  · rw [otherVersionLater, version, versionLater, otherVersion]
  · by_cases counter : place = .counter
    · subst counter
      exact congrArg some counted
    · exact apart.content?_eq addressed otherAddressed alike otherAlike counter

/-- Of two requests for different workspaces, of which one does not commit anything, each is
answered in the same way before and after the other one, and the order in which they are made
does not matter for what they leave behind. -/
theorem requests_commute (addressed : first.workspace? = some (project, specification))
    (otherAddressed : second.workspace? = some (otherProject, other))
    (apart : Apart session.currentUser project specification otherProject other)
    (quiet : (first.perform.run session).session.store.sequence = session.store.sequence ∨
      (second.perform.run session).session.store.sequence = session.store.sequence) :
    session.after [first, second] = session.after [second, first] ∧
      (second.perform.run (session.after [first])).result =
        (second.perform.run session).result ∧
      (first.perform.run (session.after [second])).result =
        (first.perform.run session).result := by
  have alike := apart.symm.alikeFor otherAddressed
  have otherAlike := apart.alikeFor addressed
  have matched := Matched.of_coupled alike (first.perform_coupled addressed alike)
  have otherMatched := Matched.of_coupled otherAlike
    (second.perform_coupled otherAddressed otherAlike)
  obtain ⟨same, stillAlike⟩ := matched.same (quiet.symm.imp Eq.symm id)
  obtain ⟨otherSame, otherStillAlike⟩ := otherMatched.same (quiet.imp Eq.symm id)
  obtain ⟨made, sequence, sequenceLater⟩ := matched.counted
  obtain ⟨otherMade, otherSequence, otherSequenceLater⟩ := otherMatched.counted
  have counted :
      (second.perform.run (first.perform.run session).session).session.store.sequence =
        (first.perform.run (second.perform.run session).session).session.store.sequence := by
    omega
  have sessions :=
    apart.session_eq addressed otherAddressed stillAlike otherStillAlike counted
  exact ⟨sessions, otherSame.symm, same.symm⟩

end

/-- A commit to the shared one of two workspaces with the same id. -/
def sharedCommit : Request :=
  .commitToWorkspace "p" Workspaces.sharedWorkspace "ours" [.put "a::e" "ours"]

/-- The deletion of the other one. -/
def homonymousDeletion : Request :=
  .deleteWorkspace "p" homonymousWorkspace

/-- Workspaces that differ in nothing but their owners are different ones, so that one of them
can be deleted before or after a commit to the other one. -/
theorem requests_commute_homonyms :
    homonymsSession.after [sharedCommit, homonymousDeletion] =
        homonymsSession.after [homonymousDeletion, sharedCommit] ∧
      (homonymousDeletion.perform.run (homonymsSession.after [sharedCommit])).result =
        .ok .done := by
  have addressed : sharedCommit.workspace? = some ("p", Workspaces.sharedWorkspace) := rfl
  have otherAddressed : homonymousDeletion.workspace? = some ("p", homonymousWorkspace) := rfl
  have apart : Apart homonymsSession.currentUser "p" Workspaces.sharedWorkspace "p"
      homonymousWorkspace := .inr fun same => nomatch same.owner
  have quiet : (homonymousDeletion.perform.run homonymsSession).session.store.sequence =
      homonymsSession.store.sequence := by decide +kernel
  have deleted : (homonymousDeletion.perform.run homonymsSession).result = .ok .done := by
    decide +kernel
  obtain ⟨commutes, answered, _⟩ :=
    requests_commute addressed otherAddressed apart (.inr quiet)
  exact ⟨commutes, answered.trans deleted⟩

end Workstream
