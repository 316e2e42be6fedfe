import Workstream.Proofs.Store.Perform
import Workstream.Proofs.Store.Reachable

/-!
# Requests are atomic

A request either takes a step as a whole or fails, and a failure leaves the session exactly
as it was: projects, streams, versions, branches, reviews and the number of the last commit.
The state of an action does carry over from a step that fails, so this rests on the order of
the steps: every operation makes all of its checks before its first change.

For commits the checks include the changes one after the other. A commit whose changes are
refused at some position fails with the refusal there, and what the changes before that
position had done is gone with it.
-/

namespace Workstream

namespace Change

/-- The change at a position cannot take effect on what the changes before it lead to. -/
def RefusedAt (changes : List Change) (position : Nat) (contents : Contents)
    (failure : Failure) : Prop :=
  ∃ between change, applyAll (changes.take position) contents = .ok between ∧
    changes[position]? = some change ∧ change.apply between = .error failure

/-- A list of changes fails with the refusal of one of them. -/
theorem applyAll_of_refusedAt {changes : List Change} {position : Nat} {contents : Contents}
    {failure : Failure} (refused : RefusedAt changes position contents failure) :
    applyAll changes contents = .error failure := by
  obtain ⟨between, change, earlier, isChange, refused⟩ := refused
  obtain ⟨inside, rfl⟩ := List.getElem?_eq_some_iff.1 isChange
  have split : changes = changes.take position ++ changes[position] ::
      changes.drop (position + 1) := by
    rw [List.getElem_cons_drop, List.take_append_drop]
  unfold applyAll at earlier ⊢
  rw [split, List.foldlM_append, earlier]
  change (changes[position] :: changes.drop (position + 1)).foldlM apply between = _
  rw [List.foldlM_cons, refused]
  rfl

end Change

namespace Action

variable {Result Next : Type} {session : Session} {failure : Failure}

/-- The action fails and leaves the session as it was. -/
def Fails (action : Action Result) (session : Session) (failure : Failure) : Prop :=
  (action.run session).result = .error failure ∧ (action.run session).session = session

namespace Fails

/-- Something that is looked up and missing ends the action. -/
theorem read {query : Session → Except Failure Result} (missing : query session = .error failure)
    (rest : Result → Action Next) : (Action.read query >>= rest).Fails session failure := by
  have unfolded : (Action.read query >>= rest).run session =
      andThen (Action.read query) rest session := rfl
  rw [Fails, unfolded, andThen]
  simp only [Action.read, missing]
  exact ⟨trivial, trivial⟩

/-- A value that is missing ends the action. -/
theorem ofExcept {value : Except Failure Result} (missing : value = .error failure)
    (rest : Result → Action Next) : (Action.ofExcept value >>= rest).Fails session failure := by
  subst missing
  exact ⟨rfl, rfl⟩

/-- A condition that holds ends the action. -/
theorem refuseIf {condition : Bool} (holds : condition = true) (failure : Failure)
    (rest : Unit → Action Next) :
    (Action.refuseIf condition failure >>= rest).Fails session failure := by
  subst holds
  exact ⟨rfl, rfl⟩

/-- An action fails when it fails after a part that changes nothing. -/
theorem bind {first : Action Result} {second : Result → Action Next} {result : Result}
    (gives : first.Gives session result session) (fails : (second result).Fails session failure) :
    (first >>= second).Fails session failure := by
  obtain ⟨ok, same⟩ := gives
  obtain ⟨failed, unchanged⟩ := fails
  have unfolded : (first >>= second).run session = andThen first second session := rfl
  have ok : (first session).result = .ok result := ok
  have same : (first session).session = session := same
  rw [Fails, unfolded, andThen]
  simp only [ok, same]
  exact ⟨failed, unchanged⟩

/-- Putting a result into another form does not help when there is none. -/
theorem map {action : Action Result} (fails : action.Fails session failure)
    (transform : Result → Next) : (transform <$> action).Fails session failure := by
  obtain ⟨failed, unchanged⟩ := fails
  have unfolded : (transform <$> action).run session =
      andThen action (fun result => done (transform result)) session := rfl
  have failed : (action session).result = .error failure := failed
  rw [Fails, unfolded, andThen]
  simp only [failed]
  exact ⟨trivial, unchanged⟩

end Fails

end Action

open Workstream.Action

variable {session : Session} {failure : Failure}

/-- A commit to a stream fails when its changes are refused at the head. -/
theorem Projects.commit_fails {name : String} {project : Project} {stream : DevelopmentStream}
    {head : Snapshot} {changes : List Change}
    (found : session.store.projects.get? name = some project)
    (isHead : project.head name stream = .ok head)
    (refused : Change.applyAll changes head.contents = .error failure) (message : String) :
    (commit name stream message changes).Fails session failure := by
  refine Fails.bind (Gives.project found) ?_
  refine Fails.bind (Gives.ofExcept isHead session) ?_
  exact Fails.ofExcept refused _

/-- A commit to a workspace fails when its changes are refused at the head. -/
theorem Workspaces.commit_fails {name : String} {specification : Specification} {found : Found}
    {changes : List Change} (isFound : find name specification session = .ok found)
    (refused : Change.applyAll changes found.branch.head.contents = .error failure)
    (message : String) : (commit name specification message changes).Fails session failure := by
  refine Fails.bind (Gives.read isFound) ?_
  exact Fails.ofExcept refused _

/-- A request that fails leaves the session as it was. -/
theorem Request.session_of_error {request : Request}
    (failed : (request.perform.run session).result = .error failure) :
    (request.perform.run session).session = session :=
  ((request.perform_meets session).of_error failed).2

/-- A request that fails changes nothing at all in the session, so everything after it goes
on as if it had not been made. A commit to a stream or to a workspace in which the change at
some position is refused fails for that reason: nothing is left of the changes before that
position, and the commit is not counted. -/
theorem failure_leaves_no_trace (session : Session) :
    (∀ request failure, (request.perform.run session).result = .error failure →
      (request.perform.run session).session = session ∧
        ∀ later, session.after (request :: later) = session.after later) ∧
    (∀ name project stream head, session.store.projects.get? name = some project →
      project.head name stream = .ok head → ∀ message changes position failure,
        Change.RefusedAt changes position head.contents failure →
          (Request.commitToStream name stream message changes).perform.Fails session failure) ∧
    ∀ name specification found, Workspaces.find name specification session = .ok found →
      ∀ message changes position failure,
        Change.RefusedAt changes position found.branch.head.contents failure →
          (Request.commitToWorkspace name specification message changes).perform.Fails session
            failure := by
  refine ⟨fun request failure failed => ?_, ?_, ?_⟩
  · have unchanged := Request.session_of_error failed
    exact ⟨unchanged, fun later => congrArg (·.after later) unchanged⟩
  · intro name project stream head found isHead message changes position failure refused
    have refused := Change.applyAll_of_refusedAt refused
    exact (Projects.commit_fails found isHead refused message).map _
  · intro name specification found isFound message changes position failure refused
    have refused := Change.applyAll_of_refusedAt refused
    exact (Workspaces.commit_fails isFound refused message).map _

/-- A session with a new project. -/
def startedSession : Session :=
  (Session.start (some "u") 13).after [.createProject "p" "g" "a"]

/-- A commit that puts an entity and then deletes another one, which is missing, leaves
nothing of the first entity behind. -/
theorem failure_leaves_no_trace_of_put :
    (Request.commitToStream "p" .mainLine "m"
      [.put "a::e" "content", .delete "a::f"]).perform.Fails startedSession
        (.missingEntity "a::f") := by
  have known : ((startedSession.store.projects.get? "p").bind fun project =>
      (project.head "p" .mainLine).toOption.map (·.contents)) =
        some (Projects.firstContents 13 "p" "g" "a") := by decide +kernel
  obtain ⟨project, found, known⟩ := Option.bind_eq_some_iff.1 known
  obtain ⟨head, isHead, contents⟩ := Option.map_eq_some_iff.1 known
  have isHead : project.head "p" .mainLine = .ok head := by
    cases value : project.head "p" .mainLine <;> simp_all [Except.toOption]
  refine (failure_leaves_no_trace startedSession).2.1 "p" project .mainLine head found isHead
    "m" _ 1 _ ?_
  rw [contents]
  exact ⟨_, _, rfl, rfl, rfl⟩

end Workstream
