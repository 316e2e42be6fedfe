import Workstream.Proofs.Resource.Call
import Workstream.Proofs.Store.Isolation

/-!
# The resources of a patch stream are isolated

A call on a version is a request about the patch stream of this version. So what a client
learns from the resources of a patch stream, and what the calls leave behind there, does not
depend on the main line, on other patch streams or on what is reviewed there.
-/

namespace Workstream

namespace PatchCall

variable {ownership : Ownership} {access : Access} {project : String} {version : Version}
  {call : PatchCall} {description : String} {request : Request}

/-- A call about a workspace is a request for a workspace of the patch stream. -/
theorem aboutWorkspace_eq_ok {workspace : String} {describe : Specification → String}
    {ask : Specification → Request}
    (meant : aboutWorkspace ownership access version workspace describe ask =
      .ok (description, request)) :
    ∃ specification : Specification, specification.stream = .patch version ∧
      request = ask specification := by
  obtain ⟨specification, isSpecification, meant⟩ := bind_eq_ok_iff.1 meant
  obtain ⟨id, _, isSpecification⟩ := bind_eq_ok_iff.1 isSpecification
  cases isSpecification
  cases meant
  exact ⟨_, rfl, rfl⟩

/-- A call on a version is a request about the patch stream of the version. -/
theorem stream?_of_interpretOn
    (meant : call.interpretOn ownership project version = .ok (description, request)) :
    request.stream? = some (project, .patch version) := by
  have about {access : Access} {workspace : String} {describe : Specification → String}
      {ask : Specification → Request}
      (asks : ∀ specification, (ask specification).stream? = some (project, specification.stream))
      (meant : aboutWorkspace ownership access version workspace describe ask =
        .ok (description, request)) : request.stream? = some (project, .patch version) := by
    obtain ⟨specification, onStream, rfl⟩ := aboutWorkspace_eq_ok meant
    rw [asks, onStream]
  cases call with
  | list widen =>
    cases ownership <;> cases widen <;> cases meant <;> rfl
  | compareReviewWithStream => cases meant; rfl
  | compareReviewWithCreation => cases meant; rfl
  | reviewBaseConfiguration => cases meant; rfl
  | reviewHeadConfiguration => cases meant; rfl
  | _ => exact about (fun _ => rfl) meant

end PatchCall

/-- A call of a resource of a project, which is made on a version. -/
structure ResourceCall where
  ownership : Ownership
  version : String
  asked : PatchCall

/-- Answer a call of a resource. -/
def ResourceCall.perform (project : String) (call : ResourceCall) : Action Answer :=
  call.asked.perform call.ownership project (some call.version)

namespace Session

/-- The results of calls that are made one after the other. -/
def results (project : String) (session : Session) :
    List ResourceCall → List (Except Failure Answer)
  | [] => []
  | call :: later =>
    let outcome := (call.perform project).run session
    outcome.result :: outcome.session.results project later

/-- The session after some calls, made one after the other. -/
def afterCalls (project : String) (session : Session) (calls : List ResourceCall) : Session :=
  calls.foldl (fun current call => ((call.perform project).run current).session) session

end Session

section

variable {project : String} {version : Version} {first second : Session}

/-- A call on a version is answered alike in sessions that agree on the patch stream, and they
agree on it afterwards. -/
theorem ResourceCall.perform_agree {call : ResourceCall}
    (onVersion : Version.parse call.version = .ok version)
    (agree : first.AgreeOn project (.patch version) second) :
    ((call.perform project).run first).result = ((call.perform project).run second).result ∧
      ((call.perform project).run first).session.AgreeOn project (.patch version)
        ((call.perform project).run second).session := by
  obtain ⟨ownership, text, asked⟩ := call
  have meaning : asked.interpret ownership project (some text) =
      asked.interpretOn ownership project version := by
    have onVersion : Version.parse text = .ok version := onVersion
    simp [PatchCall.interpret, required, onVersion, Except.mapError]
  cases meant : asked.interpretOn ownership project version with
  | error refusal =>
    have fails (session) : (asked.perform ownership project (some text)).Fails session refusal :=
      PatchCall.perform_fails (meaning.trans meant)
    rw [perform, (fails first).1, (fails first).2, (fails second).1, (fails second).2]
    exact ⟨rfl, agree⟩
  | ok described =>
    obtain ⟨description, request⟩ := described
    obtain ⟨result, after⟩ := PatchCall.run_perform (meaning.trans meant) first
    obtain ⟨otherResult, otherAfter⟩ := PatchCall.run_perform (meaning.trans meant) second
    obtain ⟨same, agreeAfter⟩ :=
      request.answeredAlike (PatchCall.stream?_of_interpretOn meant) agree
    rw [perform, result, after, otherResult, otherAfter]
    exact ⟨same, agreeAfter⟩

/-- In two sessions that agree on the patch stream of a version, calls of the resources on this
version get the same answers and the same failures, and the sessions agree on the stream
afterwards. They agree on it when they have one current user, have counted as many commits,
hold the same projects with the same releases, and hold the same history of the stream, the
same branches on it and the same reviews for it, whatever else there is in them. -/
theorem patch_calls_isolated (agree : first.AgreeOn project (.patch version) second)
    (calls : List ResourceCall)
    (onVersion : ∀ call ∈ calls, Version.parse call.version = .ok version) :
    first.results project calls = second.results project calls ∧
      (first.afterCalls project calls).AgreeOn project (.patch version)
        (second.afterCalls project calls) := by
  induction calls generalizing first second with
  | nil => exact ⟨rfl, agree⟩
  | cons call later ih =>
    obtain ⟨onVersion, laterOnVersion⟩ := List.forall_mem_cons.1 onVersion
    obtain ⟨same, agreeAfter⟩ := ResourceCall.perform_agree onVersion agree
    obtain ⟨sameLater, agreeLast⟩ := ih agreeAfter laterOnVersion
    exact ⟨congrArg₂ List.cons same sameLater, agreeLast⟩

end

/-- The version of a patch stream. -/
def patchedVersion : Version := ⟨⟨2, by decide⟩, ⟨4, by decide⟩, ⟨6, by decide⟩⟩

/-- A session with a workspace on a patch stream and one on the main line. -/
def patchedSession : Session :=
  (Session.start (some "u") 13).after
    [.createProject "p" "g" "a", .releaseVersion "p" patchedVersion, .openPatch "p" patchedVersion,
      .createWorkspace "p" (.forPatchGroup Workspaces.sharedWorkspace.id patchedVersion),
      .createWorkspace "p" Workspaces.sharedWorkspace]

/-- The session after a review and a commit on the main line. -/
def reviewedMainLine : Session :=
  patchedSession.after
    [.openReview "p" Workspaces.sharedWorkspace,
      .commitToStream "p" .mainLine "go on" [.put "a::e" "here"]]

/-- The session after a commit to the workspace on the main line. -/
def extendedMainLine : Session :=
  patchedSession.after
    [.commitToWorkspace "p" Workspaces.sharedWorkspace "go elsewhere" [.put "a::e" "there"]]

/-- Calls on the patch stream, of which the last one fails. -/
def patchCalls : List ResourceCall :=
  [⟨.user, "2.4.6", .create "w"⟩, ⟨.group, "2.4.6", .update "group"⟩,
    ⟨.user, "2.4.6", .list false⟩, ⟨.group, "2.4.6", .reviewHeadConfiguration "1"⟩]

/-- What happened on the main line makes no difference to the calls on the patch stream. -/
theorem patch_calls_isolated_forked :
    reviewedMainLine ≠ extendedMainLine ∧
      reviewedMainLine.results "p" patchCalls = extendedMainLine.results "p" patchCalls ∧
      (reviewedMainLine.afterCalls "p" patchCalls).AgreeOn "p" (.patch patchedVersion)
        (extendedMainLine.afterCalls "p" patchCalls) := by
  have agree : reviewedMainLine.AgreeOn "p" (.patch patchedVersion) extendedMainLine :=
    .of_shown (by decide +kernel) (by decide +kernel)
  refine ⟨by decide +kernel, patch_calls_isolated agree patchCalls ?_⟩
  decide +kernel

end Workstream
