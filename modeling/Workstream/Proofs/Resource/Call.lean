import Workstream.Proofs.Store.Atomicity
import Workstream.Resource.Patch

/-!
# Calls of resources are requests

A call either has parameters that are refused, and then it does nothing at all, or it stands
for a request, and then it is answered as the request is. What it logs besides has no influence
on the session. So what is known about requests carries over to calls.
-/

namespace Workstream

namespace BlamesClient

/-- A malformed parameter is the fault of the client. -/
theorem malformed {Value : Type} (read : Except Malformed Value) :
    BlamesClient (read.mapError .malformed : Except Failure Value) := by
  cases read with
  | error report => exact error (by simp [Failure.status])
  | ok value => exact ok value

/-- So is a parameter that is missing. -/
theorem required {Value : Type} (value : Option Value) (message : String) :
    BlamesClient (Workstream.required value message) := by
  cases value with
  | none => exact error (by simp [Failure.status])
  | some present => exact ok present

end BlamesClient

namespace PatchCall

variable {ownership : Ownership} {access : Access} {project : String} {version : Version}
  {text : Option String} {call : PatchCall} {session : Session} {failure : Failure}
  {description : String} {request : Request}

theorem aboutWorkspace_blames (workspace : String) (describe : Specification → String)
    (ask : Specification → Request) :
    BlamesClient (aboutWorkspace ownership access version workspace describe ask) :=
  .bind (.bind (.malformed _) fun _ _ => .ok _) fun _ _ => .ok _

/-- A call on a version is only refused for its workspace id. -/
theorem interpretOn_blames (ownership : Ownership) (project : String) (version : Version)
    (call : PatchCall) : BlamesClient (call.interpretOn ownership project version) := by
  cases call with
  | list => exact .ok _
  | compareReviewWithStream => exact .ok _
  | compareReviewWithCreation => exact .ok _
  | reviewBaseConfiguration => exact .ok _
  | reviewHeadConfiguration => exact .ok _
  | _ => exact aboutWorkspace_blames _ _ _

/-- Parameters are refused through the fault of the client. -/
theorem interpret_blames (ownership : Ownership) (project : String) (text : Option String)
    (call : PatchCall) : BlamesClient (call.interpret ownership project text) :=
  .bind (.required _ _) fun _ _ => .bind (.malformed _) fun _ _ => interpretOn_blames _ _ _ _

/-- A call whose parameters are refused does nothing. -/
theorem perform_fails (refused : call.interpret ownership project text = .error failure) :
    (call.perform ownership project text).Fails session failure :=
  Action.Fails.ofExcept refused _

/-- A call is what its request is. -/
theorem run_perform (meant : call.interpret ownership project text = .ok (description, request))
    (session : Session) :
    ((call.perform ownership project text).run session).result =
        (request.perform.run session).result ∧
      ((call.perform ownership project text).run session).session =
        (request.perform.run session).session := by
  rw [perform, meant]
  exact ⟨rfl, rfl⟩

/-- A call that fails does so through the fault of the client, and leaves the session as it
was. -/
theorem perform_of_error
    (failed : ((call.perform ownership project text).run session).result = .error failure) :
    failure.status ≠ .internal ∧
      ((call.perform ownership project text).run session).session = session := by
  cases meant : call.interpret ownership project text with
  | error refusal =>
    have fails : (call.perform ownership project text).Fails session refusal :=
      perform_fails meant
    obtain rfl : refusal = failure := Except.error.inj (fails.1.symm.trans failed)
    exact ⟨interpret_blames _ _ _ _ _ meant, fails.2⟩
  | ok meaning =>
    obtain ⟨result, after⟩ := run_perform meant session
    rw [after]
    exact (meaning.2.perform_meets session).of_error (result ▸ failed)

end PatchCall

end Workstream
