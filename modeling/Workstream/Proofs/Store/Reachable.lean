import Workstream.Proofs.Store.Perform

/-!
# Reachable sessions

A session is reachable when it comes about from an empty store by requests, whatever
their parameters and whether or not they succeed. Since a request that fails changes
nothing, an invariant of reachable sessions has to be checked for steps only.
-/

namespace Workstream

/-- The sessions that requests lead to, starting with an empty store. -/
inductive Session.Reachable : Session → Prop where
  | start (currentUser : Option String) (structureVersion : Nat) :
      Reachable (.start currentUser structureVersion)
  | perform {session : Session} (reachable : Reachable session) (request : Request) :
      Reachable (request.perform.run session).session

/-- What holds of an empty store and is preserved by the steps of reachable sessions holds of
all of them. -/
theorem Session.Reachable.invariant {holds : Session → Prop}
    (initial : ∀ currentUser structureVersion, holds (.start currentUser structureVersion))
    (preserved : ∀ {before request answer after}, before.Reachable → holds before →
      Step before request answer after → holds after)
    {session : Session} (reachable : session.Reachable) : holds session := by
  induction reachable with
  | start currentUser structureVersion => exact initial currentUser structureVersion
  | @perform session reachable request ih =>
    have meets := request.perform_meets session
    cases value : (request.perform.run session).result with
    | ok answer => exact preserved reachable ih (meets.of_ok value)
    | error failure => exact (meets.of_error value).2.symm ▸ ih

namespace Session

/-- The session after some requests, performed one after the other. -/
def after (session : Session) (requests : List Request) : Session :=
  requests.foldl (fun current request => (request.perform.run current).session) session

/-- Requests lead from reachable sessions to reachable sessions. -/
theorem Reachable.after {session : Session} (reachable : session.Reachable)
    (requests : List Request) : (session.after requests).Reachable := by
  induction requests generalizing session with
  | nil => exact reachable
  | cons request rest ih => exact ih (reachable.perform request)

end Session

end Workstream
