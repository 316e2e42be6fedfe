import Workstream.Proofs.Store.Reachable

/-!
# Runs

A run is what a list of requests does to a session. Only a request that succeeds leaves
something behind, and it is recorded as an exchange: the session that it found, the request
and its answer. `Session.exchanges` lists the exchanges of a run in their order, and `Steps`
says that steps are joined end to end. What holds of runs is proved by induction on their
exchanges, with `Steps.invariant`.
-/

namespace Workstream

/-- A request that succeeded. -/
structure Exchange where
  before : Session
  request : Request
  answer : Answer

/-- Exchanges that are joined end to end by steps. -/
inductive Steps : Session → List Exchange → Session → Prop where
  | nil (session : Session) : Steps session [] session
  | cons {before middle after : Session} {request : Request} {answer : Answer}
      {later : List Exchange} (step : Step before request answer middle)
      (rest : Steps middle later after) : Steps before (⟨before, request, answer⟩ :: later) after

/-- A relation between what has happened and the session that it has led to holds after
further steps when every step preserves it. -/
theorem Steps.invariant (holds : List Exchange → Session → Prop)
    (preserved : ∀ {past before request answer after}, holds past before →
      Step before request answer after → holds (past ++ [⟨before, request, answer⟩]) after)
    {past later : List Exchange} {before after : Session} (steps : Steps before later after)
    (initial : holds past before) : holds (past ++ later) after := by
  induction steps generalizing past with
  | nil session => simpa using initial
  | cons step _ ih =>
    have extended := ih (preserved initial step)
    rwa [List.append_assoc] at extended

namespace Session

/-- The exchanges of a run, oldest first. -/
def exchanges (session : Session) : List Request → List Exchange
  | [] => []
  | request :: later =>
    let outcome := request.perform.run session
    match outcome.result with
    | .ok answer => ⟨session, request, answer⟩ :: outcome.session.exchanges later
    | .error _ => outcome.session.exchanges later

/-- The exchanges of a run that goes on come after those that it had before. -/
theorem exchanges_append (session : Session) (earlier later : List Request) :
    session.exchanges (earlier ++ later) =
      session.exchanges earlier ++ (session.after earlier).exchanges later := by
  induction earlier generalizing session with
  | nil => rfl
  | cons request earlier ih =>
    have rest := ih (request.perform.run session).session
    simp only [List.cons_append, exchanges]
    split
    · rw [List.cons_append]
      exact congrArg _ rest
    · exact rest

/-- A run is joined end to end by the steps of its exchanges. -/
theorem steps_exchanges (session : Session) (requests : List Request) :
    Steps session (session.exchanges requests) (session.after requests) := by
  induction requests generalizing session with
  | nil => exact .nil session
  | cons request later ih =>
    have meets := request.perform_meets session
    have rest := ih (request.perform.run session).session
    simp only [exchanges]
    cases value : (request.perform.run session).result with
    | ok answer => exact .cons (meets.of_ok value) rest
    | error failure =>
      -- A failed request is no exchange, and it leaves the session where the rest starts.
      have unchanged := (meets.of_error value).2
      change Steps session _ ((request.perform.run session).session.after later)
      rw [unchanged] at rest ⊢
      exact rest

end Session

end Workstream
