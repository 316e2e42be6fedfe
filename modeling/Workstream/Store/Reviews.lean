import Workstream.Store.Workspaces

/-!
# Reviews

A review keeps the base and the head that a live workspace had when the review was
opened. What happens to the workspace later does not change the review.
-/

namespace Workstream.Reviews

/-- Open a review of a live workspace for its stream. -/
def create (project : String) (specification : Specification) : Action Review := do
  let found ← Action.read (Workspaces.find project (specification.withAccess .live))
  let review : Review :=
    { id := toString (found.project.reviews.size + 1)
      project
      workspace := found.specification
      target := found.specification.stream }
  Action.modifyProject project
    (·.addReview { review, base := found.branch.base, head := found.branch.head })
  Action.inform "opened review" project
    [("review", .text review.id), ("branch", .text found.name)]
  return review

/-- The review with a given id. -/
def find (project : String) (stream : DevelopmentStream) (id : String) (session : Session) :
    Except Failure ReviewRecord := do
  let state ← session.store.project project
  state.review project stream id

/-- How the reviewed head differs from the latest revision of the stream. -/
def comparison (project : String) (stream : DevelopmentStream) (id : String)
    (session : Session) : Except Failure Comparison := do
  let state ← session.store.project project
  let record ← state.review project stream id
  let head ← state.head project stream
  return .of head record.head

/-- What the reviewed workspace has changed since it was cut from the stream. -/
def creationComparison (project : String) (stream : DevelopmentStream) (id : String)
    (session : Session) : Except Failure Comparison := do
  let record ← find project stream id session
  return .of record.base record.head

/-- The configuration that the reviewed workspace started from. -/
def baseConfiguration (project : String) (stream : DevelopmentStream) (id : String)
    (session : Session) : Except Failure Configuration := do
  let record ← find project stream id session
  return record.base.contents.configuration

/-- The configuration of the reviewed head. -/
def headConfiguration (project : String) (stream : DevelopmentStream) (id : String)
    (session : Session) : Except Failure Configuration := do
  let record ← find project stream id session
  return record.head.contents.configuration

end Workstream.Reviews
