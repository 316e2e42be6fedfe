import Workstream.Proofs.Store.Step

/-!
# Steps in outline

Most requests deal with the branches of one project. What is said about histories, releases
and reviews need not tell these requests apart, so `Outline` leaves the branches open: it has
one constructor for all of them, and one for each way to change anything else.
-/

namespace Workstream

/-- The request adds to a history or to the reviews of a project. -/
def Request.isRecorded : Request → Bool
  | .commitToStream _ _ _ _ => true
  | .openReview _ _ => true
  | _ => false

/-- Queries are not recorded. -/
theorem Request.isRecorded_of_isQuery {request : Request} (isQuery : request.isQuery = true) :
    request.isRecorded = false := by
  cases request <;> first | rfl | cases isQuery

/-- What a step does to the projects, whatever it does to their branches. -/
inductive Outline (before after : Session) : Request → Answer → Prop where
  | idle {request : Request} {answer : Answer} (unrecorded : request.isRecorded = false)
      (set : after.store.projects = before.store.projects) : Outline before after request answer
  | rebranched {request : Request} {answer : Answer} {name : String} {state : Project}
      {branches : SortedMap String Branch} (unrecorded : request.isRecorded = false)
      (found : before.store.projects.get? name = some state)
      (set : after.store.projects = before.store.projects.insert name { state with branches }) :
      Outline before after request answer
  | created {request : Request} {answer : Answer} {name : String} {first : Snapshot}
      (unrecorded : request.isRecorded = false)
      (absent : before.store.projects.get? name = none)
      (set : after.store.projects = before.store.projects.insert name (.start first)) :
      Outline before after request answer
  | released {request : Request} {answer : Answer} {name : String} {state : Project}
      {version : Version} {head : Snapshot} (unrecorded : request.isRecorded = false)
      (found : before.store.projects.get? name = some state)
      (absent : state.versions.get? version = none)
      (set : after.store.projects =
        before.store.projects.insert name (state.addVersion version head)) :
      Outline before after request answer
  | patchOpened {request : Request} {answer : Answer} {name : String} {state : Project}
      {version : Version} {first : Snapshot} (unrecorded : request.isRecorded = false)
      (found : before.store.projects.get? name = some state)
      (absent : state.streams.get? (.patch version) = none)
      (set : after.store.projects =
        before.store.projects.insert name (state.addPatch version first)) :
      Outline before after request answer
  | committed {project : String} {stream : DevelopmentStream} {message : String}
      {changes : List Change} {revision : Revision}
      (committed : Projects.Committed project stream message changes before revision after) :
      Outline before after (.commitToStream project stream message changes) (.revision revision)
  | reviewed {project : String} {specification : Specification} {review : Review}
      (opened : Reviews.Opened project specification before review after) :
      Outline before after (.openReview project specification) (.review review)

/-- Every step has an outline. -/
theorem Step.outline {before after : Session} {request : Request} {answer : Answer}
    (step : Step before request answer after) : Outline before after request answer := by
  cases step with
  | query isQuery _ => exact .idle (Request.isRecorded_of_isQuery isQuery) rfl
  | becomeUser user => exact .idle rfl rfl
  | createProject created =>
    cases created with
    | intro absent minted => exact .created rfl absent rfl
  | releaseVersion released =>
    cases released with
    | intro found absent isHead => exact .released rfl found absent rfl
  | openPatch opened =>
    cases opened with
    | intro found absent isReleased => exact .patchOpened rfl found absent rfl
  | commitToStream committed => exact .committed committed
  | commitToWorkspace committed =>
    cases committed with
    | intro named found stored changed minted => exact .rebranched rfl found rfl
  | openReview opened => exact .reviewed opened
  | createWorkspace created =>
    cases created with
    | intro live named found absent isHead => exact .rebranched rfl found rfl
  | deleteWorkspace deleted =>
    cases deleted with
    | live live named resolutionNamed found stored => exact .rebranched rfl found rfl
    | alone notLive named found stored => exact .rebranched rfl found rfl
  | updateWorkspace updated =>
    cases updated with
    | unchanged updatable current => exact .idle rfl rfl
    | moved updatable outdated clean idle => exact .rebranched rfl updatable.found rfl
    | replayed updatable outdated clean carries minted =>
      exact .rebranched rfl updatable.found rfl
    | conflicting updatable outdated conflicts minted =>
      exact .rebranched rfl updatable.found rfl
  | discardBackup discarded =>
    cases discarded with
    | intro named found stored => exact .rebranched rfl found rfl
  | recoverBackup recovered =>
    cases recovered with
    | intro named backupNamed found stored allowed => exact .rebranched rfl found rfl

end Workstream
