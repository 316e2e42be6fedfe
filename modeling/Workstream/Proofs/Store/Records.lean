import Workstream.Proofs.Store.Numbering
import Workstream.Proofs.Store.UpdateOutcome

/-!
# What a project keeps

Workspaces come and go, but what a project has on record stays there: every history is the
start of the later history, and what a history has grown by are the revisions that were
committed to the stream, one after the other. Releases and reviews stay as they are, so what
is asked about them is always answered in the same way.

`KeptIn` relates a project to its later states. It is reflexive and transitive, and a step
has to be looked at once.
-/

namespace Workstream

/-- A commit to a stream that succeeded. -/
structure StreamCommit where
  message : String
  changes : List Change
  author : String
  /-- The revision that was answered. -/
  revision : Revision

/-- The commit makes one revision from another: it applies its changes to the contents, and
the new revision is the one that was answered. -/
structure StreamCommit.Makes (commit : StreamCommit) (head next : Snapshot) : Prop where
  changed : Change.applyAll commit.changes head.contents = .ok next.contents
  /-- The revision is the one that was answered. -/
  answered : next.revision = commit.revision
  signed : next.revision.message = commit.message ∧ next.revision.author = commit.author

/-- Revisions that were made one after the other on top of a head, one for each commit. -/
inductive Continues : Option Snapshot → List StreamCommit → List Snapshot → Prop where
  | nil (head : Option Snapshot) : Continues head [] []
  /-- A commit makes the first revision, and the others continue from it. -/
  | cons {head next : Snapshot} {commit : StreamCommit} {commits : List StreamCommit}
      {made : List Snapshot} (makes : commit.Makes head next)
      (rest : Continues (some next) commits made) :
      Continues (some head) (commit :: commits) (next :: made)

/-- What was made can be continued from its last revision. -/
theorem Continues.append {head : Option Snapshot} {commits more : List StreamCommit}
    {made later : List Snapshot} (first : Continues head commits made)
    (second : Continues (made.getLast?.or head) more later) :
    Continues head (commits ++ more) (made ++ later) := by
  induction first with
  | nil head => exact second
  | @cons head next commit commits made makes _ ih =>
    refine .cons makes (ih ?_)
    have last : (next :: made).getLast?.or (some head) = made.getLast?.or (some next) := by
      cases isLast : made.getLast? <;> simp [List.getLast?_cons, isLast]
    rwa [last] at second

/-- The commit that an exchange made to a stream. -/
def Exchange.commitTo? (name : String) (stream : DevelopmentStream) (exchange : Exchange) :
    Option StreamCommit :=
  match exchange.request, exchange.answer with
  | .commitToStream project target message changes, .revision revision =>
    if project = name ∧ target = stream then
      some { message, changes, author := exchange.before.author, revision }
    else
      none
  | _, _ => none

/-- Only what is recorded makes a commit to a stream. -/
theorem Exchange.commitTo?_of_unrecorded {exchange : Exchange} (name : String)
    (stream : DevelopmentStream) (unrecorded : exchange.request.isRecorded = false) :
    exchange.commitTo? name stream = none := by
  obtain ⟨before, request, answer⟩ := exchange
  cases request <;> first | rfl | cases unrecorded

/-- The commits that were made to a stream, oldest first. -/
def commitsTo (name : String) (stream : DevelopmentStream) (exchanges : List Exchange) :
    List StreamCommit :=
  exchanges.filterMap (Exchange.commitTo? name stream)

/-- The commits of two parts of a run come after one another. -/
theorem commitsTo_append (name : String) (stream : DevelopmentStream)
    (earlier later : List Exchange) : commitsTo name stream (earlier ++ later) =
      commitsTo name stream earlier ++ commitsTo name stream later :=
  List.filterMap_append

/-- An exchange that is no commit to a stream adds nothing to its commits. -/
theorem commitsTo_singleton {name : String} {stream : DevelopmentStream} {exchange : Exchange}
    (silent : exchange.commitTo? name stream = none) : commitsTo name stream [exchange] = [] := by
  simp [commitsTo, silent]

/-- What a project has on record is kept in a later state, and the histories have grown by
the given commits. -/
structure Project.KeptIn (before after : Project)
    (commits : DevelopmentStream → List StreamCommit) : Prop where
  /-- A history is continued by the commits to its stream. -/
  streams : ∀ stream history, before.streams.get? stream = some history →
    ∃ made, after.streams.get? stream = some (history ++ made) ∧
      Continues history.getLast? (commits stream) made
  versions : ∀ version released, before.versions.get? version = some released →
    after.versions.get? version = some released
  reviews : ∀ id record, before.reviews.get? id = some record →
    after.reviews.get? id = some record

namespace Project.KeptIn

variable {before middle after : Project} {commits more : DevelopmentStream → List StreamCommit}

/-- Without commits it is enough that everything is still found. -/
theorem of_idle (idle : ∀ stream, commits stream = [])
    (streams : ∀ stream history, before.streams.get? stream = some history →
      after.streams.get? stream = some history)
    (versions : ∀ version released, before.versions.get? version = some released →
      after.versions.get? version = some released)
    (reviews : ∀ id record, before.reviews.get? id = some record →
      after.reviews.get? id = some record) : before.KeptIn after commits := by
  refine ⟨fun stream history stored => ⟨[], ?_, ?_⟩, versions, reviews⟩
  · rw [List.append_nil]
    exact streams stream history stored
  · rw [idle]
    exact .nil _

/-- A change of the branches keeps everything. -/
theorem withBranches (idle : ∀ stream, commits stream = [])
    (branches : SortedMap String Branch) :
    before.KeptIn { before with branches } commits :=
  .of_idle idle (fun _ _ stored => stored) (fun _ _ stored => stored) fun _ _ stored => stored

/-- What is kept for some time and then again is kept for the whole time. -/
theorem trans (first : before.KeptIn middle commits) (second : middle.KeptIn after more) :
    before.KeptIn after fun stream => commits stream ++ more stream := by
  refine ⟨fun stream history stored => ?_, ?_, ?_⟩
  · obtain ⟨made, stored, continues⟩ := first.streams stream history stored
    obtain ⟨later, stored, continued⟩ := second.streams stream _ stored
    rw [List.getLast?_append] at continued
    exact ⟨made ++ later, by rw [stored, List.append_assoc], continues.append continued⟩
  · exact fun version released stored =>
      second.versions version released (first.versions version released stored)
  · exact fun id record stored => second.reviews id record (first.reviews id record stored)

end Project.KeptIn

/-- A version that is released is the only change. -/
theorem Project.keptIn_addVersion {project : Project} {version : Version}
    (absent : project.versions.get? version = none) (released : Snapshot)
    {commits : DevelopmentStream → List StreamCommit} (idle : ∀ stream, commits stream = []) :
    project.KeptIn (project.addVersion version released) commits :=
  .of_idle idle (fun _ _ stored => stored)
    (fun _ _ stored => SortedMap.get?_insert_of_absent absent stored released)
    fun _ _ stored => stored

/-- A patch stream that is opened is the only change. -/
theorem Project.keptIn_addPatch {project : Project} {version : Version}
    (absent : project.streams.get? (.patch version) = none) (first : Snapshot)
    {commits : DevelopmentStream → List StreamCommit} (idle : ∀ stream, commits stream = []) :
    project.KeptIn (project.addPatch version first) commits :=
  .of_idle idle (fun _ _ stored => SortedMap.get?_insert_of_absent absent stored [first])
    (fun _ _ stored => stored) fun _ _ stored => stored

/-- A review that is opened is the only change. -/
theorem Project.keptIn_addReview {project : Project} {record : ReviewRecord}
    (absent : project.reviews.get? record.review.id = none)
    {commits : DevelopmentStream → List StreamCommit} (idle : ∀ stream, commits stream = []) :
    project.KeptIn (project.addReview record) commits :=
  .of_idle idle (fun _ _ stored => stored) (fun _ _ stored => stored)
    fun _ _ stored => SortedMap.get?_insert_of_absent absent stored record

/-- A commit to a stream continues its history, and the other ones stay as they are. -/
theorem Project.keptIn_pushRevision {project : Project} {name : String}
    {stream : DevelopmentStream} {head next : Snapshot} {commit : StreamCommit}
    (isHead : project.head name stream = .ok head) (makes : commit.Makes head next)
    {commits : DevelopmentStream → List StreamCommit} (made : commits stream = [commit])
    (idle : ∀ other, other ≠ stream → commits other = []) :
    project.KeptIn (project.pushRevision stream next) commits := by
  refine ⟨fun other history stored => ?_, fun _ _ stored => stored, fun _ _ stored => stored⟩
  by_cases same : other = stream
  · subst same
    obtain ⟨known, isKnown, last⟩ := head_eq_ok_iff.1 isHead
    obtain rfl : history = known := Option.some.inj (stored.symm.trans isKnown)
    refine ⟨[next], ?_, ?_⟩
    · simp [stored]
    · rw [last, made]
      exact .cons makes (.nil _)
  · refine ⟨[], ?_, ?_⟩
    · rw [List.append_nil, ← stored]
      exact SortedMap.get?_insert_of_ne _ _ same
    · rw [idle other same]
      exact .nil _

/-- What the projects of a session have on record is kept in a later session, and the
histories have grown by the commits of the exchanges in between. -/
def Session.KeptIn (before after : Session) (exchanges : List Exchange) : Prop :=
  ∀ name project, before.store.projects.get? name = some project →
    ∃ kept, after.store.projects.get? name = some kept ∧
      project.KeptIn kept fun stream => commitsTo name stream exchanges

namespace Session.KeptIn

variable {before middle after : Session} {earlier later : List Exchange} {exchange : Exchange}

/-- Projects that are left alone are kept. -/
theorem of_projects_eq (silent : ∀ name stream, commitsTo name stream earlier = [])
    (same : after.store.projects = before.store.projects) : before.KeptIn after earlier :=
  fun name project found =>
    ⟨project, same ▸ found, .withBranches (silent name) project.branches⟩

/-- What is kept for some time and then again is kept for the whole time. -/
theorem trans (first : before.KeptIn middle earlier) (second : middle.KeptIn after later) :
    before.KeptIn after (earlier ++ later) := by
  intro name project found
  obtain ⟨between, found, kept⟩ := first name project found
  obtain ⟨last, found, keptAgain⟩ := second name between found
  refine ⟨last, found, ?_⟩
  simp only [commitsTo_append]
  exact kept.trans keptAgain

/-- When a project is set to a state in which it is kept, all projects are kept. -/
theorem of_insert {name : String} {project changed : Project}
    (found : before.store.projects.get? name = some project)
    (set : after.store.projects = before.store.projects.insert name changed)
    (kept : project.KeptIn changed fun stream => commitsTo name stream [exchange])
    (silent : ∀ other stream, other ≠ name → exchange.commitTo? other stream = none) :
    before.KeptIn after [exchange] := by
  intro other state stored
  rw [set]
  by_cases same : other = name
  · subst same
    obtain rfl : project = state := Option.some.inj (found.symm.trans stored)
    exact ⟨changed, SortedMap.get?_insert_self _ _ _, kept⟩
  · refine ⟨state, (SortedMap.get?_insert_of_ne _ _ same).trans stored, ?_⟩
    exact .withBranches (fun stream => commitsTo_singleton (silent other stream same)) _

/-- A commit to a stream makes the next revision of its history. -/
theorem committed {project : String} {stream : DevelopmentStream} {message : String}
    {changes : List Change} {revision : Revision}
    (committed : Projects.Committed project stream message changes before revision after) :
    before.KeptIn after
      [⟨before, .commitToStream project stream message changes, .revision revision⟩] := by
  cases committed with
  | @intro state head next contents found isHead changed minted =>
    have makes : StreamCommit.Makes
        { message, changes, author := before.author, revision := next.revision } head next := by
      subst minted
      exact ⟨changed, rfl, rfl, rfl⟩
    refine .of_insert found rfl (Project.keptIn_pushRevision isHead makes ?_ ?_) ?_
    · simp [commitsTo, Exchange.commitTo?]
    · intro other differs
      exact commitsTo_singleton (by simp [Exchange.commitTo?, differs.symm])
    · intro other target differs
      simp [Exchange.commitTo?, differs.symm]

/-- A review that is opened is given a number that was not in use. -/
theorem reviewed {past : List Exchange} (numbered : before.Numbered past) {project : String}
    {specification : Specification} {review : Review}
    (opened : Reviews.Opened project specification before review after) :
    before.KeptIn after [⟨before, .openReview project specification, .review review⟩] := by
  cases opened with
  | intro named found stored isReview =>
    have absent := numbered.next_absent found
    exact .of_insert found rfl (Project.keptIn_addReview (isReview ▸ absent) fun _ => rfl)
      fun _ _ _ => rfl

end Session.KeptIn

/-- A step keeps what is on record. -/
theorem Step.keptIn {past : List Exchange} {before after : Session} {request : Request}
    {answer : Answer} (step : Step before request answer after)
    (numbered : before.Numbered past) : before.KeptIn after [⟨before, request, answer⟩] := by
  have silent (unrecorded : request.isRecorded = false) (name : String)
      (stream : DevelopmentStream) :
      Exchange.commitTo? name stream ⟨before, request, answer⟩ = none :=
    Exchange.commitTo?_of_unrecorded name stream unrecorded
  cases step.outline with
  | idle unrecorded set =>
    exact .of_projects_eq
      (fun name stream => commitsTo_singleton (silent unrecorded name stream)) set
  | @rebranched _ _ name _ branches unrecorded found set =>
    exact .of_insert found set
      (.withBranches (fun stream => commitsTo_singleton (silent unrecorded name stream)) branches)
      fun other stream _ => silent unrecorded other stream
  | created unrecorded absent set =>
    intro name project found
    refine ⟨project, ?_, ?_⟩
    · rw [set]
      exact SortedMap.get?_insert_of_absent absent found _
    · exact .withBranches
        (fun stream => commitsTo_singleton (silent unrecorded name stream)) _
  | @released _ _ name _ _ head unrecorded found absent set =>
    exact .of_insert found set
      (Project.keptIn_addVersion absent head
        fun stream => commitsTo_singleton (silent unrecorded name stream))
      fun other stream _ => silent unrecorded other stream
  | @patchOpened _ _ name _ _ first unrecorded found absent set =>
    exact .of_insert found set
      (Project.keptIn_addPatch absent first
        fun stream => commitsTo_singleton (silent unrecorded name stream))
      fun other stream _ => silent unrecorded other stream
  | committed committed => exact .committed committed
  | reviewed opened => exact .reviewed numbered opened

/-- Steps keep what is on record. -/
theorem Steps.keptIn {past later : List Exchange} {before after : Session}
    (steps : Steps before later after) (numbered : before.Numbered past) :
    before.KeptIn after later := by
  -- The numbers are carried along, since a new review must not take the place of an old one.
  induction steps generalizing past with
  | nil session => exact .of_projects_eq (fun _ _ => rfl) rfl
  | cons step _ ih => exact (step.keptIn numbered).trans (ih (step.numbered numbered))

/-- In a run everything on record is kept. -/
theorem Session.keptIn_after (currentUser : Option String) (structureVersion : Nat)
    (earlier later : List Request) :
    ((Session.start currentUser structureVersion).after earlier).KeptIn
      (((Session.start currentUser structureVersion).after earlier).after later)
      (((Session.start currentUser structureVersion).after earlier).exchanges later) := by
  have numbered := (steps_exchanges _ earlier).numbered (.start currentUser structureVersion)
  exact (steps_exchanges _ later).keptIn numbered

/-- The request asks about what is on record: about a release or a review. -/
def Request.isLasting : Request → Bool
  | .versionConfiguration _ _ => true
  | .reviewBaseConfiguration _ _ _ => true
  | .reviewHeadConfiguration _ _ _ => true
  | .compareReviewWithCreation _ _ _ => true
  | _ => false

/-- A query answers with what it finds. -/
theorem Action.query_eq_ok_iff {Result : Type} {query : Session → Except Failure Result}
    {transform : Result → Answer} {session : Session} {answer : Answer} :
    ((transform <$> Action.read query).run session).result = .ok answer ↔
      ∃ result, query session = .ok result ∧ transform result = answer := by
  have unfolded : ((transform <$> Action.read query).run session).result =
      (andThen (read query) (fun result => done (transform result)) session).result := rfl
  rw [unfolded]
  cases found : query session with
  | error failure => simp [andThen, read, found]
  | ok result => simp [andThen, read, done, found]

/-- A review that is looked up is stored under its id and meant for the stream. -/
theorem Project.review_eq_ok_iff {project : Project} {name : String}
    {stream : DevelopmentStream} {id : String} {record : ReviewRecord} :
    project.review name stream id = .ok record ↔
      project.reviews.get? id = some record ∧ record.review.target = stream := by
  unfold Project.review
  cases stored : project.reviews.get? id with
  | none => simp
  | some other =>
    by_cases meant : other.review.target = stream
    · simp only [meant, if_true, Except.ok.injEq, Option.some.injEq]
      exact ⟨fun same => ⟨same, same ▸ meant⟩, fun ⟨same, _⟩ => same⟩
    · simp only [meant, if_false, reduceCtorEq, Option.some.injEq, false_iff]
      rintro ⟨rfl, target⟩
      exact meant target

namespace Session.KeptIn

variable {before after : Session} {exchanges : List Exchange}

/-- The configuration of a release stays as it is. -/
theorem configurationOf (kept : before.KeptIn after exchanges) {name : String}
    {version : Version} {configuration : Configuration}
    (asked : Configurations.ofVersion name version before = .ok configuration) :
    Configurations.ofVersion name version after = .ok configuration := by
  obtain ⟨project, found, asked⟩ := bind_eq_ok_iff.1 asked
  obtain ⟨released, isReleased, asked⟩ := bind_eq_ok_iff.1 asked
  obtain ⟨later, found, projectKept⟩ := kept name project (Store.project_eq_ok_iff.1 found)
  have stillReleased := projectKept.versions version released
    (Project.release_eq_ok_iff.1 isReleased)
  refine bind_eq_ok_iff.2 ⟨later, Store.project_eq_ok_iff.2 found, ?_⟩
  exact bind_eq_ok_iff.2 ⟨released, Project.release_eq_ok_iff.2 stillReleased, asked⟩

/-- A review that was found is found again. -/
theorem findReview (kept : before.KeptIn after exchanges) {name : String}
    {stream : DevelopmentStream} {id : String} {record : ReviewRecord}
    (isFound : Reviews.find name stream id before = .ok record) :
    Reviews.find name stream id after = .ok record := by
  obtain ⟨project, found, isFound⟩ := bind_eq_ok_iff.1 isFound
  obtain ⟨stored, meant⟩ := Project.review_eq_ok_iff.1 isFound
  obtain ⟨later, found, projectKept⟩ := kept name project (Store.project_eq_ok_iff.1 found)
  refine bind_eq_ok_iff.2 ⟨later, Store.project_eq_ok_iff.2 found, ?_⟩
  exact Project.review_eq_ok_iff.2 ⟨projectKept.reviews id record stored, meant⟩

/-- What follows from a review that was found follows again. -/
theorem ofReview (kept : before.KeptIn after exchanges) {Result : Type} {name : String}
    {stream : DevelopmentStream} {id : String} {next : ReviewRecord → Except Failure Result}
    {result : Result} (asked : (Reviews.find name stream id before >>= next) = .ok result) :
    (Reviews.find name stream id after >>= next) = .ok result := by
  obtain ⟨record, isFound, follows⟩ := bind_eq_ok_iff.1 asked
  exact bind_eq_ok_iff.2 ⟨record, kept.findReview isFound, follows⟩

/-- What is asked about the record is answered again in the same way. -/
theorem answers (kept : before.KeptIn after exchanges) {request : Request} {answer : Answer}
    (lasting : request.isLasting = true)
    (answered : (request.perform.run before).result = .ok answer) :
    (request.perform.run after).result = .ok answer := by
  cases request with
  | versionConfiguration project version =>
    obtain ⟨result, asked, same⟩ := Action.query_eq_ok_iff.1 answered
    exact Action.query_eq_ok_iff.2 ⟨result, kept.configurationOf asked, same⟩
  | reviewBaseConfiguration project stream review =>
    obtain ⟨result, asked, same⟩ := Action.query_eq_ok_iff.1 answered
    exact Action.query_eq_ok_iff.2 ⟨result, kept.ofReview asked, same⟩
  | reviewHeadConfiguration project stream review =>
    obtain ⟨result, asked, same⟩ := Action.query_eq_ok_iff.1 answered
    exact Action.query_eq_ok_iff.2 ⟨result, kept.ofReview asked, same⟩
  | compareReviewWithCreation project stream review =>
    obtain ⟨result, asked, same⟩ := Action.query_eq_ok_iff.1 answered
    exact Action.query_eq_ok_iff.2 ⟨result, kept.ofReview asked, same⟩
  | _ => cases lasting

end Session.KeptIn

end Workstream
