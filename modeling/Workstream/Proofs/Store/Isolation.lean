import Workstream.Proofs.Store.Commutation
import Workstream.Proofs.Store.Listing

/-!
# Streams are isolated from one another

A request about a stream looks at the history of this stream, at the branches and reviews that
belong to it, and besides at what exists and at what was released, which every request may rely
on. `Session.AgreeOn` says that two sessions hold the same in all of this. In such sessions a
request about the stream is answered alike, failures included, and they agree afterwards as
well, however much they differ in the other streams.
-/

namespace Workstream

/-- The places, besides reviews, that a request about a stream of a project may look at. -/
inductive DevelopmentStream.Shows (stream : DevelopmentStream) (project : String) :
    Store.Place → Prop where
  | counter : Shows stream project .counter
  /-- Which projects there are. -/
  | project (name : String) : Shows stream project (.project name)
  /-- The releases of all projects. -/
  | release (name : String) (version : Version) :
      Shows stream project (.inside name (.release version))
  | history : Shows stream project (.inside project (.history stream))
  | branch {name : String} {specification : Specification}
      (read : BranchName.decode? name = some specification)
      (onStream : specification.stream = stream) :
      Shows stream project (.inside project (.branch name))

/-- Two sessions agree on a stream of a project. -/
structure Session.AgreeOn (project : String) (stream : DevelopmentStream)
    (first second : Session) : Prop where
  user : first.currentUser = second.currentUser
  places : ∀ place, stream.Shows project place →
    first.store.content? place = second.store.content? place
  /-- They hold the same reviews for the stream. -/
  reviews : ∀ id (record : ReviewRecord), record.review.target = stream →
    (first.store.content? (.inside project (.review id)) = some record ↔
      second.store.content? (.inside project (.review id)) = some record)

/-- Two states of a project agree on a stream. -/
structure Project.AgreeOn (stream : DevelopmentStream) (first second : Project) : Prop where
  history : first.streams.get? stream = second.streams.get? stream
  branches : ∀ name specification, BranchName.decode? name = some specification →
    specification.stream = stream → first.branches.get? name = second.branches.get? name
  reviews : ∀ id record, record.review.target = stream →
    (first.reviews.get? id = some record ↔ second.reviews.get? id = some record)

/-! What a stream shows can be computed, so that the agreement of given sessions can be checked. -/

/-- What a stream shows of its project. -/
def Project.shown (project : Project) (stream : DevelopmentStream) : Project where
  streams := project.streams.filterMap fun other history =>
    if other = stream then some history else none
  versions := project.versions
  branches := project.branches.filterMap fun name branch =>
    if (BranchName.decode? name).any (·.stream = stream) then some branch else none
  reviews := project.reviews.filterMap fun _ record =>
    if record.review.target = stream then some record else none

/-- What a stream of a project shows of the store. -/
def Store.shown (store : Store) (project : String) (stream : DevelopmentStream) : Store where
  projects := store.projects.filterMap fun name state => some
    (if name = project then state.shown stream
      else { streams := ∅, versions := state.versions, branches := ∅, reviews := ∅ })
  sequence := store.sequence

/-- In the project of the stream there is what the stream shows of it. -/
theorem Store.content?_shown_inside (store : Store) (project : String)
    (stream : DevelopmentStream) (place : Project.Place) :
    (store.shown project stream).content? (.inside project place) =
      (store.projects.get? project).bind fun state => (state.shown stream).content? place := by
  simp only [content?, shown, SortedMap.get?_filterMap]
  cases store.projects.get? project <;> simp

/-- What is shown is what is stored in the places that are shown. -/
theorem Store.content?_shown (store : Store) {project : String} {stream : DevelopmentStream}
    {place : Place} (shows : stream.Shows project place) :
    (store.shown project stream).content? place = store.content? place := by
  cases shows with
  | counter => rfl
  | project name =>
    simp only [content?, shown, SortedMap.get?_filterMap]
    cases store.projects.get? name <;> rfl
  | release name version =>
    simp only [content?, shown, SortedMap.get?_filterMap]
    cases store.projects.get? name with
    | none => rfl
    | some state => by_cases same : name = project <;> simp [same, Project.content?, Project.shown]
  | history =>
    rw [content?_shown_inside]
    simp [content?, Project.content?, Project.shown]
  | branch read onStream =>
    rw [content?_shown_inside]
    simp [content?, Project.content?, Project.shown, read, onStream]

/-- The reviews that are shown are those for the stream. -/
theorem Store.review_shown (store : Store) {project id : String} {stream : DevelopmentStream}
    {record : ReviewRecord} (targeted : record.review.target = stream) :
    (store.shown project stream).content? (.inside project (.review id)) = some record ↔
      store.content? (.inside project (.review id)) = some record := by
  rw [content?_shown_inside]
  simp only [content?, Project.content?, Project.shown, SortedMap.get?_filterMap,
    Option.bind_eq_some_iff, Option.ite_none_right_eq_some, Option.some.injEq]
  refine exists_congr fun state => and_congr_right fun _ => ?_
  constructor
  · rintro ⟨stored, isStored, _, rfl⟩
    exact isStored
  · exact fun isStored => ⟨record, isStored, targeted, rfl⟩

/-- Sessions of one user that are shown the same agree. -/
theorem Session.AgreeOn.of_shown {project : String} {stream : DevelopmentStream}
    {first second : Session} (user : first.currentUser = second.currentUser)
    (same : first.store.shown project stream = second.store.shown project stream) :
    first.AgreeOn project stream second where
  user := user
  places place shows := by
    rw [← Store.content?_shown _ shows, same, Store.content?_shown _ shows]
  reviews id record targeted := by
    rw [← Store.review_shown _ targeted, same, Store.review_shown _ targeted]

/-- A review is found among those that are meant for the stream. -/
theorem Project.review_eq_filter (project : Project) (name : String) (stream : DevelopmentStream)
    (id : String) : project.review name stream id =
      match (project.reviews.get? id).filter (·.review.target = stream) with
      | some record => .ok record
      | none => .error (.unknownReview name id stream) := by
  unfold review
  cases project.reviews.get? id with
  | none => rfl
  | some record =>
    by_cases targeted : record.review.target = stream <;> simp [Option.filter, targeted]

namespace Project.AgreeOn

variable {stream : DevelopmentStream} {first second : Project}

/-- The stream has one history, or it is missing in both. -/
theorem history_eq (agree : AgreeOn stream first second) (name : String) :
    first.history name stream = second.history name stream := by
  simp only [Project.history, history?, agree.history]

/-- The stream has one head. -/
theorem head_eq (agree : AgreeOn stream first second) (name : String) :
    first.head name stream = second.head name stream := by
  simp only [Project.head, agree.history_eq]

/-- The states are alike for the workspaces of the stream. -/
theorem alikeFor (agree : AgreeOn stream first second) (currentUser : Option String)
    {specification : Specification} (onStream : specification.stream = stream) :
    AlikeFor currentUser specification first second where
  history := onStream ▸ agree.history
  branches access name named := by
    have read := BranchName.decode?_of_encode named
    exact agree.branches name _ read onStream

/-- Of the branches of the stream the same ones are listed. -/
theorem specifications_eq (agree : AgreeOn stream first second) {keeps : Specification → Bool}
    (onStream : ∀ specification, keeps specification → specification.stream = stream) :
    first.specifications keeps = second.specifications keeps := by
  rw [specifications_eq_filterMap, specifications_eq_filterMap]
  refine congrArg _ (SortedMap.filter_keys_eq fun name kept => ?_)
  obtain ⟨specification, read, kept⟩ := (Option.any_eq_true _ _).1 kept
  exact agree.branches name specification read (onStream specification kept)

/-- A review for the stream is the same in both, or it is missing in both. -/
theorem review_eq (agree : AgreeOn stream first second) (name id : String) :
    first.review name stream id = second.review name stream id := by
  have same : (first.reviews.get? id).filter (·.review.target = stream) =
      (second.reviews.get? id).filter (·.review.target = stream) := by
    ext record
    simp only [Option.filter_eq_some_iff, decide_eq_true_eq]
    exact and_congr_left (agree.reviews id record)
  rw [review_eq_filter, review_eq_filter, same]

end Project.AgreeOn

/-- A workspace of a stream was found in two sessions. -/
structure Workspaces.Found.AgreeOn (stream : DevelopmentStream) (first second : Found) :
    Prop where
  resolved : first.specification = second.specification
  onStream : second.specification.stream = stream
  branch : first.branch = second.branch
  states : Project.AgreeOn stream first.project second.project

namespace Session.AgreeOn

variable {project : String} {stream : DevelopmentStream} {first second : Session}
  {specification : Specification}

/-- The states of the project agree, or it is missing in both sessions. -/
theorem states (agree : first.AgreeOn project stream second) :
    Corresponds (Project.AgreeOn stream) (first.store.project project)
      (second.store.project project) := by
  refine (Store.corresponds_of_content? (agree.places _ (.project project))).imp ?_
  rintro state other ⟨found, otherFound⟩
  have history := agree.places _ .history
  have branches (name specification) (read : BranchName.decode? name = some specification)
      (onStream : specification.stream = stream) := agree.places _ (.branch read onStream)
  have reviews := agree.reviews
  simp only [Store.content?, found, otherFound] at history branches reviews
  exact ⟨history, branches, reviews⟩

/-- The sessions are alike for the workspaces of the stream. -/
theorem alikeFor (agree : first.AgreeOn project stream second)
    (onStream : specification.stream = stream) :
    first.AlikeFor project specification second :=
  ⟨agree.user, agree.states.imp fun _ _ states => states.alikeFor _ onStream⟩

/-- As many commits were counted. -/
theorem sequence (agree : first.AgreeOn project stream second) :
    first.store.sequence = second.store.sequence :=
  Option.some.inj (agree.places _ .counter)

/-- Workspaces are located in the same way. -/
theorem locate (agree : first.AgreeOn project stream second) (wanted : Specification) :
    first.locate wanted = second.locate wanted := by
  simp only [Session.locate, agree.user]

/-- A dependency stands for the same release. -/
theorem released (agree : first.AgreeOn project stream second) (dependency : Dependency) :
    first.store.released dependency = second.store.released dependency := by
  refine (Store.corresponds_of_content? (agree.places _ (.project dependency.project))).bind_eq ?_
  rintro state other ⟨found, otherFound⟩
  have versions := agree.places _ (.release dependency.project dependency.version)
  simp only [Store.content?, found, otherFound, Option.bind_some, Project.content?] at versions
  simp only [Project.release, versions]

/-- The workspaces of the stream are found in both sessions or in none. -/
theorem find (agree : first.AgreeOn project stream second)
    (onStream : specification.stream = stream) :
    Corresponds (Workspaces.Found.AgreeOn stream)
      (Workspaces.find project specification first)
      (Workspaces.find project specification second) := by
  unfold Workspaces.find
  rw [← agree.locate]
  cases located : first.locate specification with
  | error failure => exact .missing failure
  | ok result =>
    obtain ⟨name, resolved⟩ := result
    obtain ⟨named, rfl⟩ := Session.locate_eq_ok_iff.1 located
    refine agree.states.bind fun state other states => ?_
    have named : BranchName.encode first.currentUser
        (specification.withAccess specification.access) = .ok name := named
    rw [← (states.alikeFor first.currentUser onStream).branch named]
    cases state.branch name (specification.resolve first.currentUser) with
    | error failure => exact .missing failure
    | ok branch => exact .present ⟨rfl, onStream, rfl, states⟩

end Session.AgreeOn

/-- What depends on the same releases is followed to the same end. -/
theorem Dependencies.follow_eq {store other : Store}
    (same : ∀ dependency, store.released dependency = other.released dependency)
    (followed : SortedSet Dependency) (pending : List Dependency) :
    follow store followed pending = follow other followed pending := by
  fun_induction follow store followed pending with
  | case1 => rw [follow]
  | case2 followed dependency pending seen ih => rw [follow, dif_pos seen, ih]
  | case3 followed dependency pending unseen failure failed =>
    rw [same] at failed
    rw [follow, dif_neg unseen]
    split <;> simp_all
  | case4 followed dependency pending unseen snapshot isReleased ih =>
    rw [same] at isReleased
    rw [follow, dif_neg unseen]
    split <;> simp_all

section

variable {project : String} {stream : DevelopmentStream} {first second : Session}
  {specification : Specification}

namespace Workspaces

theorem listFor_agree (agree : first.AgreeOn project stream second) (viewer : Option String)
    (kinds : List Ownership) :
    listFor viewer project stream kinds first = listFor viewer project stream kinds second := by
  rw [listFor_eq, listFor_eq]
  refine agree.states.bind_eq fun state other states => ?_
  rw [states.history_eq, states.specifications_eq fun specification kept => ?_]
  simp only [isListed, Bool.and_eq_true, decide_eq_true_eq] at kept
  exact kept.1.1.1

theorem list_agree (agree : first.AgreeOn project stream second) (kinds : List Ownership) :
    list project stream kinds first = list project stream kinds second := by
  unfold list
  rw [agree.user]
  split
  · exact listFor_agree agree _ _
  · exact listFor_agree agree _ _

theorem get_agree (agree : first.AgreeOn project stream second)
    (onStream : specification.stream = stream) :
    get project specification first = get project specification second := by
  refine (agree.find onStream).bind_eq fun found other same => ?_
  rw [same.resolved]

theorem isOutdated_agree (agree : first.AgreeOn project stream second)
    (onStream : specification.stream = stream) :
    isOutdated project specification first = isOutdated project specification second := by
  refine (agree.find onStream).bind_eq fun found other same => ?_
  rw [same.resolved, same.onStream, same.states.head_eq, same.branch]

theorem isInConflict_agree (agree : first.AgreeOn project stream second)
    (onStream : specification.stream = stream) :
    isInConflict project specification first = isInConflict project specification second := by
  unfold isInConflict
  rw [← agree.locate]
  cases located : first.locate (specification.withAccess .resolution) with
  | error failure => rfl
  | ok result =>
    have named := (Session.locate_eq_ok_iff.1 located).1
    have liveOnStream : (specification.withAccess .live).stream = stream := onStream
    refine (agree.find liveOnStream).bind_eq fun found other same => ?_
    rw [(same.states.alikeFor first.currentUser onStream).contains named]

theorem creationComparison_agree (agree : first.AgreeOn project stream second)
    (onStream : specification.stream = stream) :
    creationComparison project specification first =
      creationComparison project specification second := by
  refine (agree.find onStream).bind_eq fun found other same => ?_
  rw [same.branch]

theorem streamComparison_agree (agree : first.AgreeOn project stream second)
    (onStream : specification.stream = stream) :
    streamComparison project specification first =
      streamComparison project specification second := by
  refine (agree.find onStream).bind_eq fun found other same => ?_
  rw [same.resolved, same.onStream, same.states.head_eq, same.branch]

end Workspaces

theorem Dependencies.ofRevision_agree (agree : first.AgreeOn project stream second)
    (onStream : specification.stream = stream) (revision : String) (transitive : Bool) :
    ofRevision project specification revision transitive first =
      ofRevision project specification revision transitive second := by
  refine (agree.find onStream).bind_eq fun found other same => ?_
  rw [same.resolved, same.branch]
  simp only [closure, follow_eq agree.released]

namespace Configurations

theorem ofStream_agree (agree : first.AgreeOn project stream second) :
    ofStream project stream first = ofStream project stream second := by
  refine agree.states.bind_eq fun state other states => ?_
  rw [states.head_eq]

theorem ofStreamRevision_agree (agree : first.AgreeOn project stream second)
    (revision : String) :
    ofStreamRevision project stream revision first =
      ofStreamRevision project stream revision second := by
  refine agree.states.bind_eq fun state other states => ?_
  rw [states.history_eq]

theorem ofWorkspace_agree (agree : first.AgreeOn project stream second)
    (onStream : specification.stream = stream) :
    ofWorkspace project specification first = ofWorkspace project specification second := by
  refine (agree.find onStream).bind_eq fun found other same => ?_
  rw [same.branch]

theorem ofWorkspaceRevision_agree (agree : first.AgreeOn project stream second)
    (onStream : specification.stream = stream) (revision : String) :
    ofWorkspaceRevision project specification revision first =
      ofWorkspaceRevision project specification revision second := by
  refine (agree.find onStream).bind_eq fun found other same => ?_
  rw [same.branch]

end Configurations

namespace Reviews

theorem find_agree (agree : first.AgreeOn project stream second) (id : String) :
    find project stream id first = find project stream id second :=
  agree.states.bind_eq fun _ _ states => states.review_eq project id

theorem comparison_agree (agree : first.AgreeOn project stream second) (id : String) :
    comparison project stream id first = comparison project stream id second := by
  refine agree.states.bind_eq fun state other states => ?_
  rw [states.review_eq, states.head_eq]

theorem creationComparison_agree (agree : first.AgreeOn project stream second) (id : String) :
    creationComparison project stream id first = creationComparison project stream id second := by
  simp only [creationComparison, find_agree agree]

theorem baseConfiguration_agree (agree : first.AgreeOn project stream second) (id : String) :
    baseConfiguration project stream id first = baseConfiguration project stream id second := by
  simp only [baseConfiguration, find_agree agree]

theorem headConfiguration_agree (agree : first.AgreeOn project stream second) (id : String) :
    headConfiguration project stream id first = headConfiguration project stream id second := by
  simp only [headConfiguration, find_agree agree]

end Reviews

end

namespace Request

/-- The project and the stream of a question about a stream. -/
def questioned? : Request → Option (String × DevelopmentStream)
  | .listWorkspaces project stream _ => some (project, stream)
  | .listAllWorkspaces project stream _ => some (project, stream)
  | .getWorkspace project workspace => some (project, workspace.stream)
  | .isOutdated project workspace => some (project, workspace.stream)
  | .isInConflict project workspace => some (project, workspace.stream)
  | .compareWithCreation project workspace => some (project, workspace.stream)
  | .compareWithStream project workspace => some (project, workspace.stream)
  | .compareReviewWithStream project stream _ => some (project, stream)
  | .compareReviewWithCreation project stream _ => some (project, stream)
  | .dependencies project workspace _ _ => some (project, workspace.stream)
  | .streamConfiguration project stream => some (project, stream)
  | .streamRevisionConfiguration project stream _ => some (project, stream)
  | .workspaceConfiguration project workspace => some (project, workspace.stream)
  | .workspaceRevisionConfiguration project workspace _ => some (project, workspace.stream)
  | .reviewBaseConfiguration project stream _ => some (project, stream)
  | .reviewHeadConfiguration project stream _ => some (project, stream)
  | _ => none

/-- The project and the stream of a request that asks about a stream or changes workspaces of
it. -/
def stream? (request : Request) : Option (String × DevelopmentStream) :=
  match request.workspace? with
  | some (project, workspace) => some (project, workspace.stream)
  | none => request.questioned?

end Request

section

variable {project : String} {stream : DevelopmentStream} {first second : Session}
  {request : Request}

/-- Two runs of a request are answered alike and lead to sessions that agree on a stream. -/
structure Request.AnsweredAlike (request : Request) (project : String)
    (stream : DevelopmentStream) (first second : Session) : Prop where
  result : (request.perform.run first).result = (request.perform.run second).result
  session : (request.perform.run first).session.AgreeOn project stream
    (request.perform.run second).session

/-- A question that finds the same in both sessions is answered alike. -/
theorem Request.AnsweredAlike.of_query {Result : Type} {transform : Result → Answer}
    {query : Session → Except Failure Result}
    (performs : request.perform = transform <$> Action.read query)
    (agree : first.AgreeOn project stream second) (same : query first = query second) :
    request.AnsweredAlike project stream first second := by
  constructor
  · rw [performs, Action.run_map_read, Action.run_map_read, same]
  · rw [performs, Action.run_map_read, Action.run_map_read]
    exact agree

/-- A question about a stream is answered alike in sessions that agree on the stream. -/
theorem Request.answeredAlike_of_questioned
    (about : request.questioned? = some (project, stream))
    (agree : first.AgreeOn project stream second) :
    request.AnsweredAlike project stream first second := by
  cases request with
  | listWorkspaces =>
    cases about
    exact .of_query rfl agree (Workspaces.list_agree agree _)
  | listAllWorkspaces =>
    cases about
    exact .of_query rfl agree (Workspaces.listFor_agree agree _ _)
  | getWorkspace =>
    cases about
    exact .of_query rfl agree (Workspaces.get_agree agree rfl)
  | isOutdated =>
    cases about
    exact .of_query rfl agree (Workspaces.isOutdated_agree agree rfl)
  | isInConflict =>
    cases about
    exact .of_query rfl agree (Workspaces.isInConflict_agree agree rfl)
  | compareWithCreation =>
    cases about
    exact .of_query rfl agree (Workspaces.creationComparison_agree agree rfl)
  | compareWithStream =>
    cases about
    exact .of_query rfl agree (Workspaces.streamComparison_agree agree rfl)
  | compareReviewWithStream =>
    cases about
    exact .of_query rfl agree (Reviews.comparison_agree agree _)
  | compareReviewWithCreation =>
    cases about
    exact .of_query rfl agree (Reviews.creationComparison_agree agree _)
  | dependencies =>
    cases about
    exact .of_query rfl agree (Dependencies.ofRevision_agree agree rfl _ _)
  | streamConfiguration =>
    cases about
    exact .of_query rfl agree (Configurations.ofStream_agree agree)
  | streamRevisionConfiguration =>
    cases about
    exact .of_query rfl agree (Configurations.ofStreamRevision_agree agree _)
  | workspaceConfiguration =>
    cases about
    exact .of_query rfl agree (Configurations.ofWorkspace_agree agree rfl)
  | workspaceRevisionConfiguration =>
    cases about
    exact .of_query rfl agree (Configurations.ofWorkspaceRevision_agree agree rfl _)
  | reviewBaseConfiguration =>
    cases about
    exact .of_query rfl agree (Reviews.baseConfiguration_agree agree _)
  | reviewHeadConfiguration =>
    cases about
    exact .of_query rfl agree (Reviews.headConfiguration_agree agree _)
  | _ => cases about

/-- A request that changes a workspace of a stream is answered alike in sessions that agree on
the stream. It changes the branches of this workspace alike, and nothing else that is shown. -/
theorem Request.answeredAlike_of_workspace {specification : Specification}
    (addressed : request.workspace? = some (project, specification))
    (onStream : specification.stream = stream) (agree : first.AgreeOn project stream second) :
    request.AnsweredAlike project stream first second := by
  have alike := agree.alikeFor onStream
  have matched := Matched.of_coupled alike (request.perform_coupled addressed alike)
  obtain ⟨result, alikeAfter⟩ := matched.same (.inl agree.sequence)
  obtain ⟨user, _⟩ := request.client_eq addressed first
  refine ⟨result, alikeAfter.user, ?places, ?reviews⟩
  case places =>
    intro place shows
    by_cases counter : place = .counter
    · subst counter
      obtain ⟨made, counted, otherCounted⟩ := matched.counted
      refine congrArg some ?_
      rw [counted, otherCounted, agree.sequence]
    by_cases owned : specification.Owns first.currentUser project place
    · exact alikeAfter.content?_eq (by rw [user]; exact owned)
    · rw [request.content?_eq addressed first counter owned,
        request.content?_eq addressed second counter (by rw [← agree.user]; exact owned)]
      exact agree.places place shows
  case reviews =>
    intro id record targeted
    have foreign (currentUser) : ¬ specification.Owns currentUser project
        (.inside project (.review id)) := by
      rintro ⟨_, _, _, ⟨⟩⟩
    rw [request.content?_eq addressed first (by rintro ⟨⟩) (foreign _),
      request.content?_eq addressed second (by rintro ⟨⟩) (foreign _)]
    exact agree.reviews id record targeted

/-- A request about a stream is answered alike in sessions that agree on the stream, and they
agree on it afterwards. -/
theorem Request.answeredAlike (about : request.stream? = some (project, stream))
    (agree : first.AgreeOn project stream second) :
    request.AnsweredAlike project stream first second := by
  unfold stream? at about
  split at about
  · cases about
    exact answeredAlike_of_workspace ‹_› rfl agree
  · exact answeredAlike_of_questioned about agree

end

end Workstream
