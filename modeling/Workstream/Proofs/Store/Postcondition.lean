import Workstream.Proofs.Branch.RoundTrip
import Workstream.Results
import Workstream.Store.Workspaces

/-!
# Postconditions of actions

`Action.Meets` is the form in which every operation of the store is described: when it
succeeds, its result and the session it leaves behind satisfy a postcondition, and when
it fails, the client is at fault and the session is what it was before. The rules follow
the shape of the operations, which make all their checks before their changes.
-/

namespace Workstream

namespace Session

/-- The session with a project in place of any earlier one of that name. -/
def setProject (session : Session) (name : String) (project : Project) : Session :=
  { session with
    store := { session.store with projects := session.store.projects.insert name project } }

/-- The revision that a commit makes. -/
def minted (session : Session) (parent : Option Snapshot) (message : String)
    (contents : Contents) : Snapshot :=
  { revision :=
      { id := RevisionId.ofPreimage (RevisionId.preimage (parent.map (·.revision.id))
          (session.store.sequence + 1) message contents.entities)
        message
        author := session.author }
    contents }

/-- The session after a commit was counted. -/
def advance (session : Session) : Session :=
  { session with store := { session.store with sequence := session.store.sequence + 1 } }

@[simp] theorem currentUser_setProject (session : Session) (name : String) (project : Project) :
    (session.setProject name project).currentUser = session.currentUser := rfl

@[simp] theorem sequence_setProject (session : Session) (name : String) (project : Project) :
    (session.setProject name project).store.sequence = session.store.sequence := rfl

@[simp] theorem projects_setProject (session : Session) (name : String) (project : Project) :
    (session.setProject name project).store.projects =
      session.store.projects.insert name project := rfl

@[simp] theorem currentUser_advance (session : Session) :
    session.advance.currentUser = session.currentUser := rfl

@[simp] theorem projects_advance (session : Session) :
    session.advance.store.projects = session.store.projects := rfl

/-- Of two states that a project is set to the later one counts. -/
theorem setProject_setProject (session : Session) (name : String) (earlier later : Project) :
    (session.setProject name earlier).setProject name later = session.setProject name later := by
  simp [setProject, SortedMap.insert_insert]

/-- Setting a project to what it is changes nothing. -/
theorem setProject_self {session : Session} {name : String} {project : Project}
    (found : session.store.projects.get? name = some project) :
    session.setProject name project = session := by
  simp [setProject, SortedMap.insert_of_get?_eq_some found]

/-- A located workspace is the specification with its user filled in, and its name is
read back as this specification. -/
theorem locate_eq_ok_iff {session : Session} {specification resolved : Specification}
    {name : String} : session.locate specification = .ok (name, resolved) ↔
      BranchName.encode session.currentUser specification = .ok name ∧
        resolved = specification.resolve session.currentUser := by
  unfold locate
  cases written : BranchName.encode session.currentUser specification with
  | error cause => simp
  | ok other =>
    simp only [BranchName.decode_encode written, Except.ok.injEq, Prod.mk.injEq]
    exact and_congr_right fun _ => eq_comm

/-- A workspace that is not located has no name. -/
theorem locate_eq_error {session : Session} {specification : Specification} {failure : Failure}
    (failed : session.locate specification = .error failure) :
    ∃ cause, failure = .unnamed cause := by
  unfold locate at failed
  cases written : BranchName.encode session.currentUser specification with
  | error cause =>
    simp only [written, Except.error.injEq] at failed
    exact ⟨cause, failed.symm⟩
  | ok name => simp [written, BranchName.decode_encode written] at failed

end Session

/-- A project that is looked up is stored under its name. -/
theorem Store.project_eq_ok_iff {store : Store} {name : String} {state : Project} :
    store.project name = .ok state ↔ store.projects.get? name = some state := by
  unfold Store.project
  cases store.projects.get? name <;> simp

/-- A project is not found when nothing is stored under its name. -/
theorem Store.project_eq_error_iff {store : Store} {name : String} {failure : Failure} :
    store.project name = .error failure ↔
      store.projects.get? name = none ∧ failure = .unknownProject name := by
  unfold Store.project
  cases store.projects.get? name <;> simp [eq_comm]

namespace Project

/-- The head of a stream is the last revision of its history. -/
theorem head_eq_ok_iff {project : Project} {name : String} {stream : DevelopmentStream}
    {head : Snapshot} : project.head name stream = .ok head ↔
      ∃ history, project.streams.get? stream = some history ∧ history.getLast? = some head := by
  unfold Project.head Project.history history?
  cases stored : project.streams.get? stream with
  | none => simp
  | some history =>
    cases history with
    | nil => simp [Option.filter]
    | cons first later =>
      cases last : (first :: later).getLast? with
      | none => simp at last
      | some snapshot => simp [Option.filter, last]

/-- A branch that is looked up is stored under its name. -/
theorem branch_eq_ok_iff {project : Project} {name : String} {specification : Specification}
    {branch : Branch} : project.branch name specification = .ok branch ↔
      project.branches.get? name = some branch := by
  unfold Project.branch
  cases project.branches.get? name <;> simp

/-- A branch is not found when nothing is stored under its name. -/
theorem branch_eq_error_iff {project : Project} {name : String} {specification : Specification}
    {failure : Failure} : project.branch name specification = .error failure ↔
      project.branches.get? name = none ∧ failure = .unknownWorkspace specification := by
  unfold Project.branch
  cases project.branches.get? name <;> simp [eq_comm]

/-- A release that is looked up is stored under its version. -/
theorem release_eq_ok_iff {project : Project} {name : String} {version : Version}
    {released : Snapshot} : project.release name version = .ok released ↔
      project.versions.get? version = some released := by
  unfold Project.release
  cases project.versions.get? version <;> simp

/-- Nothing is dropped under a name that no branch has. -/
theorem dropBranch_of_absent {project : Project} {name : String}
    (absent : project.branches.get? name = none) : project.dropBranch name = project := by
  rw [dropBranch, SortedMap.erase_of_get?_eq_none absent]

end Project

/-- A workspace is found under the name of its specification. -/
theorem Workspaces.find_eq_ok_iff {project : String} {specification : Specification}
    {session : Session} {found : Workspaces.Found} :
    Workspaces.find project specification session = .ok found ↔
      BranchName.encode session.currentUser specification = .ok found.name ∧
        found.specification = specification.resolve session.currentUser ∧
        session.store.projects.get? project = some found.project ∧
        found.project.branches.get? found.name = some found.branch := by
  constructor
  · intro isFound
    obtain ⟨⟨name, resolved⟩, located, isFound⟩ := bind_eq_ok_iff.1 isFound
    obtain ⟨state, stored, isFound⟩ := bind_eq_ok_iff.1 isFound
    obtain ⟨branch, looked, isFound⟩ := bind_eq_ok_iff.1 isFound
    obtain ⟨named, same⟩ := Session.locate_eq_ok_iff.1 located
    cases isFound
    exact ⟨named, same, Store.project_eq_ok_iff.1 stored, Project.branch_eq_ok_iff.1 looked⟩
  · rintro ⟨named, same, stored, looked⟩
    refine bind_eq_ok_iff.2 ⟨_, Session.locate_eq_ok_iff.2 ⟨named, same⟩, ?_⟩
    refine bind_eq_ok_iff.2 ⟨_, Store.project_eq_ok_iff.2 stored, ?_⟩
    exact bind_eq_ok_iff.2 ⟨_, Project.branch_eq_ok_iff.2 looked, rfl⟩

/-- A workspace whose branch is stored under its name is found. -/
theorem Workspaces.find_eq_ok {project : String} {specification : Specification}
    {session : Session} {name : String} {state : Project} {branch : Branch}
    (named : BranchName.encode session.currentUser specification = .ok name)
    (found : session.store.projects.get? project = some state)
    (stored : state.branches.get? name = some branch) :
    Workspaces.find project specification session = .ok
      { name, specification := specification.resolve session.currentUser, project := state,
        branch } :=
  find_eq_ok_iff.2 ⟨named, rfl, found, stored⟩

/-- A workspace is not found when nothing is stored under its name. -/
theorem Workspaces.find_eq_unknown {project : String} {specification : Specification}
    {session : Session} {name : String} {state : Project}
    (named : BranchName.encode session.currentUser specification = .ok name)
    (found : session.store.projects.get? project = some state)
    (absent : state.branches.get? name = none) :
    Workspaces.find project specification session =
      .error (.unknownWorkspace (specification.resolve session.currentUser)) := by
  have located := Session.locate_eq_ok_iff.2 ⟨named, rfl⟩
  have isFound := Store.project_eq_ok_iff.2 found
  have missing : state.branch name (specification.resolve session.currentUser) = .error _ :=
    Project.branch_eq_error_iff.2 ⟨absent, rfl⟩
  simp only [find, located, isFound, missing, ok_bind, error_bind]

/-- Whether a workspace is outdated is known when it and the head of its stream are found. -/
theorem Workspaces.isOutdated_eq_ok_iff {project : String} {specification : Specification}
    {session : Session} {found : Workspaces.Found} {outdated : Bool}
    (isFound : Workspaces.find project specification session = .ok found) :
    Workspaces.isOutdated project specification session = .ok outdated ↔
      ∃ head, found.project.head project specification.stream = .ok head ∧
        decide (found.branch.base.revision.id ≠ head.revision.id) = outdated := by
  have stream : found.specification.stream = specification.stream := by
    rw [(find_eq_ok_iff.1 isFound).2.1]
    rfl
  rw [← stream]
  constructor
  · intro known
    obtain ⟨other, isOther, known⟩ := bind_eq_ok_iff.1 known
    obtain rfl : found = other := Except.ok.inj (isFound.symm.trans isOther)
    obtain ⟨head, isHead, known⟩ := bind_eq_ok_iff.1 known
    exact ⟨head, isHead, Except.ok.inj known⟩
  · rintro ⟨head, isHead, known⟩
    refine bind_eq_ok_iff.2 ⟨found, isFound, ?_⟩
    exact bind_eq_ok_iff.2 ⟨head, isHead, congrArg Except.ok known⟩

/-- A workspace is in conflict when there is a branch for its conflict resolution. -/
theorem Workspaces.isInConflict_eq_ok_iff {project : String} {specification : Specification}
    {session : Session} {found : Workspaces.Found} {inConflict : Bool}
    (isFound : Workspaces.find project (specification.withAccess .live) session = .ok found) :
    Workspaces.isInConflict project specification session = .ok inConflict ↔
      ∃ resolution, BranchName.encode session.currentUser
          (specification.withAccess .resolution) = .ok resolution ∧
        found.project.branches.contains resolution = inConflict := by
  constructor
  · intro known
    obtain ⟨⟨resolution, _⟩, located, known⟩ := bind_eq_ok_iff.1 known
    rw [isFound] at known
    exact ⟨resolution, (Session.locate_eq_ok_iff.1 located).1, Except.ok.inj known⟩
  · rintro ⟨resolution, named, known⟩
    refine bind_eq_ok_iff.2 ⟨_, Session.locate_eq_ok_iff.2 ⟨named, rfl⟩, ?_⟩
    exact bind_eq_ok_iff.2 ⟨found, isFound, congrArg Except.ok known⟩

/-- Whether a result is the expected one can be computed, although failures cannot be
compared. -/
instance {Result : Type} [DecidableEq Result] (result : Except Failure Result)
    (expected : Result) : Decidable (result = .ok expected) :=
  match result with
  | .ok found => decidable_of_iff (found = expected) (by simp)
  | .error _ => isFalse (by simp)

/-- A result that is either there or missing through the fault of the client. -/
def BlamesClient {Result : Type} (result : Except Failure Result) : Prop :=
  ∀ failure, result = .error failure → failure.status ≠ .internal

namespace BlamesClient

variable {Result Next : Type}

theorem ok (result : Result) : BlamesClient (.ok result) := by
  intro failure failed
  cases failed

theorem error {failure : Failure} (blamed : failure.status ≠ .internal) :
    BlamesClient (.error failure : Except Failure Result) := by
  rintro other ⟨⟩
  exact blamed

/-- A result that depends on another one is missing with it. -/
theorem bind {first : Except Failure Result} {second : Result → Except Failure Next}
    (firstBlames : BlamesClient first)
    (secondBlames : ∀ result, first = .ok result → BlamesClient (second result)) :
    BlamesClient (first >>= second) := by
  cases value : first with
  | error failure => exact error (firstBlames failure value)
  | ok result => exact secondBlames result value

theorem locate (session : Session) (specification : Specification) :
    BlamesClient (session.locate specification) := by
  intro failure failed
  obtain ⟨cause, rfl⟩ := Session.locate_eq_error failed
  simp [Failure.status]

theorem project (store : Store) (name : String) : BlamesClient (store.project name) := by
  unfold Store.project
  split
  · exact ok _
  · exact error (by simp [Failure.status])

theorem history (project : Project) (name : String) (stream : DevelopmentStream) :
    BlamesClient (project.history name stream) := by
  unfold Project.history
  split
  · exact ok _
  · cases stream <;> exact error (by simp [Project.unknownStream, Failure.status])

theorem head (project : Project) (name : String) (stream : DevelopmentStream) :
    BlamesClient (project.head name stream) := by
  unfold Project.head
  refine bind (history project name stream) fun revisions _ => ?_
  split
  · exact ok _
  · cases stream <;> exact error (by simp [Project.unknownStream, Failure.status])

theorem branch (project : Project) (name : String) (specification : Specification) :
    BlamesClient (project.branch name specification) := by
  unfold Project.branch
  split
  · exact ok _
  · exact error (by simp [Failure.status])

theorem release (project : Project) (name : String) (version : Version) :
    BlamesClient (project.release name version) := by
  unfold Project.release
  split
  · exact ok _
  · exact error (by simp [Failure.status])

theorem find (project : String) (specification : Specification) (session : Session) :
    BlamesClient (Workspaces.find project specification session) :=
  bind (locate session specification) fun (name, resolved) _ =>
    bind (BlamesClient.project session.store project) fun state _ =>
      bind (branch state name resolved) fun _ _ => ok _

theorem companionName? (specification : Specification) (session : Session) :
    BlamesClient (Workspaces.companionName? specification session) := by
  unfold Workspaces.companionName?
  split
  · exact bind (locate _ _) fun _ _ => ok _
  · exact ok _

theorem applyAll (changes : List Change) (contents : Contents) :
    BlamesClient (Change.applyAll changes contents) := by
  induction changes generalizing contents with
  | nil => exact ok _
  | cons change rest ih =>
    refine bind ?_ fun next _ => ih next
    cases change <;> simp only [Change.apply]
    · split
      · exact ok _
      · exact error (by simp [Failure.status])
    · split
      · exact ok _
      · exact error (by simp [Failure.status])
    · exact ok _

end BlamesClient

namespace Action

variable {Result Next : Type}

/-- A question is answered with what was looked up, and changes nothing. -/
theorem run_map_read (transform : Result → Next) (query : Session → Except Failure Result)
    (session : Session) : (transform <$> Action.read query).run session =
      { result := (query session).map transform, session, events := [] } := by
  change Action.andThen (Action.read query) (Action.done ∘ transform) session = _
  unfold Action.andThen Action.read
  cases query session <;> rfl

/-- The action succeeds with the given result and leaves the given session behind. -/
def Gives (action : Action Result) (session : Session) (result : Result) (after : Session) :
    Prop :=
  (action.run session).result = .ok result ∧ (action.run session).session = after

namespace Gives

/-- One action after another gives what the second one gives. -/
theorem bind {first : Action Result} {second : Result → Action Next}
    {session between after : Session} {result : Result} {last : Next}
    (gives : first.Gives session result between)
    (continues : (second result).Gives between last after) :
    (first >>= second).Gives session last after := by
  obtain ⟨ok, rfl⟩ := gives
  obtain ⟨lastOk, rfl⟩ := continues
  have unfolded : (first >>= second).run session = andThen first second session := rfl
  have ok : (first session).result = .ok result := ok
  rw [Gives, unfolded, andThen]
  simp only [ok]
  exact ⟨lastOk, rfl⟩

/-- The result of an action can be put into another form. -/
theorem map {action : Action Result} {session after : Session} {result : Result}
    (gives : action.Gives session result after) (transform : Result → Next) :
    (transform <$> action).Gives session (transform result) after := by
  change (action >>= fun result => Pure.pure (transform result)).Gives _ _ _
  exact gives.bind ⟨rfl, rfl⟩

theorem pure (result : Result) (session : Session) :
    (Pure.pure result : Action Result).Gives session result session :=
  ⟨rfl, rfl⟩

theorem read {query : Session → Except Failure Result} {session : Session} {result : Result}
    (found : query session = .ok result) : (Action.read query).Gives session result session :=
  ⟨found, rfl⟩

theorem ofExcept {value : Except Failure Result} {result : Result} (present : value = .ok result)
    (session : Session) : (Action.ofExcept value).Gives session result session := by
  subst present
  exact ⟨rfl, rfl⟩

theorem refuseIf {condition : Bool} (holds : condition = false) (failure : Failure)
    (session : Session) : (Action.refuseIf condition failure).Gives session () session := by
  subst holds
  exact ⟨rfl, rfl⟩

theorem project {name : String} {state : Project} {session : Session}
    (found : session.store.projects.get? name = some state) :
    (Action.project name).Gives session state session :=
  read (Store.project_eq_ok_iff.2 found)

theorem locate {specification : Specification} {name : String} {session : Session}
    (named : BranchName.encode session.currentUser specification = .ok name) :
    (Action.locate specification).Gives session
      (name, specification.resolve session.currentUser) session :=
  read (Session.locate_eq_ok_iff.2 ⟨named, rfl⟩)

theorem report (event : LogEvent) (session : Session) :
    (Action.report event).Gives session () session :=
  ⟨rfl, rfl⟩

theorem inform (message project : String) (details : List (String × LogValue))
    (session : Session) : (Action.inform message project details).Gives session () session :=
  ⟨rfl, rfl⟩

theorem modifyStore (change : Store → Store) (session : Session) :
    (Action.modifyStore change).Gives session () { session with store := change session.store } :=
  ⟨rfl, rfl⟩

/-- A commit mints a revision and is counted. -/
theorem commit (parent : Option Snapshot) (message : String) (contents : Contents)
    (session : Session) : (Action.commit parent message contents).Gives session
      (session.minted parent message contents) session.advance :=
  ⟨rfl, rfl⟩

/-- A change of a project takes effect when the project exists. -/
theorem modifyProject {name : String} {state : Project} {session : Session}
    (found : session.store.projects.get? name = some state) (change : Project → Project) :
    (Action.modifyProject name change).Gives session ()
      (session.setProject name (change state)) :=
  (project found).bind (modifyStore _ _)

end Gives

/-- A success satisfies the postcondition, and a failure is the client's and changes
nothing. -/
def Meets (action : Action Result) (session : Session) (post : Result → Session → Prop) : Prop :=
  match (action.run session).result with
  | .ok result => post result (action.run session).session
  | .error failure => failure.status ≠ .internal ∧ (action.run session).session = session

namespace Meets

variable {session : Session} {post : Result → Session → Prop}

theorem of_gives {action : Action Result} {result : Result} {after : Session}
    (gives : action.Gives session result after) (holds : post result after) :
    action.Meets session post := by
  obtain ⟨ok, rfl⟩ := gives
  simpa only [Meets, ok] using holds

/-- A successful run satisfies the postcondition. -/
theorem of_ok {action : Action Result} (meets : action.Meets session post) {result : Result}
    (ok : (action.run session).result = .ok result) :
    post result (action.run session).session := by
  simpa only [Meets, ok] using meets

/-- A failed run changes nothing and is the fault of the client. -/
theorem of_error {action : Action Result} (meets : action.Meets session post)
    {failure : Failure} (failed : (action.run session).result = .error failure) :
    failure.status ≠ .internal ∧ (action.run session).session = session := by
  simpa only [Meets, failed] using meets

/-- A result can be looked up before anything else is done. -/
theorem read {query : Session → Except Failure Result} {rest : Result → Action Next}
    {post : Next → Session → Prop} (blames : BlamesClient (query session))
    (continues : ∀ result, query session = .ok result → (rest result).Meets session post) :
    (Action.read query >>= rest).Meets session post := by
  have unfolded : (Action.read query >>= rest).run session =
      andThen (Action.read query) rest session := rfl
  rw [Meets, unfolded, andThen]
  cases value : query session with
  | ok result =>
    simp only [Action.read, value]
    exact continues result value
  | error failure =>
    simp only [Action.read, value]
    exact ⟨blames failure value, trivial⟩

/-- A value that may be missing can be taken before anything else is done. -/
theorem ofExcept {value : Except Failure Result} {rest : Result → Action Next}
    {post : Next → Session → Prop} (blames : BlamesClient value)
    (continues : ∀ result, value = .ok result → (rest result).Meets session post) :
    (Action.ofExcept value >>= rest).Meets session post := by
  cases value with
  | ok result => exact continues result rfl
  | error failure => exact ⟨blames failure rfl, rfl⟩

/-- A condition can be checked before anything else is done. -/
theorem refuseIf {condition : Bool} {failure : Failure} {rest : Unit → Action Next}
    {post : Next → Session → Prop} (blamed : failure.status ≠ .internal)
    (continues : condition = false → (rest ()).Meets session post) :
    (Action.refuseIf condition failure >>= rest).Meets session post := by
  cases condition with
  | false => exact continues rfl
  | true => exact ⟨blamed, rfl⟩

/-- Reading the session is all that a query does. -/
theorem query {query : Session → Except Failure Result} (blames : BlamesClient (query session)) :
    (Action.read query).Meets session fun result after =>
      query session = .ok result ∧ after = session := by
  unfold Meets
  cases value : query session with
  | ok result => simp [run, Action.read, value]
  | error failure =>
    simp only [run, Action.read, value]
    exact ⟨blames failure value, trivial⟩

/-- A project can be looked up before anything else is done. -/
theorem project {name : String} {rest : Project → Action Next} {post : Next → Session → Prop}
    (continues : ∀ state, session.store.projects.get? name = some state →
      (rest state).Meets session post) : (Action.project name >>= rest).Meets session post := by
  refine Meets.read (BlamesClient.project session.store name) fun state found => ?_
  exact continues state (Store.project_eq_ok_iff.1 found)

/-- A workspace can be located before anything else is done. -/
theorem locate {specification : Specification} {rest : String × Specification → Action Next}
    {post : Next → Session → Prop}
    (continues : ∀ name, BranchName.encode session.currentUser specification = .ok name →
      (rest (name, specification.resolve session.currentUser)).Meets session post) :
    (Action.locate specification >>= rest).Meets session post := by
  refine Meets.read (BlamesClient.locate session specification) fun located found => ?_
  obtain ⟨name, resolved⟩ := located
  obtain ⟨named, rfl⟩ := Session.locate_eq_ok_iff.1 found
  exact continues name named

/-- The result of an action can be put into another form. -/
theorem map {action : Action Result} {transform : Result → Next}
    {post : Result → Session → Prop} {mapped : Next → Session → Prop}
    (meets : action.Meets session post)
    (implies : ∀ result after, post result after → mapped (transform result) after) :
    (transform <$> action).Meets session mapped := by
  have unfolded : (transform <$> action).run session =
      andThen action (fun result => done (transform result)) session := rfl
  rw [Meets, unfolded, andThen]
  cases value : (action session).result with
  | ok result => exact implies result _ (meets.of_ok value)
  | error failure => exact meets.of_error value

end Meets

end Action

end Workstream
