import Workstream.Proofs.RevisionId
import Workstream.Proofs.Store.Run
import Workstream.Proofs.Store.UpdateOutcome

/-!
# The ledger of a run

A `Commit` is what goes into a revision, and a ledger lists the commits of a run in their
order. Five kinds of requests commit something, and a revision that was made once is copied
into histories, releases, branches and reviews. `Mints` says what a step does to both: at most
one commit is made, it takes the next number and is founded on a revision that was stored
before, and whatever is stored afterwards was stored before or is the new revision.
-/

namespace Workstream

/-- What goes into a revision. -/
structure Commit where
  /-- The revision that the commit is made on, which a new project has not. -/
  parent : Option Snapshot
  sequence : Nat
  message : String
  author : String
  contents : Contents

namespace Commit

/-- The bytes that the id is computed from. -/
def preimage (commit : Commit) : List UInt8 :=
  RevisionId.preimage (commit.parent.map (·.revision.id)) commit.sequence commit.message
    commit.contents.entities

/-- The revision that the commit makes. -/
def snapshot (commit : Commit) : Snapshot :=
  { revision :=
      { id := .ofPreimage commit.preimage, message := commit.message, author := commit.author }
    contents := commit.contents }

end Commit

/-- The next commit of a session. -/
def Session.nextCommit (session : Session) (parent : Option Snapshot) (message : String)
    (contents : Contents) : Commit :=
  { parent, sequence := session.store.sequence + 1, message, author := session.author, contents }

/-- The next commit makes the revision that is minted. -/
theorem Session.snapshot_nextCommit (session : Session) (parent : Option Snapshot)
    (message : String) (contents : Contents) :
    (session.nextCommit parent message contents).snapshot =
      session.minted parent message contents := rfl

/-- What a commit to a stream commits. -/
def Projects.commitOf? (project : String) (stream : DevelopmentStream) (message : String)
    (changes : List Change) (before : Session) : Option Commit := do
  let state ← before.store.projects.get? project
  let head ← (state.head project stream).toOption
  let contents ← (Change.applyAll changes head.contents).toOption
  return before.nextCommit (some head) message contents

/-- A commit to a stream commits the changed head of the stream. -/
theorem Projects.commitOf?_eq {project : String} {stream : DevelopmentStream}
    {before : Session} {state : Project} {head : Snapshot} {changes : List Change}
    {contents : Contents} (found : before.store.projects.get? project = some state)
    (isHead : state.head project stream = .ok head)
    (changed : Change.applyAll changes head.contents = .ok contents) (message : String) :
    commitOf? project stream message changes before =
      some (before.nextCommit (some head) message contents) := by
  simp [commitOf?, found, isHead, changed, Except.toOption]

/-- What a commit to a workspace commits. -/
def Workspaces.commitOf? (project : String) (specification : Specification)
    (message : String) (changes : List Change) (before : Session) : Option Commit := do
  let found ← (find project specification before).toOption
  let contents ← (Change.applyAll changes found.branch.head.contents).toOption
  return before.nextCommit (some found.branch.head) message contents

/-- What an update commits, which depends on what it has come to. -/
def Workspaces.updateCommit? (project : String) (specification : Specification)
    (report : UpdateReport) (before : Session) : Option Commit := do
  let found ← (find project specification before).toOption
  let head ← (found.project.head project specification.stream).toOption
  let merge := updateMerge found.branch head
  match report with
  | .unchanged => none
  | .updated _ =>
    if merge.carriesOver then
      some (before.nextCommit (some head) replayMessage merge.contents)
    else
      none
  | .conflicting _ => some (before.nextCommit (some head) resolutionMessage merge.contents)

/-- What an exchange commits, if it commits anything. -/
def Exchange.commit? (exchange : Exchange) : Option Commit :=
  let before := exchange.before
  match exchange.request, exchange.answer with
  | .createProject project group artifact, _ =>
    some (before.nextCommit none Projects.firstMessage
      (Projects.firstContents before.structureVersion project group artifact))
  | .commitToStream project stream message changes, _ =>
    Projects.commitOf? project stream message changes before
  | .commitToWorkspace project workspace message changes, _ =>
    Workspaces.commitOf? project workspace message changes before
  | .updateWorkspace project workspace, .update report =>
    Workspaces.updateCommit? project workspace report before
  | _, _ => none

/-- A query commits nothing. -/
theorem Exchange.commit?_of_isQuery {exchange : Exchange}
    (isQuery : exchange.request.isQuery = true) : exchange.commit? = none := by
  obtain ⟨before, request, answer⟩ := exchange
  cases request <;> first | rfl | cases isQuery

/-- The commits of a run, oldest first. -/
def ledger (exchanges : List Exchange) : List Commit := exchanges.filterMap Exchange.commit?

/-- The commits of two parts of a run come after one another. -/
theorem ledger_append (earlier later : List Exchange) :
    ledger (earlier ++ later) = ledger earlier ++ ledger later :=
  List.filterMap_append

/-- One exchange adds what it commits. -/
theorem ledger_singleton (exchange : Exchange) : ledger [exchange] = exchange.commit?.toList := by
  cases made : exchange.commit? <;> simp [ledger, made]

/-- The places of a project in which a revision can be stored. -/
inductive Project.Stores (project : Project) : Snapshot → Prop where
  | history {stream : DevelopmentStream} {history : List Snapshot} {snapshot : Snapshot}
      (stored : project.streams.get? stream = some history) (listed : snapshot ∈ history) :
      Stores project snapshot
  | release {version : Version} {snapshot : Snapshot}
      (stored : project.versions.get? version = some snapshot) : Stores project snapshot
  | base {name : String} {branch : Branch}
      (stored : project.branches.get? name = some branch) : Stores project branch.base
  | commit {name : String} {branch : Branch} {snapshot : Snapshot}
      (stored : project.branches.get? name = some branch) (listed : snapshot ∈ branch.commits) :
      Stores project snapshot
  | reviewBase {id : String} {record : ReviewRecord}
      (stored : project.reviews.get? id = some record) : Stores project record.base
  | reviewHead {id : String} {record : ReviewRecord}
      (stored : project.reviews.get? id = some record) : Stores project record.head

/-- The revision is stored in some project. -/
def Session.Stores (session : Session) (snapshot : Snapshot) : Prop :=
  ∃ name project, session.store.projects.get? name = some project ∧ project.Stores snapshot

/-- The head of a stream is stored. -/
theorem Project.stores_of_head {project : Project} {name : String} {stream : DevelopmentStream}
    {head : Snapshot} (isHead : project.head name stream = .ok head) : project.Stores head := by
  obtain ⟨history, stored, last⟩ := head_eq_ok_iff.1 isHead
  exact .history stored (List.mem_of_getLast? last)

/-- The head of a branch is stored. -/
theorem Project.stores_of_branch_head {project : Project} {name : String} {branch : Branch}
    (stored : project.branches.get? name = some branch) : project.Stores branch.head := by
  unfold Branch.head
  cases last : branch.commits.getLast? with
  | none => exact .base stored
  | some snapshot => exact .commit stored (List.mem_of_getLast? last)

/-- Every revision that the project stores is allowed. -/
structure Project.StoresOnly (project : Project) (allowed : Snapshot → Prop) : Prop where
  streams : ∀ stream history, project.streams.get? stream = some history →
    ∀ snapshot ∈ history, allowed snapshot
  versions : ∀ version released, project.versions.get? version = some released →
    allowed released
  branches : ∀ name branch, project.branches.get? name = some branch →
    allowed branch.base ∧ ∀ snapshot ∈ branch.commits, allowed snapshot
  reviews : ∀ id record, project.reviews.get? id = some record →
    allowed record.base ∧ allowed record.head

namespace Project.StoresOnly

variable {project : Project} {allowed : Snapshot → Prop}

/-- What is allowed is looked up in each place. -/
theorem of_stores (all : ∀ snapshot, project.Stores snapshot → allowed snapshot) :
    project.StoresOnly allowed where
  streams _ _ stored _ listed := all _ (.history stored listed)
  versions _ _ stored := all _ (.release stored)
  branches _ _ stored := ⟨all _ (.base stored), fun _ listed => all _ (.commit stored listed)⟩
  reviews _ _ stored := ⟨all _ (.reviewBase stored), all _ (.reviewHead stored)⟩

/-- Whatever is stored in some place is allowed. -/
theorem allows (only : project.StoresOnly allowed) {snapshot : Snapshot}
    (stores : project.Stores snapshot) : allowed snapshot := by
  cases stores with
  | history stored listed => exact only.streams _ _ stored _ listed
  | release stored => exact only.versions _ _ stored
  | base stored => exact (only.branches _ _ stored).1
  | commit stored listed => exact (only.branches _ _ stored).2 _ listed
  | reviewBase stored => exact (only.reviews _ _ stored).1
  | reviewHead stored => exact (only.reviews _ _ stored).2

/-- A new project stores its first revision. -/
theorem start {first : Snapshot} (isAllowed : allowed first) :
    (Project.start first).StoresOnly allowed where
  streams := by
    refine SortedMap.forall_get?_insert ?_ (List.forall_mem_singleton.2 isAllowed)
    intro stream history stored
    cases stored
  versions _ _ stored := by cases stored
  branches _ _ stored := by cases stored
  reviews _ _ stored := by cases stored

/-- A stream can be extended by an allowed revision. -/
theorem pushRevision (only : project.StoresOnly allowed) (stream : DevelopmentStream)
    {next : Snapshot} (isAllowed : allowed next) :
    (project.pushRevision stream next).StoresOnly allowed := by
  have before : ∀ snapshot ∈ (project.streams.get? stream).getD [], allowed snapshot := by
    cases stored : project.streams.get? stream with
    | none => simp
    | some history => exact only.streams stream history stored
  exact { only with
    streams := SortedMap.forall_get?_insert only.streams
      (List.forall_mem_append.2 ⟨before, List.forall_mem_singleton.2 isAllowed⟩) }

/-- A patch stream can be started with an allowed revision. -/
theorem addPatch (only : project.StoresOnly allowed) (version : Version) {first : Snapshot}
    (isAllowed : allowed first) : (project.addPatch version first).StoresOnly allowed :=
  { only with
    streams := SortedMap.forall_get?_insert only.streams
      (List.forall_mem_singleton.2 isAllowed) }

/-- An allowed revision can be released. -/
theorem addVersion (only : project.StoresOnly allowed) (version : Version)
    {released : Snapshot} (isAllowed : allowed released) :
    (project.addVersion version released).StoresOnly allowed :=
  { only with versions := SortedMap.forall_get?_insert only.versions isAllowed }

/-- A branch of allowed revisions can be put under any name. -/
theorem putBranch (only : project.StoresOnly allowed) (name : String) {branch : Branch}
    (base : allowed branch.base) (commits : ∀ snapshot ∈ branch.commits, allowed snapshot) :
    (project.putBranch name branch).StoresOnly allowed :=
  { only with branches := SortedMap.forall_get?_insert only.branches ⟨base, commits⟩ }

/-- A branch can be dropped. -/
theorem dropBranch (only : project.StoresOnly allowed) (name : String) :
    (project.dropBranch name).StoresOnly allowed :=
  { only with branches := SortedMap.forall_get?_erase only.branches name }

/-- A review of allowed revisions can be added. -/
theorem addReview (only : project.StoresOnly allowed) {record : ReviewRecord}
    (base : allowed record.base) (head : allowed record.head) :
    (project.addReview record).StoresOnly allowed :=
  { only with reviews := SortedMap.forall_get?_insert only.reviews ⟨base, head⟩ }

end Project.StoresOnly

/-- Every revision that the session stores is allowed. -/
def Session.StoresOnly (session : Session) (allowed : Snapshot → Prop) : Prop :=
  ∀ ⦃snapshot⦄, session.Stores snapshot → allowed snapshot

namespace Session.StoresOnly

variable {session : Session} {allowed : Snapshot → Prop}

/-- What is allowed in the session is allowed in each of its projects. -/
theorem project (only : session.StoresOnly allowed) {name : String} {project : Project}
    (found : session.store.projects.get? name = some project) : project.StoresOnly allowed :=
  .of_stores fun _ stores => only ⟨name, project, found, stores⟩

/-- A project can be set to one that stores allowed revisions. -/
theorem setProject (only : session.StoresOnly allowed) (name : String) {project : Project}
    (projectOnly : project.StoresOnly allowed) :
    (session.setProject name project).StoresOnly allowed := by
  rintro snapshot ⟨other, state, found, stores⟩
  rcases SortedMap.get?_insert_eq_some_iff.1 found with ⟨_, rfl⟩ | ⟨_, found⟩
  · exact projectOnly.allows stores
  · exact only ⟨other, state, found, stores⟩

/-- Counting a commit does not touch the projects. -/
theorem advance (only : session.StoresOnly allowed) : session.advance.StoresOnly allowed := only

end Session.StoresOnly

/-- A commit is made on an allowed revision, or it is the first one of a project and then there
is nothing in it. -/
inductive Commit.FoundedOn (allowed : Snapshot → Prop) (commit : Commit) : Prop where
  | first (parentless : commit.parent = none) (message : commit.message = Projects.firstMessage)
      (empty : commit.contents.entities = ∅)
  | later {head : Snapshot} (parent : commit.parent = some head) (isAllowed : allowed head)

/-- What is founded on some revisions is founded on more of them. -/
theorem Commit.FoundedOn.mono {allowed more : Snapshot → Prop} {commit : Commit}
    (founded : commit.FoundedOn allowed) (weaker : ∀ ⦃head⦄, allowed head → more head) :
    commit.FoundedOn more := by
  cases founded with
  | first parentless message empty => exact .first parentless message empty
  | later parent isAllowed => exact .later parent (weaker isAllowed)

/-- What a step commits and stores. -/
inductive Mints (before after : Session) : Option Commit → Prop where
  /-- Nothing is committed, and nothing is stored that was not stored before. -/
  | nothing (sequence : after.store.sequence = before.store.sequence)
      (stores : after.StoresOnly before.Stores) : Mints before after none
  /-- One commit takes the next number, and its revision is all that is new. -/
  | commit {commit : Commit} (founded : commit.FoundedOn before.Stores)
      (isNext : commit.sequence = before.store.sequence + 1)
      (sequence : after.store.sequence = before.store.sequence + 1)
      (stores : after.StoresOnly fun snapshot =>
        before.Stores snapshot ∨ snapshot = commit.snapshot) : Mints before after (some commit)

/-- A step that makes one commit and sets one project mints the revision of the commit. -/
theorem Mints.of_set {before : Session} {parent : Option Snapshot} {message : String}
    {contents : Contents} {name : String} {project : Project}
    (founded : (before.nextCommit parent message contents).FoundedOn before.Stores)
    (only : project.StoresOnly fun snapshot =>
      before.Stores snapshot ∨ snapshot = before.minted parent message contents) :
    Mints before (before.advance.setProject name project)
      (some (before.nextCommit parent message contents)) := by
  simp only [← Session.snapshot_nextCommit] at only
  have all : before.StoresOnly fun snapshot => before.Stores snapshot ∨
      snapshot = (before.nextCommit parent message contents).snapshot :=
    fun _ stores => .inl stores
  exact .commit founded rfl rfl (all.advance.setProject name only)

/-- What a project stores is stored before a commit. -/
theorem Session.storesOnly_of_found {before : Session} {name : String} {project : Project}
    (found : before.store.projects.get? name = some project) (next : Snapshot) :
    project.StoresOnly fun snapshot => before.Stores snapshot ∨ snapshot = next :=
  .of_stores fun _ stores => .inl ⟨name, project, found, stores⟩

/-- A new project commits its first revision. -/
theorem Projects.Created.mints {project group artifact : String} {before after : Session}
    {revision : Revision} (created : Created project group artifact before revision after) :
    Mints before after (some (before.nextCommit none firstMessage
      (firstContents before.structureVersion project group artifact))) := by
  cases created with
  | intro absent minted => exact .of_set (.first rfl rfl rfl) (.start (.inr minted))

/-- A commit to a stream mints one revision. -/
theorem Projects.Committed.mints {project : String} {stream : DevelopmentStream}
    {message : String} {changes : List Change} {before after : Session} {revision : Revision}
    (committed : Committed project stream message changes before revision after) :
    Mints before after (commitOf? project stream message changes before) := by
  cases committed with
  | @intro state head next contents found isHead changed minted =>
    have stored : before.Stores head := ⟨_, _, found, Project.stores_of_head isHead⟩
    rw [commitOf?_eq found isHead changed]
    exact .of_set (.later rfl stored)
      ((Session.storesOnly_of_found found _).pushRevision _ (.inr minted))

/-- A commit to a workspace commits the changed head of its branch. -/
theorem Workspaces.Committed.mints {project : String} {specification : Specification}
    {message : String} {changes : List Change} {before after : Session} {revision : Revision}
    (committed : Committed project specification message changes before revision after) :
    Mints before after (commitOf? project specification message changes before) := by
  cases committed with
  | @intro name state branch next contents named found stored changed minted =>
    have commits : commitOf? project specification message changes before =
        some (before.nextCommit (some branch.head) message contents) := by
      simp [commitOf?, find_eq_ok named found stored, changed, Except.toOption]
    have inside := Session.storesOnly_of_found found next
    obtain ⟨base, older⟩ := inside.branches name branch stored
    have head : before.Stores branch.head := ⟨_, _, found, Project.stores_of_branch_head stored⟩
    rw [commits]
    refine .of_set (.later rfl head) ?_
    rw [← minted]
    exact inside.putBranch name base
      (List.forall_mem_append.2 ⟨older, List.forall_mem_singleton.2 (.inr rfl)⟩)

/-- What an update commits is founded on the head of the stream. -/
theorem Workspaces.Updatable.updateCommit?_eq {project : String} {specification : Specification}
    {before : Session} {names : UpdateNames} {state : Project} {branch : Branch}
    {head : Snapshot}
    (updatable : Updatable project specification before names state branch head)
    (report : UpdateReport) : updateCommit? project specification report before =
      match report with
      | .unchanged => none
      | .updated _ =>
        if (updateMerge branch head).carriesOver then
          some (before.nextCommit (some head) replayMessage (updateMerge branch head).contents)
        else
          none
      | .conflicting _ =>
        some (before.nextCommit (some head) resolutionMessage
          (updateMerge branch head).contents) := by
  simp only [updateCommit?, updatable.find_eq, Except.toOption, Option.bind_eq_bind,
    Option.bind_some, updatable.isHead]

/-- An update commits what it carries over to the head of the stream. -/
theorem Workspaces.Updated.mints {project : String} {specification : Specification}
    {before after : Session} {report : UpdateReport}
    (updated : Updated project specification before report after) :
    Mints before after (updateCommit? project specification report before) := by
  cases updated with
  | unchanged updatable current =>
    rw [updatable.updateCommit?_eq]
    exact .nothing rfl fun _ stores => stores
  | @moved names state branch head updatable outdated clean idle =>
    have all : before.StoresOnly before.Stores := fun _ stores => stores
    have inside := all.project updatable.found
    have stored := inside.allows (Project.stores_of_head updatable.isHead)
    obtain ⟨base, older⟩ := inside.branches names.live branch updatable.stored
    have kept := inside.putBranch names.backup base older
    rw [updatable.updateCommit?_eq, idle]
    exact .nothing rfl (all.setProject _ (kept.putBranch names.live stored (List.forall_mem_nil _)))
  | @replayed names state branch head next updatable outdated clean carries minted =>
    have inside := Session.storesOnly_of_found updatable.found next
    have stored := Project.stores_of_head updatable.isHead
    obtain ⟨base, older⟩ := inside.branches names.live branch updatable.stored
    have kept := inside.putBranch names.backup base older
    simp only [updatable.updateCommit?_eq, carries, if_true]
    refine .of_set (.later rfl ⟨_, _, updatable.found, stored⟩) ?_
    rw [← minted]
    exact kept.putBranch names.live (inside.allows stored)
      (List.forall_mem_singleton.2 (.inr rfl))
  | @conflicting names state branch head next updatable outdated conflicts minted =>
    have inside := Session.storesOnly_of_found updatable.found next
    have stored := Project.stores_of_head updatable.isHead
    rw [updatable.updateCommit?_eq]
    refine .of_set (.later rfl ⟨_, _, updatable.found, stored⟩) ?_
    rw [← minted]
    exact inside.putBranch names.resolution (inside.allows stored)
      (List.forall_mem_singleton.2 (.inr rfl))

/-- A step commits what its exchange says. -/
theorem Step.mints {before after : Session} {request : Request} {answer : Answer}
    (step : Step before request answer after) :
    Mints before after (Exchange.commit? ⟨before, request, answer⟩) := by
  have all : before.StoresOnly before.Stores := fun _ stores => stores
  cases step with
  | query isQuery _ =>
    rw [Exchange.commit?_of_isQuery isQuery]
    exact .nothing rfl all
  | becomeUser user => exact .nothing rfl all
  | createProject created => exact created.mints
  | releaseVersion released =>
    cases released with
    | intro found absent isHead =>
      have stored := (all.project found).allows (Project.stores_of_head isHead)
      exact .nothing rfl (all.setProject _ ((all.project found).addVersion _ stored))
  | openPatch opened =>
    cases opened with
    | intro found absent isReleased =>
      have stored := (all.project found).allows (.release isReleased)
      exact .nothing rfl (all.setProject _ ((all.project found).addPatch _ stored))
  | commitToStream committed => exact committed.mints
  | commitToWorkspace committed => exact committed.mints
  | openReview opened =>
    cases opened with
    | intro named found stored isReview =>
      have inside := all.project found
      exact .nothing rfl (all.setProject _ (inside.addReview (inside.allows (.base stored))
        (inside.allows (Project.stores_of_branch_head stored))))
  | createWorkspace created =>
    cases created with
    | intro live named found absent isHead =>
      have inside := all.project found
      exact .nothing rfl (all.setProject _ (inside.putBranch _
        (inside.allows (Project.stores_of_head isHead)) (List.forall_mem_nil _)))
  | deleteWorkspace deleted =>
    cases deleted with
    | live live named resolutionNamed found stored =>
      exact .nothing rfl (all.setProject _ (((all.project found).dropBranch _).dropBranch _))
    | alone notLive named found stored =>
      exact .nothing rfl (all.setProject _ ((all.project found).dropBranch _))
  | updateWorkspace updated => exact updated.mints
  | discardBackup discarded =>
    cases discarded with
    | intro named found stored =>
      exact .nothing rfl (all.setProject _ ((all.project found).dropBranch _))
  | recoverBackup recovered =>
    cases recovered with
    | intro named backupNamed found stored allowed =>
      have inside := all.project found
      obtain ⟨base, commits⟩ := inside.branches _ _ stored
      exact .nothing rfl (all.setProject _ ((inside.dropBranch _).putBranch _ base commits))

end Workstream
