import Workstream.Proofs.Store.Reachable

/-!
# Integrity of the store

The parts of a project refer to one another by value and by name: a patch stream to the
version that it was opened from, a version to the main line, a branch to its stream and
through its name to its specification, and a review to the stream that it is meant for.
`Project.Sound` says that every such reference is kept. It holds of each project in
every reachable session.

Each way to change a project has a lemma of its own, and the lemma about steps puts them
together. Histories only grow, so what lies in a history stays there.
-/

namespace Workstream

namespace Project

/-- The revision is in the history of the stream. -/
def InHistory (project : Project) (stream : DevelopmentStream) (snapshot : Snapshot) : Prop :=
  ∃ history, project.streams.get? stream = some history ∧ snapshot ∈ history

/-- A stored branch belongs to the workspace that its name says, for which there is a
stream, and was cut from a revision of that stream. -/
structure SoundBranch (project : Project) (name : String) (branch : Branch)
    (specification : Specification) : Prop where
  decoded : BranchName.decode? name = some specification
  canonical : ∀ currentUser, BranchName.encode currentUser specification = .ok name
  /-- The branch of a user's workspace says who the user is. -/
  owned : specification.ownership = .user → specification.user?.isSome
  based : project.InHistory specification.stream branch.base

/-- A stored review is found under its id, is about a live workspace of the stream that it
is meant for, and starts from a revision of that stream. -/
structure SoundReview (project : Project) (id : String) (record : ReviewRecord) : Prop where
  keyed : record.review.id = id
  live : record.review.workspace.access = .live
  targeted : record.review.workspace.stream = record.review.target
  based : project.InHistory record.review.target record.base

/-- Everything that a part of the project refers to is there. -/
structure Sound (project : Project) : Prop where
  mainLine : (project.streams.get? .mainLine).isSome
  nonempty : ∀ stream history, project.streams.get? stream = some history → history ≠ []
  /-- A patch stream starts with the release of its version. -/
  patches : ∀ version history, project.streams.get? (.patch version) = some history →
    ∃ released, project.versions.get? version = some released ∧ history.head? = some released
  /-- A release is a revision of the main line. -/
  versions : ∀ version released, project.versions.get? version = some released →
    project.InHistory .mainLine released
  branches : ∀ name branch, project.branches.get? name = some branch →
    ∃ specification, project.SoundBranch name branch specification
  reviews : ∀ id record, project.reviews.get? id = some record → project.SoundReview id record

/-- The head of a stream is in its history. -/
theorem inHistory_of_head {project : Project} {name : String} {stream : DevelopmentStream}
    {head : Snapshot} (isHead : project.head name stream = .ok head) :
    project.InHistory stream head := by
  obtain ⟨history, stored, last⟩ := head_eq_ok_iff.1 isHead
  exact ⟨history, stored, List.mem_of_getLast? last⟩

/-- Every history of the one project is the start of the history of the same stream in
the other. -/
def Grows (before after : Project) : Prop :=
  ∀ stream history, before.streams.get? stream = some history →
    ∃ more, after.streams.get? stream = some (history ++ more)

/-- Histories that are left alone have grown by nothing. -/
theorem Grows.of_streams_eq {before after : Project} (same : after.streams = before.streams) :
    Grows before after :=
  fun stream history stored => ⟨[], by rw [same, stored, List.append_nil]⟩

/-- The history of a stream grows when the stream is extended. -/
theorem Grows.pushRevision (project : Project) (stream : DevelopmentStream)
    (snapshot : Snapshot) : Grows project (project.pushRevision stream snapshot) := by
  intro other history stored
  by_cases same : other = stream
  · subst same
    exact ⟨[snapshot], by simp [stored]⟩
  · refine ⟨[], ?_⟩
    rw [List.append_nil, ← stored]
    exact SortedMap.get?_insert_of_ne _ _ same

/-- No history changes when a patch stream is opened that was not there. -/
theorem Grows.addPatch {project : Project} {version : Version}
    (absent : project.streams.get? (.patch version) = none) (first : Snapshot) :
    Grows project (project.addPatch version first) := by
  intro stream history stored
  refine ⟨[], ?_⟩
  rw [List.append_nil]
  exact SortedMap.get?_insert_of_absent absent stored [first]

/-- What is in a history stays there as histories grow. -/
theorem InHistory.of_grows {before after : Project} {stream : DevelopmentStream}
    {snapshot : Snapshot} (member : before.InHistory stream snapshot)
    (grows : Grows before after) : after.InHistory stream snapshot := by
  obtain ⟨history, stored, listed⟩ := member
  obtain ⟨more, extended⟩ := grows stream history stored
  exact ⟨history ++ more, extended, List.mem_append_left _ listed⟩

/-- A branch stays sound as histories grow. -/
theorem SoundBranch.of_grows {before after : Project} {name : String} {branch : Branch}
    {specification : Specification} (sound : before.SoundBranch name branch specification)
    (grows : Grows before after) : after.SoundBranch name branch specification :=
  { sound with based := sound.based.of_grows grows }

/-- A review stays sound as histories grow. -/
theorem SoundReview.of_grows {before after : Project} {id : String} {record : ReviewRecord}
    (sound : before.SoundReview id record) (grows : Grows before after) :
    after.SoundReview id record :=
  { sound with based := sound.based.of_grows grows }

/-- All branches stay sound as histories grow. -/
theorem Sound.branches_of_grows {before after : Project} (sound : before.Sound)
    (grows : Grows before after) (name : String) (branch : Branch)
    (stored : before.branches.get? name = some branch) :
    ∃ specification, after.SoundBranch name branch specification := by
  obtain ⟨specification, soundBranch⟩ := sound.branches name branch stored
  exact ⟨specification, soundBranch.of_grows grows⟩

/-- All reviews stay sound as histories grow. -/
theorem Sound.reviews_of_grows {before after : Project} (sound : before.Sound)
    (grows : Grows before after) (id : String) (record : ReviewRecord)
    (stored : before.reviews.get? id = some record) : after.SoundReview id record :=
  (sound.reviews id record stored).of_grows grows

/-- A branch that was cut from the stream of a workspace is sound under the name of the
workspace. -/
theorem SoundBranch.of_encode {project : Project} {currentUser : Option String}
    {specification : Specification} {name : String} {branch : Branch}
    (named : BranchName.encode currentUser specification = .ok name)
    (based : project.InHistory specification.stream branch.base) :
    project.SoundBranch name branch (specification.resolve currentUser) where
  decoded := BranchName.decode?_of_encode named
  canonical := BranchName.encode_decode (BranchName.decode_encode named)
  owned := BranchName.user?_isSome_of_decode (BranchName.decode_encode named)
  based := based

/-- The branch of a workspace was cut from the stream of the workspace. -/
theorem Sound.inHistory_base {project : Project} (sound : project.Sound)
    {currentUser : Option String} {specification : Specification} {name : String}
    {branch : Branch} (named : BranchName.encode currentUser specification = .ok name)
    (stored : project.branches.get? name = some branch) :
    project.InHistory specification.stream branch.base := by
  obtain ⟨other, soundBranch⟩ := sound.branches name branch stored
  have read := BranchName.decode?_eq_some_iff.1 soundBranch.decoded
  obtain rfl := Except.ok.inj (read.symm.trans (BranchName.decode_encode named))
  exact soundBranch.based

/-- A new project is sound. -/
theorem Sound.start (first : Snapshot) : (Project.start first).Sound := by
  have stored : ∀ stream history, (Project.start first).streams.get? stream = some history →
      stream = .mainLine ∧ history = [first] := by
    intro stream history found
    rcases SortedMap.get?_insert_eq_some_iff.1 found with ⟨main, same⟩ | ⟨_, absent⟩
    · exact ⟨main, same.symm⟩
    · cases absent
  refine ⟨by simp [Project.start], ?_, ?_, ?_, ?_, ?_⟩
  · intro stream history found
    simp [(stored stream history found).2]
  · intro version history found
    cases (stored _ _ found).1
  · rintro version released ⟨⟩
  · rintro name branch ⟨⟩
  · rintro id record ⟨⟩

/-- Branches can be changed to other sound branches. -/
theorem Sound.withBranches {project : Project} (sound : project.Sound)
    {branches : SortedMap String Branch}
    (soundBranches : ∀ name branch, branches.get? name = some branch →
      ∃ specification, project.SoundBranch name branch specification) :
    ({ project with branches } : Project).Sound := by
  have grows : Grows project { project with branches } := .of_streams_eq rfl
  refine ⟨sound.mainLine, sound.nonempty, sound.patches, sound.versions, ?_, ?_⟩
  · intro name branch stored
    obtain ⟨specification, soundBranch⟩ := soundBranches name branch stored
    exact ⟨specification, soundBranch.of_grows grows⟩
  · exact sound.reviews_of_grows grows

/-- A sound branch can be put in any place. -/
theorem Sound.putBranch {project : Project} (sound : project.Sound) {name : String}
    {branch : Branch} {specification : Specification}
    (soundBranch : project.SoundBranch name branch specification) :
    (project.putBranch name branch).Sound := by
  refine sound.withBranches fun other found stored => ?_
  rcases SortedMap.get?_insert_eq_some_iff.1 stored with ⟨rfl, rfl⟩ | ⟨_, stored⟩
  · exact ⟨specification, soundBranch⟩
  · exact sound.branches other found stored

/-- A branch can be dropped. -/
theorem Sound.dropBranch {project : Project} (sound : project.Sound) (name : String) :
    (project.dropBranch name).Sound := by
  refine sound.withBranches fun other found stored => ?_
  exact sound.branches other found (SortedMap.get?_erase_eq_some_iff.1 stored).2

/-- A stream can be extended. -/
theorem Sound.pushRevision {project : Project} (sound : project.Sound)
    {stream : DevelopmentStream} {history : List Snapshot}
    (stored : project.streams.get? stream = some history) (snapshot : Snapshot) :
    (project.pushRevision stream snapshot).Sound := by
  have extended : (project.pushRevision stream snapshot).streams =
      project.streams.insert stream (history ++ [snapshot]) := by
    simp [stored]
  have grows := Grows.pushRevision project stream snapshot
  have nonempty := sound.nonempty stream history stored
  refine ⟨?_, ?_, ?_, ?_, ?_, ?_⟩
  · obtain ⟨mainLine, found⟩ := Option.isSome_iff_exists.1 sound.mainLine
    obtain ⟨more, found⟩ := grows _ _ found
    exact Option.isSome_iff_exists.2 ⟨_, found⟩
  · intro other revisions found
    rw [extended] at found
    rcases SortedMap.get?_insert_eq_some_iff.1 found with ⟨_, rfl⟩ | ⟨_, found⟩
    · simp
    · exact sound.nonempty other revisions found
  · intro version revisions found
    rw [extended] at found
    rcases SortedMap.get?_insert_eq_some_iff.1 found with ⟨rfl, rfl⟩ | ⟨_, found⟩
    · obtain ⟨released, isReleased, first⟩ := sound.patches version history stored
      exact ⟨released, isReleased, by simp [List.head?_append, first]⟩
    · exact sound.patches version revisions found
  · exact fun version released isReleased =>
      (sound.versions version released isReleased).of_grows grows
  · exact sound.branches_of_grows grows
  · exact sound.reviews_of_grows grows

/-- A revision of the main line can be released as a new version. -/
theorem Sound.addVersion {project : Project} (sound : project.Sound) {version : Version}
    {snapshot : Snapshot} (absent : project.versions.get? version = none)
    (member : project.InHistory .mainLine snapshot) :
    (project.addVersion version snapshot).Sound := by
  have grows : Grows project (project.addVersion version snapshot) := .of_streams_eq rfl
  refine ⟨sound.mainLine, sound.nonempty, ?_, ?_, ?_, ?_⟩
  · intro other history stored
    obtain ⟨released, isReleased, first⟩ := sound.patches other history stored
    -- The version is new, so there is no patch stream of it yet.
    have differs : other ≠ version := by
      rintro rfl
      rw [absent] at isReleased
      cases isReleased
    exact ⟨released, (SortedMap.get?_insert_of_ne _ _ differs).trans isReleased, first⟩
  · intro other released isReleased
    rcases SortedMap.get?_insert_eq_some_iff.1 isReleased with ⟨rfl, rfl⟩ | ⟨_, isReleased⟩
    · exact member.of_grows grows
    · exact (sound.versions other released isReleased).of_grows grows
  · exact sound.branches_of_grows grows
  · exact sound.reviews_of_grows grows

/-- The patch stream of a released version can be opened once. -/
theorem Sound.addPatch {project : Project} (sound : project.Sound) {version : Version}
    {released : Snapshot} (absent : project.streams.get? (.patch version) = none)
    (isReleased : project.versions.get? version = some released) :
    (project.addPatch version released).Sound := by
  have grows := Grows.addPatch absent released
  have origin : ∀ stream history,
      (project.addPatch version released).streams.get? stream = some history →
        project.streams.get? stream = some history ∨
          stream = .patch version ∧ history = [released] := by
    intro stream history stored
    rcases SortedMap.get?_insert_eq_some_iff.1 stored with ⟨same, rfl⟩ | ⟨_, stored⟩
    · exact .inr ⟨same, rfl⟩
    · exact .inl stored
  refine ⟨?_, ?_, ?_, ?_, ?_, ?_⟩
  · obtain ⟨mainLine, found⟩ := Option.isSome_iff_exists.1 sound.mainLine
    obtain ⟨more, found⟩ := grows _ _ found
    exact Option.isSome_iff_exists.2 ⟨_, found⟩
  · intro stream history stored
    rcases origin stream history stored with old | ⟨_, rfl⟩
    · exact sound.nonempty stream history old
    · simp
  · intro other history stored
    rcases origin _ history stored with old | ⟨same, rfl⟩
    · exact sound.patches other history old
    · cases same
      exact ⟨released, isReleased, rfl⟩
  · exact fun other snapshot found => (sound.versions other snapshot found).of_grows grows
  · exact sound.branches_of_grows grows
  · exact sound.reviews_of_grows grows

/-- A sound review can be added. -/
theorem Sound.addReview {project : Project} (sound : project.Sound) {record : ReviewRecord}
    (soundReview : project.SoundReview record.review.id record) :
    (project.addReview record).Sound := by
  have grows : Grows project (project.addReview record) := .of_streams_eq rfl
  refine ⟨sound.mainLine, sound.nonempty, sound.patches, sound.versions, ?_, ?_⟩
  · exact sound.branches_of_grows grows
  · intro id other stored
    rcases SortedMap.get?_insert_eq_some_iff.1 stored with ⟨rfl, rfl⟩ | ⟨_, stored⟩
    · exact soundReview.of_grows grows
    · exact (sound.reviews id other stored).of_grows grows

end Project

/-- Every project of the session is sound. -/
def Session.Sound (session : Session) : Prop :=
  ∀ name project, session.store.projects.get? name = some project → project.Sound

/-- A project can be set to a sound one. -/
theorem Session.Sound.setProject {session : Session} (sound : session.Sound) (name : String)
    {project : Project} (soundProject : project.Sound) :
    (session.setProject name project).Sound :=
  SortedMap.forall_get?_insert sound soundProject

/-- Counting a commit does not touch the projects. -/
theorem Session.Sound.advance {session : Session} (sound : session.Sound) :
    session.advance.Sound := sound

/-- Replacing a live workspace and keeping the old one as its backup leaves a sound project
behind. -/
theorem Workspaces.Updatable.sound_replace {project : String} {specification : Specification}
    {before : Session} {names : UpdateNames} {state : Project} {branch updated : Branch}
    {head : Snapshot}
    (updatable : Updatable project specification before names state branch head)
    (sound : state.Sound) (rebased : updated.base = head) :
    ((state.putBranch names.backup branch).putBranch names.live updated).Sound := by
  have based := sound.inHistory_base updatable.liveNamed updatable.stored
  have isHead := Project.inHistory_of_head updatable.isHead
  have soundUpdated : state.SoundBranch names.live updated
      (specification.resolve before.currentUser) :=
    .of_encode updatable.liveNamed (rebased.symm ▸ isHead)
  have kept := sound.putBranch (.of_encode updatable.backupNamed based)
  exact kept.putBranch (soundUpdated.of_grows (.of_streams_eq rfl))

/-- A step leaves sound projects behind. -/
theorem Step.sound {before after : Session} {request : Request} {answer : Answer}
    (step : Step before request answer after) (sound : before.Sound) : after.Sound := by
  cases step with
  | query _ _ => exact sound
  | becomeUser user => exact sound
  | createProject created =>
    cases created with
    | intro absent minted => exact sound.advance.setProject _ (.start _)
  | releaseVersion released =>
    cases released with
    | intro found absent isHead =>
      exact sound.setProject _
        ((sound _ _ found).addVersion absent (Project.inHistory_of_head isHead))
  | openPatch opened =>
    cases opened with
    | intro found absent isReleased =>
      exact sound.setProject _ ((sound _ _ found).addPatch absent isReleased)
  | commitToStream committed =>
    cases committed with
    | intro found isHead changed minted =>
      obtain ⟨history, stored, _⟩ := Project.head_eq_ok_iff.1 isHead
      exact sound.advance.setProject _ ((sound _ _ found).pushRevision stored _)
  | commitToWorkspace committed =>
    cases committed with
    | intro named found stored changed minted =>
      have based := (sound _ _ found).inHistory_base named stored
      exact sound.advance.setProject _
        ((sound _ _ found).putBranch (.of_encode named based))
  | openReview opened =>
    cases opened with
    | intro named found stored isReview =>
      have based := (sound _ _ found).inHistory_base named stored
      subst isReview
      exact sound.setProject _ ((sound _ _ found).addReview ⟨rfl, rfl, rfl, based⟩)
  | createWorkspace created =>
    cases created with
    | intro live named found absent isHead =>
      exact sound.setProject _ ((sound _ _ found).putBranch
        (.of_encode named (Project.inHistory_of_head isHead)))
  | deleteWorkspace deleted =>
    cases deleted with
    | live live named resolutionNamed found stored =>
      exact sound.setProject _ (((sound _ _ found).dropBranch _).dropBranch _)
    | alone notLive named found stored =>
      exact sound.setProject _ ((sound _ _ found).dropBranch _)
  | updateWorkspace updated =>
    cases updated with
    | unchanged updatable current => exact sound
    | @moved names state branch head updatable outdated clean idle =>
      have soundState := sound _ _ updatable.found
      exact sound.setProject _ (Workspaces.Updatable.sound_replace updatable soundState rfl)
    | @replayed names state branch head next updatable outdated clean carries minted =>
      have soundState := sound _ _ updatable.found
      exact sound.advance.setProject _
        (Workspaces.Updatable.sound_replace updatable soundState rfl)
    | conflicting updatable outdated conflicts minted =>
      have based := Project.inHistory_of_head updatable.isHead
      exact sound.advance.setProject _ ((sound _ _ updatable.found).putBranch
        (.of_encode updatable.resolutionNamed based))
  | discardBackup discarded =>
    cases discarded with
    | intro named found stored => exact sound.setProject _ ((sound _ _ found).dropBranch _)
  | recoverBackup recovered =>
    cases recovered with
    | intro named backupNamed found stored allowed =>
      have based := (sound _ _ found).inHistory_base backupNamed stored
      exact sound.setProject _ (((sound _ _ found).dropBranch _).putBranch
        ((Project.SoundBranch.of_encode named based).of_grows (.of_streams_eq rfl)))

/-- Every project of a reachable session is sound. -/
theorem Session.Reachable.sound {session : Session} (reachable : session.Reachable) :
    session.Sound :=
  reachable.invariant (fun _ _ _ _ stored => nomatch stored) fun _ sound step => step.sound sound

/-- In a reachable session every project has a main line and no empty history. Every patch
stream starts with the release of its version, and every release is a revision of the main
line. The name of every branch is read as a specification that has just this name and
leaves no user open, and the branch was cut from the stream of that specification. Every
review has its own id as its key, is about a live workspace of the stream that it is meant
for, and starts from a revision of that stream. -/
theorem references_kept {session : Session} (reachable : session.Reachable) {name : String}
    {project : Project} (found : session.store.projects.get? name = some project) :
    (∃ history, project.streams.get? .mainLine = some history) ∧
    (∀ stream history, project.streams.get? stream = some history → history ≠ []) ∧
    (∀ version history, project.streams.get? (.patch version) = some history →
      ∃ released, project.versions.get? version = some released ∧
        history.head? = some released) ∧
    (∀ version released, project.versions.get? version = some released →
      ∃ history, project.streams.get? .mainLine = some history ∧ released ∈ history) ∧
    (∀ branchName branch, project.branches.get? branchName = some branch →
      ∃ specification, BranchName.decode? branchName = some specification ∧
        (∀ currentUser, BranchName.encode currentUser specification = .ok branchName) ∧
        (specification.ownership = .user → ∃ user, specification.user? = some user) ∧
        ∃ history, project.streams.get? specification.stream = some history ∧
          branch.base ∈ history) ∧
    ∀ id record, project.reviews.get? id = some record →
      record.review.id = id ∧ record.review.workspace.access = .live ∧
        record.review.workspace.stream = record.review.target ∧
        ∃ history, project.streams.get? record.review.target = some history ∧
          record.base ∈ history := by
  have sound := reachable.sound name project found
  refine ⟨Option.isSome_iff_exists.1 sound.mainLine, sound.nonempty, sound.patches,
    sound.versions, ?_, ?_⟩
  · intro branchName branch stored
    obtain ⟨specification, decoded, canonical, owned, based⟩ :=
      sound.branches branchName branch stored
    exact ⟨specification, decoded, canonical,
      fun isUser => Option.isSome_iff_exists.1 (owned isUser), based⟩
  · intro id record stored
    obtain ⟨keyed, live, targeted, based⟩ := sound.reviews id record stored
    exact ⟨keyed, live, targeted, based⟩

/-- A session in which a workspace on a patch stream is reviewed. -/
def reviewedSession : Session :=
  let version : Version := ⟨1, 0, 0⟩
  let workspace : Specification :=
    { id := ⟨"main", by decide, by decide⟩, owner := .group, access := .live,
      stream := .patch version }
  (Session.start none 13).after
    [.createProject "p" "g" "a", .releaseVersion "p" version, .openPatch "p" version,
      .createWorkspace "p" workspace, .openReview "p" workspace]

/-- The review of a workspace on a patch stream starts from a revision of this stream. -/
theorem references_kept_reviewed :
    ∃ project record, reviewedSession.store.projects.get? "p" = some project ∧
      project.reviews.get? "1" = some record ∧ record.review.id = "1" ∧
        record.review.workspace.stream = record.review.target ∧
        ∃ history, project.streams.get? record.review.target = some history ∧
          record.base ∈ history := by
  have stored : ((reviewedSession.store.projects.get? "p").bind
      (·.reviews.get? "1")).isSome := by decide +kernel
  obtain ⟨record, stored⟩ := Option.isSome_iff_exists.1 stored
  obtain ⟨project, found, stored⟩ := Option.bind_eq_some_iff.1 stored
  have reachable : reviewedSession.Reachable := (Session.Reachable.start none 13).after _
  obtain ⟨_, _, _, _, _, reviews⟩ := references_kept reachable found
  obtain ⟨keyed, _, targeted, based⟩ := reviews "1" record stored
  exact ⟨project, record, found, stored, keyed, targeted, based⟩

end Workstream
