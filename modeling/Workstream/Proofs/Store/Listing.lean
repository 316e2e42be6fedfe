import Workstream.Proofs.Store.Integrity
import Workstream.Proofs.Store.UpdateOutcome
import Workstream.Proofs.Text.ByteOrder

/-!
# Listing and lookup agree

A listing reads the names of all branches back, and a lookup makes a name out of a
specification. The two see the same workspaces: what is listed is found, and what is found is
listed, with its user filled in.
-/

namespace Workstream

/-- Only the workspace of a user names one. -/
theorem Owner.ownership_of_user? {owner : Owner} (named : owner.user?.isSome) :
    owner.ownership = .user := by
  cases owner with
  | user pinned => rfl
  | group => cases named

/-- The specifications that are read from names and kept have these names, in the same
order. -/
theorem BranchName.map_encode_filterMap (currentUser : Option String)
    (keeps : Specification → Bool) (names : List String) :
    ((names.filterMap decode?).filter keeps).map (encode currentUser) =
      (names.filter fun name => (decode? name).any keeps).map .ok := by
  induction names with
  | nil => rfl
  | cons name rest ih =>
    cases read : decode? name with
    | none => simpa [read] using ih
    | some specification =>
      have named := encode_of_decode? read currentUser
      by_cases kept : keeps specification = true
      · simpa [read, kept, named] using ih
      · simpa [read, kept] using ih

namespace Project

/-- The specifications that the names of the branches are read as, in the order of the names,
as far as they are kept. -/
def specifications (project : Project) (keeps : Specification → Bool) : List Specification :=
  (project.branches.keys.filterMap BranchName.decode?).filter keeps

variable {project : Project} {keeps : Specification → Bool}

/-- A specification is read from the name of a branch. -/
theorem mem_specifications_iff {specification : Specification} :
    specification ∈ project.specifications keeps ↔ keeps specification ∧
      ∃ name branch, project.branches.get? name = some branch ∧
        BranchName.decode? name = some specification := by
  simp only [specifications, List.mem_filter, List.mem_filterMap, SortedMap.mem_keys_iff,
    Option.isSome_iff_exists]
  constructor
  · rintro ⟨⟨name, ⟨branch, stored⟩, read⟩, kept⟩
    exact ⟨kept, name, branch, stored, read⟩
  · rintro ⟨kept, name, branch, stored, read⟩
    exact ⟨⟨name, ⟨branch, stored⟩, read⟩, kept⟩

/-- The specifications are read from the names of their branches. -/
theorem specifications_eq_filterMap (project : Project) (keeps : Specification → Bool) :
    project.specifications keeps =
      (project.branches.keys.filter fun name => (BranchName.decode? name).any keeps).filterMap
        BranchName.decode? := by
  rw [specifications, List.filter_filterMap, List.filterMap_filter]
  congr 1
  funext name
  cases BranchName.decode? name <;> simp [Option.filter]

/-- The names of the specifications ascend. -/
theorem specifications_ascending (currentUser : Option String) (project : Project)
    (keeps : Specification → Bool) :
    ∃ names : List String,
      (project.specifications keeps).map (BranchName.encode currentUser) = names.map .ok ∧
        names.Pairwise fun earlier later => compare earlier later = .lt :=
  ⟨_, BranchName.map_encode_filterMap currentUser keeps _,
    project.branches.keys_ascending.filter _⟩

/-- No specification is read twice. -/
theorem specifications_nodup (project : Project) (keeps : Specification → Bool) :
    (project.specifications keeps).Nodup := by
  obtain ⟨names, named, ascending⟩ := specifications_ascending none project keeps
  have distinct := SortedMap.nodup_of_ascending id ascending
  refine List.Nodup.of_map (BranchName.encode none) ?_
  rw [named]
  exact distinct.map fun _ _ => Except.ok.inj

end Project

namespace Workspaces

section

variable {session : Session} {project : String} {state : Project} {stream : DevelopmentStream}
  {kinds : List Ownership} {history : List Snapshot} {specification : Specification}

/-- A listing of all workspaces of a stream keeps the live ones of the wanted kinds. -/
theorem isListed_none_iff : isListed stream kinds none specification ↔
    specification.stream = stream ∧ specification.access = .live ∧
      specification.ownership ∈ kinds := by
  unfold isListed visibleTo
  cases specification.owner <;> simp [and_assoc]

/-- A listing is made of the specifications that the names of the branches are read as. -/
theorem listFor_eq (viewer : Option String) (project : String) (stream : DevelopmentStream)
    (kinds : List Ownership) (session : Session) :
    listFor viewer project stream kinds session = do
      let state ← session.store.project project
      let _ ← state.history project stream
      return (state.specifications (isListed stream kinds viewer)).map (Workspace.mk project) :=
  rfl

/-- The listing of a stream that has a revision. -/
theorem listFor_eq_ok (viewer : Option String) (kinds : List Ownership)
    (found : session.store.projects.get? project = some state)
    (stored : state.streams.get? stream = some history) (nonempty : history ≠ []) :
    listFor viewer project stream kinds session =
      .ok ((state.specifications (isListed stream kinds viewer)).map (Workspace.mk project)) := by
  have isProject := Store.project_eq_ok_iff.2 found
  have isStream : state.history project stream = .ok history := by
    simp [Project.history, Project.history?, Option.filter, stored, nonempty]
  exact bind_eq_ok_iff.2 ⟨state, isProject, bind_eq_ok_iff.2 ⟨history, isStream, rfl⟩⟩

/-- The workspace that is found is the one that was asked for, with its user filled in. -/
theorem get_eq_ok_iff {workspace : Workspace} :
    get project specification session = .ok workspace ↔
      (∃ found, find project specification session = .ok found) ∧
        workspace = { project, specification := specification.resolve session.currentUser } := by
  constructor
  · intro isFound
    obtain ⟨found, looked, isWorkspace⟩ := bind_eq_ok_iff.1 isFound
    obtain ⟨_, same, _⟩ := find_eq_ok_iff.1 looked
    exact ⟨⟨found, looked⟩, same ▸ (Except.ok.inj isWorkspace).symm⟩
  · rintro ⟨⟨found, looked⟩, rfl⟩
    obtain ⟨_, same, _⟩ := find_eq_ok_iff.1 looked
    exact bind_eq_ok_iff.2 ⟨found, looked, same ▸ rfl⟩

/-- A workspace is found under the specification that the name of its branch is read as. -/
theorem get_decoded {name : String} {branch : Branch}
    (found : session.store.projects.get? project = some state)
    (stored : state.branches.get? name = some branch)
    (read : BranchName.decode? name = some specification) :
    get project specification session = .ok { project, specification } := by
  have named := BranchName.encode_of_decode? read session.currentUser
  have resolved : specification.resolve session.currentUser = specification :=
    Option.some.inj ((BranchName.decode?_of_encode named).symm.trans read)
  exact get_eq_ok_iff.2 ⟨⟨_, find_eq_ok named found stored⟩, by rw [resolved]⟩

/-- A workspace that is found has a branch, whose name is read as its specification. -/
theorem stored_of_get {workspace : Workspace}
    (found : session.store.projects.get? project = some state)
    (looked : get project specification session = .ok workspace) :
    ∃ name branch, state.branches.get? name = some branch ∧
      BranchName.decode? name = some (specification.resolve session.currentUser) := by
  obtain ⟨⟨⟨name, _, other, branch⟩, isFound⟩, _⟩ := get_eq_ok_iff.1 looked
  obtain ⟨named, _, otherFound, stored⟩ := find_eq_ok_iff.1 isFound
  obtain rfl : state = other := Option.some.inj (found.symm.trans otherFound)
  exact ⟨name, branch, stored, BranchName.decode?_of_encode named⟩

end

/-- What a listing of the workspaces of a stream is. -/
structure Listed (session : Session) (project : String) (state : Project)
    (stream : DevelopmentStream) (kinds : List Ownership) (workspaces : List Workspace) :
    Prop where
  distinct : workspaces.Nodup
  /-- The names of the branches ascend byte by byte. -/
  ascending : ∃ names : List String,
    workspaces.map (BranchName.encode session.currentUser ·.specification) = names.map .ok ∧
      names.Pairwise fun earlier later => Text.encodeUtf8 earlier < Text.encodeUtf8 later
  /-- Every branch belongs to a workspace, which is listed when it is a live one of the stream
  and of one of the kinds, and only then. -/
  complete : ∀ name branch, state.branches.get? name = some branch →
    ∃ specification, BranchName.decode? name = some specification ∧
      ({ project, specification } ∈ workspaces ↔
        specification.access = .live ∧ specification.stream = stream ∧
          specification.ownership ∈ kinds)
  /-- Every listed workspace is a live one of the stream and of one of the kinds, says who
  its user is exactly when it belongs to a user, and is found. -/
  sound : ∀ workspace ∈ workspaces,
    workspace.project = project ∧ workspace.specification.access = .live ∧
      workspace.specification.stream = stream ∧
      workspace.specification.ownership ∈ kinds ∧
      (workspace.specification.user?.isSome ↔ workspace.specification.ownership = .user) ∧
      get project workspace.specification session = .ok workspace
  /-- Every live workspace of the stream and of one of the kinds that is found is listed, with
  its user filled in. -/
  found : ∀ specification workspace, specification.access = .live →
    specification.stream = stream → specification.ownership ∈ kinds →
    get project specification session = .ok workspace →
      workspace = { project, specification := specification.resolve session.currentUser } ∧
        workspace ∈ workspaces

/-- In a reachable session, all workspaces of a stream that exists can be listed. Each live
workspace of the stream and of one of the wanted kinds is listed once, in the order of the
bytes of the names of their branches, and nothing else is. What is listed is what is found. -/
theorem listAll_agrees {session : Session} (reachable : session.Reachable) {project : String}
    {state : Project} (found : session.store.projects.get? project = some state)
    {stream : DevelopmentStream} {history : List Snapshot}
    (stored : state.streams.get? stream = some history) (kinds : List Ownership) :
    ∃ workspaces, listAll project stream kinds session = .ok workspaces ∧
      Listed session project state stream kinds workspaces := by
  have sound := reachable.sound project state found
  have isList := listFor_eq_ok none kinds found stored (sound.nonempty stream history stored)
  have member {specification : Specification} : (⟨project, specification⟩ : Workspace) ∈
      (state.specifications (isListed stream kinds none)).map (Workspace.mk project) ↔
        specification ∈ state.specifications (isListed stream kinds none) :=
    List.mem_map_of_injective fun _ _ same => (Workspace.mk.inj same).2
  refine ⟨_, isList, ?distinct, ?ascending, ?complete, ?sound, ?found⟩
  case distinct =>
    exact (state.specifications_nodup _).map fun _ _ same => (Workspace.mk.inj same).2
  case ascending =>
    obtain ⟨names, named, ascending⟩ := state.specifications_ascending session.currentUser
      (isListed stream kinds none)
    refine ⟨names, ?_, ascending.imp Text.encodeUtf8_lt⟩
    rw [List.map_map]
    exact named
  case complete =>
    intro name branch isBranch
    obtain ⟨specification, decoded, _⟩ := sound.branches name branch isBranch
    refine ⟨specification, decoded, ?_⟩
    rw [member, Project.mem_specifications_iff, isListed_none_iff]
    constructor
    · rintro ⟨⟨sameStream, live, wanted⟩, _⟩
      exact ⟨live, sameStream, wanted⟩
    · rintro ⟨live, sameStream, wanted⟩
      exact ⟨⟨sameStream, live, wanted⟩, name, branch, isBranch, decoded⟩
  case sound =>
    intro workspace listed
    obtain ⟨specification, kept, rfl⟩ := List.mem_map.1 listed
    obtain ⟨kept, name, branch, isBranch, read⟩ := Project.mem_specifications_iff.1 kept
    obtain ⟨sameStream, live, wanted⟩ := isListed_none_iff.1 kept
    refine ⟨rfl, live, sameStream, wanted, ⟨?_, ?_⟩, get_decoded found isBranch read⟩
    · exact Owner.ownership_of_user?
    · exact BranchName.user?_isSome_of_decode (BranchName.decode?_eq_some_iff.1 read)
  case found =>
    intro specification workspace live sameStream wanted looked
    obtain ⟨_, rfl⟩ := get_eq_ok_iff.1 looked
    refine ⟨rfl, member.2 (Project.mem_specifications_iff.2 ⟨?_, stored_of_get found looked⟩)⟩
    refine isListed_none_iff.2 ⟨sameStream, live, ?_⟩
    rwa [Specification.ownership_resolve]

/-- A session with workspaces of two users, a shared one and its backup. -/
def peopledSession : Session :=
  (Session.start (some "z") 13).after
    [.createProject "p" "g" "a", .createWorkspace "p" sharedWorkspace,
      .createWorkspace "p" (.forUser sharedWorkspace.id),
      .commitToStream "p" .mainLine "theirs" [.put "a::e" "theirs"],
      .updateWorkspace "p" sharedWorkspace, .becomeUser "é",
      .createWorkspace "p" (.forUser sharedWorkspace.id)]

/-- The workspaces of all users and the shared one are listed and found; the backup is not
among them. -/
theorem listAll_agrees_peopled :
    ∃ workspaces, listAll "p" .mainLine Ownership.all peopledSession = .ok workspaces ∧
      workspaces.length = 3 ∧ ∀ workspace ∈ workspaces,
        workspace.specification.access = .live ∧
          get "p" workspace.specification peopledSession = .ok workspace := by
  have reachable : peopledSession.Reachable := (Session.Reachable.start (some "z") 13).after _
  have stored : ((peopledSession.store.projects.get? "p").bind
      (·.streams.get? .mainLine)).isSome := by decide +kernel
  obtain ⟨history, stored⟩ := Option.isSome_iff_exists.1 stored
  obtain ⟨state, found, stored⟩ := Option.bind_eq_some_iff.1 stored
  obtain ⟨workspaces, isList, listed⟩ := listAll_agrees reachable found stored Ownership.all
  refine ⟨workspaces, isList, ?_, fun workspace member => ?_⟩
  · have three : (listAll "p" .mainLine Ownership.all peopledSession).map List.length = .ok 3 := by
      decide +kernel
    rw [isList] at three
    exact Except.ok.inj three
  · obtain ⟨_, live, _, _, _, isFound⟩ := listed.sound workspace member
    exact ⟨live, isFound⟩

end Workspaces

end Workstream
