import Workstream.Proofs.Resource.Call
import Workstream.Proofs.Store.Listing

/-!
# What listings show to whom

A listing for the current user is computed in two ways, depending on whether there is such a
user, and the resources of a patch stream turn a toggle into one of four listings. All of them
are one and the same listing, that of all workspaces of the stream, from which some entries are
left out: `Specification.isShownTo` says which workspaces the current user is shown, and a
resource that does not show everything keeps one kind of these.
-/

namespace Workstream

/-- The workspace is shared, or there is a viewer and it is theirs. -/
def Specification.isShownTo (viewer : Option String) (specification : Specification) : Bool :=
  match specification.owner with
  | .group => true
  | .user owner => viewer.isSome && owner = viewer

namespace Workspaces

section

variable {session : Session} {project : String} {stream : DevelopmentStream}
  {kinds wider : List Ownership} {viewer other : Option String}
  {specification : Specification} {workspaces : List Workspace}

/-- A listing that shows less than another one leaves entries of it out, and is refused when the
other one is. -/
theorem listFor_of_narrower {keeps : Specification → Bool}
    (narrower : ∀ specification, isListed stream kinds viewer specification =
      (isListed stream wider other specification && keeps specification)) :
    listFor viewer project stream kinds session =
      (listFor other project stream wider session).map
        (List.filter fun workspace => keeps workspace.specification) := by
  have parts (state : Project) : state.specifications (isListed stream kinds viewer) =
      (state.specifications (isListed stream wider other)).filter keeps := by
    rw [Project.specifications, Project.specifications, List.filter_filter]
    exact List.filter_congr fun specification _ => by rw [narrower, Bool.and_comm]
  simp only [listFor_eq, parts]
  cases session.store.project project with
  | error failure => rfl
  | ok state =>
    simp only [ok_bind]
    cases state.history project stream with
    | error failure => rfl
    | ok history => simp [List.filter_map, Function.comp_def]

/-- With a current user, their own workspaces are kept and the shared ones. -/
theorem isListed_some (user : String) (specification : Specification) :
    isListed stream kinds (some user) specification =
      (isListed stream kinds none specification && specification.isShownTo (some user)) := by
  unfold isListed visibleTo Specification.isShownTo
  cases specification.owner <;> simp

/-- Without a current user, only the shared workspaces are kept. -/
theorem isListed_filter_group (specification : Specification) :
    isListed stream (kinds.filter (· = .group)) none specification =
      (isListed stream kinds none specification && specification.isShownTo none) := by
  unfold isListed visibleTo Specification.isShownTo Specification.ownership
  cases specification.owner <;> simp [Owner.ownership]

/-- The listing for the current user is the one of all workspaces without those that the user
is not shown. -/
theorem list_eq (project : String) (stream : DevelopmentStream) (kinds : List Ownership)
    (session : Session) : list project stream kinds session =
      (listAll project stream kinds session).map (List.filter fun workspace =>
        workspace.specification.isShownTo session.currentUser) := by
  unfold list listAll
  cases session.currentUser with
  | some user => exact listFor_of_narrower (isListed_some user)
  | none => exact listFor_of_narrower isListed_filter_group

/-- A listing of one kind of workspaces keeps that kind. -/
theorem isListed_single (kind : Ownership) (specification : Specification) :
    isListed stream [kind] viewer specification =
      (isListed stream Ownership.all viewer specification &&
        decide (specification.ownership = kind)) := by
  unfold isListed
  cases specification.ownership <;> cases kind <;> simp [Ownership.all]

/-- The listing of one kind of workspaces is that part of the listing of both kinds. -/
theorem list_single (project : String) (stream : DevelopmentStream) (kind : Ownership)
    (session : Session) : list project stream [kind] session =
      (list project stream Ownership.all session).map (List.filter fun workspace =>
        workspace.specification.ownership = kind) := by
  have all : listAll project stream [kind] session =
      (listAll project stream Ownership.all session).map (List.filter fun workspace =>
        workspace.specification.ownership = kind) :=
    listFor_of_narrower (isListed_single kind)
  rw [list_eq, list_eq, all]
  cases listAll project stream Ownership.all session with
  | error failure => rfl
  | ok workspaces => exact congrArg Except.ok (List.filter_comm ..)

/-- The workspaces are the live ones of a stream, all of them. -/
structure AreLive (session : Session) (project : String) (stream : DevelopmentStream)
    (workspaces : List Workspace) : Prop where
  /-- Every branch of the project belongs to a workspace, which is among them when it is a live
  one of the stream, and only then. -/
  complete : ∀ state name branch, session.store.projects.get? project = some state →
    state.branches.get? name = some branch →
      ∃ specification, BranchName.decode? name = some specification ∧
        ({ project, specification } ∈ workspaces ↔
          specification.access = .live ∧ specification.stream = stream)
  /-- All of them are live workspaces of the stream, and are found. -/
  sound : ∀ workspace ∈ workspaces, workspace.project = project ∧
    workspace.specification.access = .live ∧ workspace.specification.stream = stream ∧
      get project workspace.specification session = .ok workspace

/-- The listing of both kinds of workspaces shows every live one of the stream. -/
theorem areLive_of_listAll (reachable : session.Reachable)
    (listed : listAll project stream Ownership.all session = .ok workspaces) :
    AreLive session project stream workspaces := by
  rw [listAll, listFor_eq] at listed
  obtain ⟨state, found, listed⟩ := bind_eq_ok_iff.1 listed
  obtain ⟨_, _, listed⟩ := bind_eq_ok_iff.1 listed
  obtain rfl := Except.ok.inj listed
  have found := Store.project_eq_ok_iff.1 found
  have kept (specification : Specification) :
      isListed stream Ownership.all none specification = true ↔
        specification.access = .live ∧ specification.stream = stream := by
    rw [isListed_none_iff, and_comm, and_right_comm]
    cases specification.ownership <;> simp [Ownership.all]
  constructor
  case complete =>
    intro other name branch isOther stored
    obtain rfl : state = other := Option.some.inj (found.symm.trans isOther)
    obtain ⟨specification, read, _⟩ :=
      (reachable.sound project state found).branches name branch stored
    refine ⟨specification, read, ?_⟩
    rw [List.mem_map_of_injective fun _ _ same => (Workspace.mk.inj same).2,
      Project.mem_specifications_iff, kept, and_iff_left ⟨name, branch, stored, read⟩]
  case sound =>
    intro workspace listed
    obtain ⟨specification, isKept, rfl⟩ := List.mem_map.1 listed
    obtain ⟨isKept, name, branch, stored, read⟩ := Project.mem_specifications_iff.1 isKept
    obtain ⟨live, sameStream⟩ := (kept specification).1 isKept
    exact ⟨rfl, live, sameStream, get_decoded found stored read⟩

end

end Workspaces

/-- What a resource answers when it is asked to list the workspaces of the patch stream of a
version. -/
def Session.patchListing (session : Session) (ownership : Ownership) (project : String)
    (version : Version) (widen : Bool) : Except Failure Answer :=
  (((PatchCall.list widen).perform ownership project (some version.text)).run session).result

/-- A listing by a resource is the listing that its kind and the toggle stand for. -/
theorem Session.patchListing_eq (session : Session) (ownership : Ownership) (project : String)
    (version : Version) (widen : Bool) : session.patchListing ownership project version widen =
      ((PatchCall.listing project version ownership widen).2.perform.run session).result := by
  have meant : (PatchCall.list widen).interpret ownership project (some version.text) =
      .ok (PatchCall.listing project version ownership widen) := by
    refine bind_eq_ok_iff.2 ⟨version.text, rfl, bind_eq_ok_iff.2 ⟨version, ?_, rfl⟩⟩
    rw [Version.parse_eq_ok_iff.2 rfl]
    rfl
  exact (PatchCall.run_perform meant session).1

section

variable {session : Session} {project : String} {version : Version}

/-- A resource that shows everything lists all workspaces of the stream. -/
theorem Session.patchListing_all {ownership : Ownership} {widen : Bool}
    (everything : widen = decide (ownership = .group)) :
    session.patchListing ownership project version widen =
      (Workspaces.listAll project (.patch version) Ownership.all session).map .workspaces := by
  rw [patchListing_eq, everything]
  cases ownership <;> exact congrArg Outcome.result (Action.run_map_read _ _ _)

/-- A resource that does not show everything lists the workspaces of its kind that the current
user is shown. -/
theorem Session.patchListing_own {ownership : Ownership} {widen : Bool}
    (own : widen = decide (ownership = .user)) :
    session.patchListing ownership project version widen =
      (Workspaces.list project (.patch version) Ownership.all session).map fun workspaces =>
        .workspaces (workspaces.filter fun workspace =>
          workspace.specification.ownership = ownership) := by
  have single : session.patchListing ownership project version widen =
      (Workspaces.list project (.patch version) [ownership] session).map .workspaces := by
    rw [patchListing_eq, own]
    cases ownership <;> exact congrArg Outcome.result (Action.run_map_read _ _ _)
  rw [single, Workspaces.list_single]
  cases Workspaces.list project (.patch version) Ownership.all session <;> rfl

/-- A user that a listed workspace belongs to is the current user, when the resource does not
show everything. -/
theorem Session.owner_of_patchListing {ownership : Ownership} {widen : Bool}
    (own : widen = decide (ownership = .user)) {workspaces : List Workspace}
    (listed : session.patchListing ownership project version widen = .ok (.workspaces workspaces))
    {workspace : Workspace} (member : workspace ∈ workspaces) {pinned : Option String}
    (isOwner : workspace.specification.owner = .user pinned) :
    pinned.isSome ∧ pinned = session.currentUser := by
  rw [patchListing_own own, Workspaces.list_eq] at listed
  obtain ⟨shown, isShown, answered⟩ := map_eq_ok_iff.1 listed
  obtain ⟨everything, _, rfl⟩ := map_eq_ok_iff.1 isShown
  obtain rfl := Answer.workspaces.inj answered
  obtain ⟨member, _⟩ := List.mem_filter.1 member
  obtain ⟨_, shown⟩ := List.mem_filter.1 member
  have shown : session.currentUser.isSome = true ∧ pinned = session.currentUser := by
    simpa [Specification.isShownTo, isOwner] using shown
  exact ⟨shown.2 ▸ shown.1, shown.2⟩

end

/-- The listing for the current user shows, in the same order, those entries of the listing of
all workspaces that are shared or belong to the current user, and is refused when that one is.
Of the resources of a patch stream, the one for users shows every live workspace of the stream
when it is not narrowed, and so does the one for shared workspaces when it is widened. Otherwise
they show the part of their own kind of what the current user is shown, and no workspace of
another user. -/
theorem listings_respect_owners {session : Session} (reachable : session.Reachable)
    (project : String) :
    (∀ stream kinds, Workspaces.list project stream kinds session =
      (Workspaces.listAll project stream kinds session).map (List.filter fun workspace =>
        workspace.specification.isShownTo session.currentUser)) ∧
    ∀ version,
      (session.patchListing .user project version false =
          (Workspaces.listAll project (.patch version) Ownership.all session).map .workspaces ∧
        session.patchListing .group project version true =
          (Workspaces.listAll project (.patch version) Ownership.all session).map .workspaces ∧
        ∀ workspaces, session.patchListing .user project version false =
            .ok (.workspaces workspaces) →
          Workspaces.AreLive session project (.patch version) workspaces) ∧
      (session.patchListing .user project version true =
          (Workspaces.list project (.patch version) Ownership.all session).map fun workspaces =>
            .workspaces (workspaces.filter fun workspace =>
              workspace.specification.ownership = .user)) ∧
      (session.patchListing .group project version false =
          (Workspaces.list project (.patch version) Ownership.all session).map fun workspaces =>
            .workspaces (workspaces.filter fun workspace =>
              workspace.specification.ownership = .group)) ∧
      ∀ workspaces, (session.patchListing .user project version true =
            .ok (.workspaces workspaces) ∨
          session.patchListing .group project version false = .ok (.workspaces workspaces)) →
        ∀ workspace ∈ workspaces, ∀ pinned, workspace.specification.owner = .user pinned →
          pinned.isSome ∧ pinned = session.currentUser := by
  refine ⟨fun stream kinds => Workspaces.list_eq project stream kinds session, fun version => ?_⟩
  refine ⟨⟨Session.patchListing_all rfl, Session.patchListing_all rfl, ?_⟩,
    Session.patchListing_own rfl, Session.patchListing_own rfl, ?_⟩
  · intro workspaces listed
    obtain ⟨found, all, answered⟩ :=
      map_eq_ok_iff.1 ((Session.patchListing_all rfl).symm.trans listed)
    obtain rfl := Answer.workspaces.inj answered
    exact Workspaces.areLive_of_listAll reachable all
  · rintro workspaces (listed | listed) workspace member pinned isOwner
    · exact Session.owner_of_patchListing rfl listed member isOwner
    · exact Session.owner_of_patchListing rfl listed member isOwner

/-- The version of a patch stream that several users work on. -/
def crowdedVersion : Version := ⟨⟨3, by decide⟩, ⟨5, by decide⟩, ⟨7, by decide⟩⟩

/-- A session with workspaces of two users on a patch stream and a shared one. -/
def crowdedSession : Session :=
  (Session.start (some "ann") 13).after
    [.createProject "p" "g" "a", .releaseVersion "p" crowdedVersion,
      .openPatch "p" crowdedVersion,
      .createWorkspace "p" (.forPatchUser Workspaces.sharedWorkspace.id crowdedVersion),
      .createWorkspace "p" (.forPatchGroup Workspaces.sharedWorkspace.id crowdedVersion),
      .becomeUser "bob",
      .createWorkspace "p" (.forPatchUser Workspaces.sharedWorkspace.id crowdedVersion)]

/-- There are three workspaces, of which the current user is shown one as their own. -/
theorem listings_respect_owners_crowded :
    ∃ all own,
      crowdedSession.patchListing .user "p" crowdedVersion false = .ok (.workspaces all) ∧
      all.length = 3 ∧
      Workspaces.AreLive crowdedSession "p" (.patch crowdedVersion) all ∧
      crowdedSession.patchListing .user "p" crowdedVersion true = .ok (.workspaces own) ∧
      own.length = 1 ∧
      ∀ workspace ∈ own, ∀ pinned, workspace.specification.owner = .user pinned →
        pinned = some "bob" := by
  have reachable : crowdedSession.Reachable := (Session.Reachable.start (some "ann") 13).after _
  obtain ⟨_, listings⟩ := listings_respect_owners reachable "p"
  obtain ⟨⟨everything, _, areLive⟩, owned, _, respected⟩ := listings crowdedVersion
  have three : (Workspaces.listAll "p" (.patch crowdedVersion) Ownership.all
      crowdedSession).map List.length = .ok 3 := by decide +kernel
  have single : (Workspaces.list "p" (.patch crowdedVersion) Ownership.all crowdedSession).map
      (fun workspaces => (workspaces.filter fun workspace =>
        workspace.specification.ownership = .user).length) = .ok 1 := by decide +kernel
  obtain ⟨workspaces, all, three⟩ := map_eq_ok_iff.1 three
  obtain ⟨visible, shown, single⟩ := map_eq_ok_iff.1 single
  rw [all] at everything
  rw [shown] at owned
  refine ⟨workspaces, _, everything, three, areLive _ everything, owned, single, ?_⟩
  exact fun workspace member pinned isOwner =>
    (respected _ (.inl owned) workspace member pinned isOwner).2

end Workstream
