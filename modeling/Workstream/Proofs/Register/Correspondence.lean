import Workstream.Proofs.Register.Reference
import Workstream.Proofs.Store.Isolation

/-!
# A register and a session with the same branches

A register mirrors a session when the two hold the same besides branches, and of every project
the same branches: each branch that the session stores under a name is filed in the register
under the specification that the name is read as, and no other branch is filed. Since a name is
read as one specification and a specification has one name, this is kept when a branch is put or
dropped on both sides.
-/

namespace Workstream

/-- The branches that are filed under specifications are those that are stored under names. -/
structure Files (shelf : SortedMap Specification Branch) (branches : SortedMap String Branch) :
    Prop where
  same : ∀ name specification, BranchName.decode? name = some specification →
    shelf.get? specification = branches.get? name
  read : ∀ name branch, branches.get? name = some branch →
    ∃ specification, BranchName.decode? name = some specification
  named : ∀ specification branch, shelf.get? specification = some branch →
    ∃ name, BranchName.decode? name = some specification

namespace Files

variable {shelf : SortedMap Specification Branch} {branches : SortedMap String Branch}
  {name : String} {specification : Specification}

/-- Nothing is filed when nothing is stored. -/
theorem empty : Files ∅ ∅ where
  same _ _ _ := rfl
  read _ _ stored := nomatch stored
  named _ _ filed := nomatch filed

/-- What is filed and what is stored may change alike under a specification and its name. -/
theorem change (files : Files shelf branches)
    (read : BranchName.decode? name = some specification)
    {changedShelf : SortedMap Specification Branch} {changedBranches : SortedMap String Branch}
    (here : changedShelf.get? specification = changedBranches.get? name)
    (elsewhere : ∀ other, other ≠ specification → changedShelf.get? other = shelf.get? other)
    (otherwise : ∀ other, other ≠ name → changedBranches.get? other = branches.get? other) :
    Files changedShelf changedBranches where
  same other otherSpecification otherRead := by
    by_cases equal : other = name
    · subst equal
      obtain rfl := Option.some.inj (read.symm.trans otherRead)
      exact here
    · have differs : otherSpecification ≠ specification := by
        rintro rfl
        exact equal (BranchName.decode?_inj otherRead read)
      rw [elsewhere _ differs, otherwise _ equal]
      exact files.same other otherSpecification otherRead
  read other branch stored := by
    by_cases equal : other = name
    · exact ⟨specification, equal ▸ read⟩
    · exact files.read other branch (otherwise other equal ▸ stored)
  named other branch filed := by
    by_cases equal : other = specification
    · exact ⟨name, equal ▸ read⟩
    · exact files.named other branch (elsewhere other equal ▸ filed)

/-- Putting a branch under its name and under its specification is the same. -/
theorem put (files : Files shelf branches) (read : BranchName.decode? name = some specification)
    (branch : Branch) :
    Files (shelf.insert specification branch) (branches.insert name branch) :=
  files.change read (by rw [SortedMap.get?_insert_self, SortedMap.get?_insert_self])
    (fun _ => SortedMap.get?_insert_of_ne _ _) fun _ => SortedMap.get?_insert_of_ne _ _

/-- Dropping a branch under its name and under its specification is the same. -/
theorem drop (files : Files shelf branches)
    (read : BranchName.decode? name = some specification) :
    Files (shelf.erase specification) (branches.erase name) :=
  files.change read (by rw [SortedMap.get?_erase_self, SortedMap.get?_erase_self])
    (fun _ => SortedMap.get?_erase_of_ne _) fun _ => SortedMap.get?_erase_of_ne _

/-- A branch is there on both sides or on neither. -/
theorem contains_eq (files : Files shelf branches)
    (read : BranchName.decode? name = some specification) :
    shelf.contains specification = branches.contains name := by
  simp only [SortedMap.contains, files.same name specification read]

end Files

/-- The project without its branches. -/
def Project.bare (project : Project) : Project := { project with branches := ∅ }

namespace Session

/-- The session without the branches of its projects. -/
def bare (session : Session) : Session :=
  { session with
    store := { session.store with
      projects := session.store.projects.filterMap fun _ project => some project.bare } }

/-- The branches of a project. There are none in a project that does not exist. -/
def branchesOf (session : Session) (project : String) : SortedMap String Branch :=
  ((session.store.projects.get? project).map (·.branches)).getD ∅

variable (session : Session) (name : String) (state : Project)

/-- A project is there without its branches. -/
theorem get?_bare : session.bare.store.projects.get? name =
    (session.store.projects.get? name).map Project.bare := by
  rw [bare, SortedMap.get?_filterMap]
  cases session.store.projects.get? name <;> rfl

/-- A project is found without its branches when it is found with them. -/
theorem project_bare :
    Corresponds (fun bare state => bare = state.bare ∧
        session.store.projects.get? name = some state)
      (session.bare.store.project name) (session.store.project name) := by
  unfold Store.project
  rw [get?_bare]
  cases session.store.projects.get? name with
  | none => exact .missing _
  | some state => exact .present ⟨rfl, rfl⟩

/-- Leaving out the branches before or after a project is set is the same. -/
theorem bare_setProject :
    (session.setProject name state).bare = session.bare.setProject name state.bare := by
  have projects : (session.setProject name state).bare.store.projects =
      (session.bare.setProject name state.bare).store.projects := by
    apply SortedMap.ext
    intro wanted
    rw [get?_bare, projects_setProject, projects_setProject]
    by_cases same : wanted = name
    · subst same
      simp
    · rw [SortedMap.get?_insert_of_ne _ _ same, SortedMap.get?_insert_of_ne _ _ same, get?_bare]
  exact Session.eq_of_store_eq rfl rfl (congrArg (Store.mk · session.store.sequence) projects)

theorem branchesOf_setProject (other : String) :
    (session.setProject name state).branchesOf other =
      if other = name then state.branches else session.branchesOf other := by
  by_cases same : other = name
  · subst same
    simp [branchesOf]
  · simp [branchesOf, SortedMap.get?_insert_of_ne _ _ same, same]

variable {session name state}

/-- The branches of a project that is found. -/
theorem branchesOf_of_found (found : session.store.projects.get? name = some state) :
    session.branchesOf name = state.branches := by
  simp [branchesOf, found]

/-- Setting anything but branches does not change branches. -/
theorem branchesOf_setProject_of_found (found : session.store.projects.get? name = some state)
    {changed : Project} (same : changed.branches = state.branches) (other : String) :
    (session.setProject name changed).branchesOf other = session.branchesOf other := by
  rw [branchesOf_setProject]
  split
  · rename_i equal
    rw [equal, branchesOf_of_found found, same]
  · rfl

/-- Setting other branches does not change what there is besides. -/
theorem bare_setProject_of_found (found : session.store.projects.get? name = some state)
    {changed : Project} (same : changed.bare = state.bare) :
    (session.setProject name changed).bare = session.bare := by
  rw [bare_setProject, same, setProject_self]
  rw [get?_bare, found]
  rfl

end Session

/-- A register and a session hold the same. -/
structure Register.Mirrors (register : Register) (session : Session) : Prop where
  ledger : register.ledger = session.bare
  shelves : ∀ project, Files (register.shelf project) (session.branchesOf project)

namespace Register

/-- The shelf of a project that was set. -/
theorem shelf_setShelf (register : Register) (project other : String)
    (shelf : SortedMap Specification Branch) :
    (register.setShelf project shelf).shelf other =
      if other = project then shelf else register.shelf other := by
  by_cases same : other = project
  · subst same
    simp [Register.shelf, setShelf]
  · simp [Register.shelf, setShelf, SortedMap.get?_insert_of_ne _ _ same, same]

/-- The user is filled in for the workspaces that have names, and for no others. -/
theorem resolve_eq (register : Register) (specification : Specification) :
    register.resolve specification =
      match BranchName.encode register.ledger.currentUser specification with
      | .ok _ => .ok (specification.resolve register.ledger.currentUser)
      | .error cause => .error (.unnamed cause) := by
  obtain ⟨id, owner, access, stream⟩ := specification
  cases owner with
  | group => rfl
  | user pinned =>
    cases chosen : BranchName.resolveUser register.ledger.currentUser id pinned with
    | error cause =>
      simp [resolve, BranchName.encode, BranchName.segments, chosen]
    | ok user =>
      have named := (BranchName.resolveUser_eq_ok_iff.1 chosen).1
      simp [resolve, BranchName.encode, BranchName.segments, chosen, Specification.resolve,
        Owner.resolve, named, Specification.withUser, Owner.pin]

namespace Mirrors

variable {register : Register} {session : Session} {project name : String} {state : Project}
  {specification : Specification}

/-- An empty register mirrors an empty session. -/
theorem start (currentUser : Option String) (structureVersion : Nat) :
    (Register.start currentUser structureVersion).Mirrors
      (Session.start currentUser structureVersion) where
  ledger := rfl
  shelves _ := .empty

/-- When other branches of a project are filed and stored, and these are the same, the register
still mirrors the session. -/
theorem setShelf (mirrors : register.Mirrors session)
    (found : session.store.projects.get? project = some state) (changed : Project)
    (same : changed.bare = state.bare) {shelf : SortedMap Specification Branch}
    (files : Files shelf changed.branches) :
    (register.setShelf project shelf).Mirrors (session.setProject project changed) where
  ledger := by
    rw [Session.bare_setProject_of_found found same]
    exact mirrors.ledger
  shelves other := by
    rw [shelf_setShelf, Session.branchesOf_setProject]
    split
    · exact files
    · exact mirrors.shelves other

/-- The branches of a project that is found are filed. -/
theorem files (mirrors : register.Mirrors session)
    (found : session.store.projects.get? project = some state) :
    Files (register.shelf project) state.branches := by
  rw [← Session.branchesOf_of_found found]
  exact mirrors.shelves project

/-- A branch is put on both sides. -/
theorem put (mirrors : register.Mirrors session)
    (found : session.store.projects.get? project = some state)
    (read : BranchName.decode? name = some specification) (branch : Branch) :
    (register.put project specification branch).Mirrors
      (session.setProject project (state.putBranch name branch)) :=
  mirrors.setShelf found (state.putBranch name branch) rfl ((mirrors.files found).put read branch)

/-- A branch is dropped on both sides. -/
theorem drop (mirrors : register.Mirrors session)
    (found : session.store.projects.get? project = some state)
    (read : BranchName.decode? name = some specification) :
    (register.drop project specification).Mirrors
      (session.setProject project (state.dropBranch name)) :=
  mirrors.setShelf found (state.dropBranch name) rfl ((mirrors.files found).drop read)

/-- Another branch is put in a project that was set. -/
theorem put_set (mirrors : register.Mirrors (session.setProject project state))
    (read : BranchName.decode? name = some specification) (branch : Branch) :
    (register.put project specification branch).Mirrors
      (session.setProject project (state.putBranch name branch)) := by
  rw [← session.setProject_setProject project state]
  exact mirrors.put (SortedMap.get?_insert_self ..) read branch

/-- Another branch is dropped from a project that was set. -/
theorem drop_set (mirrors : register.Mirrors (session.setProject project state))
    (read : BranchName.decode? name = some specification) :
    (register.drop project specification).Mirrors
      (session.setProject project (state.dropBranch name)) := by
  rw [← session.setProject_setProject project state]
  exact mirrors.drop (SortedMap.get?_insert_self ..) read

/-- Something besides branches is changed on both sides. -/
theorem setLedger (mirrors : register.Mirrors session)
    (found : session.store.projects.get? project = some state) (changed : Project)
    (same : changed.branches = state.branches) :
    ({ register with ledger := register.ledger.setProject project changed.bare } :
      Register).Mirrors (session.setProject project changed) where
  ledger := by rw [mirrors.ledger, Session.bare_setProject]
  shelves other := by
    rw [Session.branchesOf_setProject_of_found found same]
    exact mirrors.shelves other

/-- A commit is counted on both sides. -/
theorem advance (mirrors : register.Mirrors session) :
    register.advance.Mirrors session.advance where
  ledger := congrArg Session.advance mirrors.ledger
  shelves := mirrors.shelves

/-- The next revision is the same. -/
theorem minted_eq (mirrors : register.Mirrors session) (parent : Option Snapshot)
    (message : String) (contents : Contents) :
    register.ledger.minted parent message contents = session.minted parent message contents := by
  rw [mirrors.ledger]
  rfl

/-- The current user is the same. -/
theorem currentUser_eq (mirrors : register.Mirrors session) :
    register.ledger.currentUser = session.currentUser := by
  rw [mirrors.ledger]
  rfl

/-- A project is found on both sides or on neither. -/
theorem projects (mirrors : register.Mirrors session) (name : String) :
    Corresponds (fun bare state => bare = state.bare ∧
        session.store.projects.get? name = some state)
      (register.project name) (session.store.project name) := by
  rw [Register.project, mirrors.ledger]
  exact session.project_bare name

/-- A workspace is located on both sides or on neither, and it is the same one. -/
theorem locate (mirrors : register.Mirrors session) (specification : Specification) :
    Corresponds (fun resolved located =>
        BranchName.encode session.currentUser specification = .ok located.1 ∧
          located.2 = resolved ∧ resolved = specification.resolve session.currentUser)
      (register.resolve specification) (session.locate specification) := by
  rw [resolve_eq, mirrors.currentUser_eq, Session.locate]
  cases written : BranchName.encode session.currentUser specification with
  | error cause => exact .missing _
  | ok name =>
    simp only [BranchName.decode_encode written]
    exact .present ⟨rfl, rfl, rfl⟩

end Mirrors

end Register

end Workstream
