import Workstream.Proofs.Store.Atomicity

/-!
# What a request for a workspace depends on

A request for a workspace looks at the current user, at the branches of the workspace and at
the history of its stream, and it takes the next number when it commits something. In two
sessions that are alike in all of this it fares alike: it fails for the same reason, or it
succeeds, and then the sessions are still alike afterwards.

`Action.Coupled` relates the runs of two actions. Its rules follow the shape of the
operations, as those of `Action.Meets` do for a single run.
-/

namespace Workstream

/-- Two results that may be missing correspond: either both of them are missing, for one
reason, or both are there and related. -/
inductive Corresponds {First Second : Type} (related : First → Second → Prop) :
    Except Failure First → Except Failure Second → Prop where
  | missing (failure : Failure) : Corresponds related (.error failure) (.error failure)
  | present {first : First} {second : Second} (isRelated : related first second) :
      Corresponds related (.ok first) (.ok second)

namespace Corresponds

variable {First Second Next Last : Type} {related : First → Second → Prop}
  {relatedNext : Next → Last → Prop}

/-- Equal results correspond. -/
theorem of_eq {first second : Except Failure First} (same : first = second) :
    Corresponds Eq first second := by
  subst same
  cases first with
  | error failure => exact .missing failure
  | ok result => exact .present rfl

/-- Results that depend on corresponding ones in a corresponding way correspond. -/
theorem bind {first : Except Failure First} {second : Except Failure Second}
    {next : First → Except Failure Next} {last : Second → Except Failure Last}
    (corresponds : Corresponds related first second)
    (continues : ∀ result other, related result other →
      Corresponds relatedNext (next result) (last other)) :
    Corresponds relatedNext (first >>= next) (second >>= last) := by
  cases corresponds with
  | missing failure => exact .missing failure
  | present isRelated => exact continues _ _ isRelated

/-- Results that depend on corresponding ones in the same way are equal. -/
theorem bind_eq {first : Except Failure First} {second : Except Failure Second}
    {next : First → Except Failure Next} {last : Second → Except Failure Next}
    (corresponds : Corresponds related first second)
    (continues : ∀ result other, related result other → next result = last other) :
    (first >>= next) = (second >>= last) := by
  cases corresponds with
  | missing failure => rfl
  | present isRelated => exact continues _ _ isRelated

/-- Corresponding results are related in every weaker way too. -/
theorem imp {weaker : First → Second → Prop} {first : Except Failure First}
    {second : Except Failure Second} (corresponds : Corresponds related first second)
    (implies : ∀ result other, related result other → weaker result other) :
    Corresponds weaker first second := by
  cases corresponds with
  | missing failure => exact .missing failure
  | present isRelated => exact .present (implies _ _ isRelated)

end Corresponds

namespace Action

variable {Result Other Next : Type}

/-- Of the runs of two actions either both fail for one reason and change nothing, or both
succeed, and then the postcondition relates what they give. -/
inductive Coupled (first second : Action Result) (session other : Session)
    (post : Result → Session → Result → Session → Prop) : Prop where
  | fail {failure : Failure} (fails : first.Fails session failure)
      (otherFails : second.Fails other failure) : Coupled first second session other post
  | succeed {result otherResult : Result} {after otherAfter : Session}
      (gives : first.Gives session result after)
      (otherGives : second.Gives other otherResult otherAfter)
      (isRelated : post result after otherResult otherAfter) :
      Coupled first second session other post

namespace Coupled

variable {session other : Session} {post : Next → Session → Next → Session → Prop}
  {related : Result → Other → Prop}

/-- Runs are coupled when they are coupled after a part that changes nothing. -/
theorem bind {first : Action Result} {second : Action Other} {result : Result}
    {otherResult : Other} {rest : Result → Action Next} {otherRest : Other → Action Next}
    (gives : first.Gives session result session)
    (otherGives : second.Gives other otherResult other)
    (coupled : (rest result).Coupled (otherRest otherResult) session other post) :
    (first >>= rest).Coupled (second >>= otherRest) session other post := by
  cases coupled with
  | fail fails otherFails => exact .fail (fails.bind gives) (otherFails.bind otherGives)
  | succeed restGives otherRestGives isRelated =>
    exact .succeed (gives.bind restGives) (otherGives.bind otherRestGives) isRelated

/-- Corresponding results can be looked up before anything else is done. -/
theorem read {query : Session → Except Failure Result}
    {otherQuery : Session → Except Failure Other} {rest : Result → Action Next}
    {otherRest : Other → Action Next}
    (corresponds : Corresponds related (query session) (otherQuery other))
    (continues : ∀ result otherResult, query session = .ok result →
      otherQuery other = .ok otherResult → related result otherResult →
        (rest result).Coupled (otherRest otherResult) session other post) :
    (Action.read query >>= rest).Coupled (Action.read otherQuery >>= otherRest) session other
      post := by
  generalize value : query session = looked, otherValue : otherQuery other = otherLooked
    at corresponds
  cases corresponds with
  | missing failure => exact .fail (Fails.read value rest) (Fails.read otherValue otherRest)
  | present isRelated =>
    exact bind (Gives.read value) (Gives.read otherValue)
      (continues _ _ value otherValue isRelated)

/-- A value that may be missing on both sides can be taken before anything else is done. -/
theorem ofExcept {value otherValue : Except Failure Result} {rest otherRest : Result → Action Next}
    (same : value = otherValue)
    (continues : ∀ result, value = .ok result →
      (rest result).Coupled (otherRest result) session other post) :
    (Action.ofExcept value >>= rest).Coupled (Action.ofExcept otherValue >>= otherRest) session
      other post := by
  subst same
  cases isValue : value with
  | error failure => exact .fail (Fails.ofExcept rfl rest) (Fails.ofExcept rfl otherRest)
  | ok result =>
    exact bind (Gives.ofExcept rfl session) (Gives.ofExcept rfl other) (continues result isValue)

/-- A condition that is the same on both sides can be checked before anything else is done. -/
theorem refuseIf {condition otherCondition : Bool} {failure : Failure}
    {rest otherRest : Unit → Action Next} (same : condition = otherCondition)
    (continues : condition = false → (rest ()).Coupled (otherRest ()) session other post) :
    (Action.refuseIf condition failure >>= rest).Coupled
      (Action.refuseIf otherCondition failure >>= otherRest) session other post := by
  subst same
  cases condition with
  | true => exact .fail ⟨rfl, rfl⟩ ⟨rfl, rfl⟩
  | false =>
    exact bind (Gives.refuseIf rfl failure session) (Gives.refuseIf rfl failure other)
      (continues rfl)

/-- The results of both actions can be put into another form. -/
theorem map {first second : Action Result} {transform : Result → Next}
    {given : Result → Session → Result → Session → Prop}
    (coupled : first.Coupled second session other given)
    (implies : ∀ result after otherResult otherAfter, given result after otherResult otherAfter →
      post (transform result) after (transform otherResult) otherAfter) :
    (transform <$> first).Coupled (transform <$> second) session other post := by
  cases coupled with
  | fail fails otherFails => exact .fail (fails.map transform) (otherFails.map transform)
  | succeed gives otherGives isRelated =>
    exact .succeed (gives.map transform) (otherGives.map transform)
      (implies _ _ _ _ isRelated)

end Coupled

end Action

/-- Two states of a project are alike for a workspace. -/
structure Project.AlikeFor (currentUser : Option String) (specification : Specification)
    (first second : Project) : Prop where
  history : first.streams.get? specification.stream = second.streams.get? specification.stream
  branches : ∀ access name,
    BranchName.encode currentUser (specification.withAccess access) = .ok name →
      first.branches.get? name = second.branches.get? name

/-- Two sessions are alike for a workspace. -/
structure Session.AlikeFor (project : String) (specification : Specification)
    (first second : Session) : Prop where
  user : first.currentUser = second.currentUser
  states : Corresponds (Project.AlikeFor first.currentUser specification)
    (first.store.project project) (second.store.project project)

namespace Project.AlikeFor

variable {currentUser : Option String} {specification : Specification}
  {first second : Project}

/-- The stream has one head. -/
theorem head (alike : AlikeFor currentUser specification first second) (name : String) :
    first.head name specification.stream = second.head name specification.stream := by
  simp only [Project.head, Project.history, history?, alike.history]

/-- A branch of the workspace is found in both or in none. -/
theorem contains (alike : AlikeFor currentUser specification first second) {access : Access}
    {name : String}
    (named : BranchName.encode currentUser (specification.withAccess access) = .ok name) :
    first.branches.contains name = second.branches.contains name := by
  simp only [SortedMap.contains, alike.branches access name named]

/-- A branch of the workspace is the same in both. -/
theorem branch (alike : AlikeFor currentUser specification first second) {access : Access}
    {name : String}
    (named : BranchName.encode currentUser (specification.withAccess access) = .ok name)
    (resolved : Specification) : first.branch name resolved = second.branch name resolved := by
  simp only [Project.branch, alike.branches access name named]

/-- The states stay alike when one branch is put in both. -/
theorem putBranch (alike : AlikeFor currentUser specification first second) (name : String)
    (branch : Branch) : AlikeFor currentUser specification (first.putBranch name branch)
      (second.putBranch name branch) where
  history := alike.history
  branches access other named := by
    simp only [Project.branches_putBranch, SortedMap.get?_insert, alike.branches access other named]

/-- The states stay alike when a branch is dropped in both. -/
theorem dropBranch (alike : AlikeFor currentUser specification first second) (name : String) :
    AlikeFor currentUser specification (first.dropBranch name) (second.dropBranch name) where
  history := alike.history
  branches access other named := by
    simp only [Project.branches_dropBranch, SortedMap.get?_erase, alike.branches access other named]

end Project.AlikeFor

/-- The same workspace was found in two sessions. -/
structure Workspaces.Found.Alike (currentUser : Option String) (specification : Specification)
    (first second : Found) : Prop where
  name : first.name = second.name
  resolved : first.specification = second.specification
  branch : first.branch = second.branch
  states : Project.AlikeFor currentUser specification first.project second.project

namespace Session.AlikeFor

variable {project : String} {specification : Specification} {session other : Session}

/-- Workspaces are located in the same way. -/
theorem locate (alike : session.AlikeFor project specification other)
    (wanted : Specification) : session.locate wanted = other.locate wanted := by
  simp only [Session.locate, alike.user]

/-- The author is the same. -/
theorem author (alike : session.AlikeFor project specification other) :
    session.author = other.author := by
  simp only [Session.author, alike.user]

/-- The next revision is the same when as many were made before. -/
theorem minted (alike : session.AlikeFor project specification other)
    (sequence : session.store.sequence = other.store.sequence) (parent : Option Snapshot)
    (message : String) (contents : Contents) :
    session.minted parent message contents = other.minted parent message contents := by
  simp only [Session.minted, sequence, alike.author]

/-- The branches of the workspace are found in both or in none. -/
theorem find (alike : session.AlikeFor project specification other) (access : Access) :
    Corresponds (Workspaces.Found.Alike session.currentUser specification)
      (Workspaces.find project (specification.withAccess access) session)
      (Workspaces.find project (specification.withAccess access) other) := by
  unfold Workspaces.find
  rw [← alike.locate]
  cases located : session.locate (specification.withAccess access) with
  | error failure => exact .missing failure
  | ok result =>
    obtain ⟨name, resolved⟩ := result
    have named := (Session.locate_eq_ok_iff.1 located).1
    refine alike.states.bind fun state otherState states => ?_
    rw [← states.branch named]
    cases stored : state.branch name resolved with
    | error failure => exact .missing failure
    | ok branch => exact .present ⟨rfl, rfl, rfl, states⟩

/-- Sessions stay alike when the project is set to states that are alike. -/
theorem setProject (alike : session.AlikeFor project specification other)
    {state otherState : Project}
    (states : Project.AlikeFor session.currentUser specification state otherState) :
    (session.setProject project state).AlikeFor project specification
      (other.setProject project otherState) where
  user := alike.user
  states := by
    simp only [Store.project, projects_setProject, SortedMap.get?_insert_self]
    exact .present states

/-- Counting a commit on both sides changes nothing else. -/
theorem advance (alike : session.AlikeFor project specification other) :
    session.advance.AlikeFor project specification other.advance :=
  ⟨alike.user, alike.states⟩

end Session.AlikeFor

namespace Action.Coupled

variable {Next : Type} {session other : Session} {name : String}
  {specification : Specification} {post : Next → Session → Next → Session → Prop}

/-- A workspace can be located before anything else is done. -/
theorem locate (alike : session.AlikeFor name specification other) {wanted : Specification}
    {rest otherRest : String × Specification → Action Next}
    (continues : ∀ branch, BranchName.encode session.currentUser wanted = .ok branch →
      (rest (branch, wanted.resolve session.currentUser)).Coupled
        (otherRest (branch, wanted.resolve session.currentUser)) session other post) :
    (Action.locate wanted >>= rest).Coupled (Action.locate wanted >>= otherRest) session other
      post := by
  refine read (.of_eq (alike.locate wanted)) fun located _ isLocated _ same => ?_
  obtain ⟨branch, resolved⟩ := located
  obtain ⟨named, rfl⟩ := Session.locate_eq_ok_iff.1 isLocated
  exact same ▸ continues branch named

/-- The project can be looked up before anything else is done. -/
theorem project (alike : session.AlikeFor name specification other)
    {rest otherRest : Project → Action Next}
    (continues : ∀ state otherState, session.store.projects.get? name = some state →
      other.store.projects.get? name = some otherState →
      Project.AlikeFor session.currentUser specification state otherState →
        (rest state).Coupled (otherRest otherState) session other post) :
    (Action.project name >>= rest).Coupled (Action.project name >>= otherRest) session
      other post := by
  refine read alike.states fun state otherState found otherFound states => ?_
  exact continues state otherState (Store.project_eq_ok_iff.1 found)
    (Store.project_eq_ok_iff.1 otherFound) states

end Action.Coupled

/-- Two runs have made equally many revisions. If the numbers of these are the same or there
are none, the results are equal, and the sessions are still alike. -/
structure Matched (project : String) (specification : Specification) (session other : Session)
    {Result : Type} (result : Result) (after : Session) (otherResult : Result)
    (otherAfter : Session) : Prop where
  /-- Equally many revisions were made. -/
  counted : ∃ made, after.store.sequence = session.store.sequence + made ∧
    otherAfter.store.sequence = other.store.sequence + made
  /-- The results and the sessions do not differ by the numbers of revisions. -/
  same : session.store.sequence = other.store.sequence ∨
    after.store.sequence = session.store.sequence →
      result = otherResult ∧ after.AlikeFor project specification otherAfter

section

open Workstream.Action

variable {project : String} {specification : Specification} {session other : Session}

/-- Runs without a commit match when they give the same. -/
theorem Matched.idle {Result : Type} {result : Result} {state otherState : Project}
    (alike : session.AlikeFor project specification other)
    (states : Project.AlikeFor session.currentUser specification state otherState) :
    Matched project specification session other result (session.setProject project state) result
      (other.setProject project otherState) :=
  ⟨⟨0, rfl, rfl⟩, fun _ => ⟨rfl, alike.setProject states⟩⟩

/-- Runs with one commit match when they give the same in case this has one number. -/
theorem Matched.committed {Result : Type} {result otherResult : Result}
    {state otherState : Project} (alike : session.AlikeFor project specification other)
    (same : session.store.sequence = other.store.sequence → result = otherResult ∧
      Project.AlikeFor session.currentUser specification state otherState) :
    Matched project specification session other result
      (session.advance.setProject project state) otherResult
      (other.advance.setProject project otherState) := by
  refine ⟨⟨1, rfl, rfl⟩, ?_⟩
  rintro (sequence | idle)
  · exact ⟨(same sequence).1, alike.advance.setProject (same sequence).2⟩
  · exact absurd idle (Nat.succ_ne_self _)

/-- Putting the results into another form does not matter. -/
theorem Matched.map {Result Next : Type} {result otherResult : Result}
    {after otherAfter : Session}
    (matched : Matched project specification session other result after otherResult otherAfter)
    (transform : Result → Next) : Matched project specification session other
      (transform result) after (transform otherResult) otherAfter :=
  ⟨matched.counted, fun unnumbered =>
    ⟨congrArg transform (matched.same unnumbered).1, (matched.same unnumbered).2⟩⟩

/-- Coupled runs are coupled when their results are put into another form. -/
theorem Action.Coupled.mapResult {Result Next : Type} {first second : Action Result}
    (coupled : first.Coupled second session other (Matched project specification session other))
    (transform : Result → Next) : (transform <$> first).Coupled (transform <$> second) session
      other (Matched project specification session other) :=
  coupled.map fun _ _ _ _ matched => matched.map transform

/-- Coupled runs match, be it that they fail or that they succeed. -/
theorem Matched.of_coupled {Result : Type} {first second : Action Result}
    (alike : session.AlikeFor project specification other)
    (coupled : first.Coupled second session other
      (Matched project specification session other)) :
    Matched project specification session other (first.run session).result
      (first.run session).session (second.run other).result (second.run other).session := by
  cases coupled with
  | fail fails otherFails =>
    rw [fails.1, fails.2, otherFails.1, otherFails.2]
    exact ⟨⟨0, rfl, rfl⟩, fun _ => ⟨rfl, alike⟩⟩
  | succeed gives otherGives matched =>
    rw [gives.1, gives.2, otherGives.1, otherGives.2]
    exact matched.map Except.ok

namespace Workspaces

theorem create_coupled (alike : session.AlikeFor project specification other) :
    (create project specification).Coupled (create project specification) session other
      (Matched project specification session other) := by
  refine Coupled.refuseIf rfl fun live => ?_
  refine Coupled.locate alike fun name named => ?_
  refine Coupled.project alike fun state otherState found otherFound states => ?_
  refine Coupled.refuseIf (states.contains named) fun absent => ?_
  refine Coupled.ofExcept (states.head project) fun head isHead => ?_
  exact .succeed
    ((Gives.modifyProject found _).bind ((Gives.inform _ _ _ _).bind (Gives.pure _ _)))
    ((Gives.modifyProject otherFound _).bind ((Gives.inform _ _ _ _).bind (Gives.pure _ _)))
    (.idle alike (states.putBranch name _))

theorem commit_coupled (alike : session.AlikeFor project specification other)
    (message : String) (changes : List Change) :
    (commit project specification message changes).Coupled
      (commit project specification message changes) session other
      (Matched project specification session other) := by
  refine Coupled.read (alike.find specification.access) fun found otherFound isFound isOther
    same => ?_
  obtain ⟨_, _, stateFound, stored⟩ := find_eq_ok_iff.1 isFound
  obtain ⟨_, _, otherStateFound, otherStored⟩ := find_eq_ok_iff.1 isOther
  obtain ⟨name, resolved, state, branch⟩ := found
  obtain ⟨otherName, otherResolved, otherState, otherBranch⟩ := otherFound
  obtain ⟨rfl, rfl, rfl, states⟩ := same
  refine Coupled.ofExcept rfl fun contents changed => ?_
  have stillFound : session.advance.store.projects.get? project = some state := stateFound
  have otherStillFound : other.advance.store.projects.get? project = some otherState :=
    otherStateFound
  refine .succeed
    ((Gives.commit _ _ _ _).bind ((pushCommit_gives stillFound stored _).bind (Gives.pure _ _)))
    ((Gives.commit _ _ _ _).bind
      ((pushCommit_gives otherStillFound otherStored _).bind (Gives.pure _ _)))
    (.committed alike fun sequence => ?_)
  rw [alike.minted sequence]
  exact ⟨rfl, states.putBranch name _⟩

/-- Dropping a branch and its companion on both sides keeps the states alike. -/
theorem dropAll_alike {currentUser : Option String} {state otherState : Project}
    (states : Project.AlikeFor currentUser specification state otherState) (name : String)
    (companion : Option String) : Project.AlikeFor currentUser specification
      (dropAll state name companion) (dropAll otherState name companion) := by
  cases companion with
  | none => exact states.dropBranch name
  | some resolution => exact (states.dropBranch name).dropBranch resolution

theorem delete_coupled (alike : session.AlikeFor project specification other) :
    (delete project specification).Coupled (delete project specification) session other
      (Matched project specification session other) := by
  refine Coupled.locate alike fun name named => ?_
  have companions : companionName? (specification.resolve session.currentUser) session =
      companionName? (specification.resolve session.currentUser) other := by
    simp only [companionName?, alike.locate]
  refine Coupled.read (.of_eq companions) fun companion _ _ _ same => ?_
  subst same
  refine Coupled.project alike fun state otherState found otherFound states => ?_
  refine Coupled.ofExcept (states.branch named _) fun branch stored => ?_
  exact .succeed (dropAll_gives found companion _) (dropAll_gives otherFound companion _)
    (.idle alike (dropAll_alike states name companion))

theorem moveTo_coupled (alike : session.AlikeFor project specification other)
    {state otherState : Project} (found : session.store.projects.get? project = some state)
    (otherFound : other.store.projects.get? project = some otherState)
    (states : Project.AlikeFor session.currentUser specification state otherState)
    (names : UpdateNames) (branch : Branch) (head : Snapshot) :
    (moveTo project names branch head).Coupled (moveTo project names branch head) session other
      (Matched project specification session other) := by
  by_cases clean : (updateMerge branch head).conflicts = []
  · cases carries : (updateMerge branch head).carriesOver with
    | false =>
      exact .succeed (moveTo_gives_of_clean names clean (replay_gives_of_idle carries) found)
        (moveTo_gives_of_clean names clean (replay_gives_of_idle carries) otherFound)
        (.idle alike ((states.putBranch names.backup branch).putBranch names.live _))
    | true =>
      refine .succeed
        (moveTo_gives_of_clean names clean (replay_gives_of_carriesOver carries) found)
        (moveTo_gives_of_clean names clean (replay_gives_of_carriesOver carries) otherFound)
        (.committed alike fun sequence => ?_)
      rw [alike.minted sequence]
      exact ⟨rfl, (states.putBranch names.backup branch).putBranch names.live _⟩
  · refine .succeed (moveTo_gives_of_conflicts names clean found)
      (moveTo_gives_of_conflicts names clean otherFound) (.committed alike fun sequence => ?_)
    rw [alike.minted sequence]
    exact ⟨rfl, states.putBranch names.resolution _⟩

theorem update_coupled (alike : session.AlikeFor project specification other) :
    (update project specification).Coupled (update project specification) session other
      (Matched project specification session other) := by
  refine Coupled.refuseIf rfl fun live => ?_
  refine Coupled.locate alike fun name named => ?_
  refine Coupled.locate alike fun backup backupNamed => ?_
  refine Coupled.locate alike fun resolution resolutionNamed => ?_
  rw [BranchName.encode_resolve_withAccess] at backupNamed resolutionNamed
  refine Coupled.project alike fun state otherState found otherFound states => ?_
  refine Coupled.ofExcept (states.branch named _) fun branch stored => ?_
  refine Coupled.refuseIf (states.contains resolutionNamed) fun calm => ?_
  refine Coupled.ofExcept (states.head project) fun head isHead => ?_
  by_cases current : branch.base.revision.id = head.revision.id
  · rw [if_pos current]
    exact .succeed (Gives.pure _ _) (Gives.pure _ _)
      ⟨⟨0, rfl, rfl⟩, fun _ => ⟨rfl, alike⟩⟩
  · rw [if_neg current]
    exact moveTo_coupled alike found otherFound states _ branch head

end Workspaces

namespace Backups

theorem discard_coupled (alike : session.AlikeFor project specification other) :
    (discard project specification).Coupled (discard project specification) session other
      (Matched project specification session other) := by
  refine Coupled.read (alike.find .backup) fun found otherFound isFound isOther same => ?_
  obtain ⟨_, _, stateFound, _⟩ := Workspaces.find_eq_ok_iff.1 isFound
  obtain ⟨_, _, otherStateFound, _⟩ := Workspaces.find_eq_ok_iff.1 isOther
  rw [← same.name]
  exact .succeed ((Gives.modifyProject stateFound _).bind (Gives.inform _ _ _ _))
    ((Gives.modifyProject otherStateFound _).bind (Gives.inform _ _ _ _))
    (.idle alike (same.states.dropBranch found.name))

theorem recover_coupled (alike : session.AlikeFor project specification other)
    (force : Bool) : (recover project specification force).Coupled
      (recover project specification force) session other
      (Matched project specification session other) := by
  refine Coupled.locate alike fun name named => ?_
  refine Coupled.read (alike.find .backup) fun found otherFound isFound isOther same => ?_
  obtain ⟨_, _, stateFound, _⟩ := Workspaces.find_eq_ok_iff.1 isFound
  obtain ⟨_, _, otherStateFound, _⟩ := Workspaces.find_eq_ok_iff.1 isOther
  rw [← same.name, ← same.branch]
  refine Coupled.refuseIf (by rw [same.states.contains named]) fun free => ?_
  exact .succeed ((Gives.modifyProject stateFound _).bind (Gives.inform _ _ _ _))
    ((Gives.modifyProject otherStateFound _).bind (Gives.inform _ _ _ _))
    (.idle alike ((same.states.dropBranch found.name).putBranch name found.branch))

end Backups

end

end Workstream
