import Workstream.Proofs.Register.Correspondence

/-!
# Operations follow a register

What an operation on workspaces does in a session is what it does in a register that mirrors
the session. `Follows` says so for an action and the outcome in the register: they fail for one
reason, or they give one result and the register mirrors the session afterwards. Its rules
follow the shape of the operations, as those of `Action.Meets` and `Action.Coupled` do.
-/

namespace Workstream

open Workstream.Action

/-- An action in a session follows a register: when the register fails, the action fails for
the same reason, and when the register succeeds, the action gives the same result, and the
register mirrors the session afterwards. -/
inductive Follows {Result : Type} (action : Action Result) (session : Session) :
    Except Failure (Result × Register) → Prop where
  | fail {failure : Failure} (fails : action.Fails session failure) :
      Follows action session (.error failure)
  | succeed {result : Result} {after : Session} {register : Register}
      (gives : action.Gives session result after) (mirrors : register.Mirrors after) :
      Follows action session (.ok (result, register))

namespace Follows

variable {Result Looked Other : Type} {session : Session} {register : Register}

/-- A part of an action that changes nothing can come before the rest. -/
theorem bind {first : Action Other} {rest : Other → Action Result} {other : Other}
    {outcome : Except Failure (Result × Register)} (gives : first.Gives session other session)
    (follows : Follows (rest other) session outcome) :
    Follows (first >>= rest) session outcome := by
  cases follows with
  | fail fails => exact .fail (fails.bind gives)
  | succeed restGives mirrors => exact .succeed (gives.bind restGives) mirrors

/-- Corresponding results can be looked up before anything else is done. -/
theorem read {related : Looked → Other → Prop} {looked : Except Failure Looked}
    {query : Session → Except Failure Other}
    {next : Looked → Except Failure (Result × Register)} {rest : Other → Action Result}
    (corresponds : Corresponds related looked (query session))
    (continues : ∀ result other, related result other →
      Follows (rest other) session (next result)) :
    Follows (Action.read query >>= rest) session (looked >>= next) := by
  generalize value : query session = otherLooked at corresponds
  cases corresponds with
  | missing failure => exact .fail (Fails.read value rest)
  | present isRelated => exact .bind (Gives.read value) (continues _ _ isRelated)

/-- A value that may be missing on both sides can be taken before anything else is done. -/
theorem ofExcept {value otherValue : Except Failure Looked}
    {next : Looked → Except Failure (Result × Register)} {rest : Looked → Action Result}
    (same : value = otherValue)
    (continues : ∀ result, otherValue = .ok result → Follows (rest result) session (next result)) :
    Follows (Action.ofExcept otherValue >>= rest) session (value >>= next) := by
  subst same
  cases isValue : value with
  | error failure => exact .fail (Fails.ofExcept rfl rest)
  | ok result => exact .bind (Gives.ofExcept rfl session) (continues result isValue)

/-- A condition that is the same on both sides can be checked before anything else is done. -/
theorem refuseIf {condition otherCondition : Bool} {failure : Failure}
    {next : Unit → Except Failure (Result × Register)} {rest : Unit → Action Result}
    (same : condition = otherCondition)
    (continues : otherCondition = false → Follows (rest ()) session (next ())) :
    Follows (Action.refuseIf otherCondition failure >>= rest) session
      (Register.refuseIf condition failure >>= next) := by
  subst same
  cases condition with
  | true => exact .fail ⟨rfl, rfl⟩
  | false => exact .bind (Gives.refuseIf rfl failure session) (continues rfl)

/-- A project can be looked up before anything else is done. -/
theorem project (mirrors : register.Mirrors session) {name : String}
    {next : Project → Except Failure (Result × Register)} {rest : Project → Action Result}
    (continues : ∀ state, session.store.projects.get? name = some state →
      Follows (rest state) session (next state.bare)) :
    Follows (Action.project name >>= rest) session (register.project name >>= next) := by
  refine read (mirrors.projects name) ?_
  rintro _ state ⟨rfl, found⟩
  exact continues state found

/-- A workspace can be located before anything else is done. -/
theorem locate (mirrors : register.Mirrors session) {wanted : Specification}
    {next : Specification → Except Failure (Result × Register)}
    {rest : String × Specification → Action Result}
    (continues : ∀ name, BranchName.encode session.currentUser wanted = .ok name →
      Follows (rest (name, wanted.resolve session.currentUser)) session
        (next (wanted.resolve session.currentUser))) :
    Follows (Action.locate wanted >>= rest) session (register.resolve wanted >>= next) := by
  refine read (mirrors.locate wanted) ?_
  rintro _ ⟨name, _⟩ ⟨named, rfl, rfl⟩
  exact continues name named

/-- The results on both sides can be put into another form. -/
theorem map {action : Action Result} {outcome : Except Failure (Result × Register)}
    (follows : Follows action session outcome) (answer : Result → Answer) :
    Follows (answer <$> action) session (Register.done answer outcome) := by
  cases follows with
  | fail fails => exact .fail (fails.map answer)
  | succeed gives mirrors => exact .succeed (gives.map answer) mirrors

/-- A question is answered alike when the same is looked up. -/
theorem query (mirrors : register.Mirrors session) {looked : Except Failure Result}
    {query : Session → Except Failure Result} (same : looked = query session)
    (answer : Result → Answer) :
    Follows (answer <$> Action.read query) session (register.told answer looked) := by
  subst same
  cases value : query session with
  | error failure => exact .fail (Fails.read value _)
  | ok result => exact .succeed ((Gives.read value).map answer) mirrors

end Follows

/-- A workspace that was found in a session, as it is found in a register. -/
def Workspaces.Found.filed (found : Found) : Register.Found where
  specification := found.specification
  project := found.project.bare
  branch := found.branch

namespace Register.Mirrors

variable {register : Register} {session : Session} {project name : String} {state : Project}
  {specification : Specification}

/-- A branch is found on both sides or on neither. -/
theorem branch_eq (mirrors : register.Mirrors session)
    (found : session.store.projects.get? project = some state)
    (read : BranchName.decode? name = some specification) :
    register.branch project specification = state.branch name specification := by
  have same := (mirrors.files found).same name specification read
  cases stored : state.branches.get? name <;>
    simp [Register.branch, Project.branch, same, stored]

/-- A branch is there on both sides or on neither. -/
theorem holds_eq (mirrors : register.Mirrors session)
    (found : session.store.projects.get? project = some state)
    (read : BranchName.decode? name = some specification) :
    register.holds project specification = state.branches.contains name :=
  (mirrors.files found).contains_eq read

/-- A workspace is found on both sides or on neither. -/
theorem find (mirrors : register.Mirrors session) (project : String)
    (specification : Specification) :
    Corresponds (fun filed found =>
        BranchName.decode? found.name = some found.specification ∧
        session.store.projects.get? project = some found.project ∧
        found.project.branches.get? found.name = some found.branch ∧
        filed = found.filed)
      (Register.find project specification register)
      (Workspaces.find project specification session) := by
  refine (mirrors.locate specification).bind ?_
  rintro _ ⟨name, _⟩ ⟨named, rfl, rfl⟩
  have read := BranchName.decode?_of_encode named
  refine (mirrors.projects project).bind ?_
  rintro _ state ⟨rfl, found⟩
  rw [mirrors.branch_eq found read]
  cases isBranch : state.branch name (specification.resolve session.currentUser) with
  | error failure => exact .missing failure
  | ok branch => exact .present ⟨read, found, Project.branch_eq_ok_iff.1 isBranch, rfl⟩

/-- What is asked about a workspace is answered alike, if the names and the other branches of
its project are not looked at. -/
theorem ask_eq (mirrors : register.Mirrors session) {Result : Type}
    {asked : Register.Found → Except Failure Result}
    {ask : Workspaces.Found → Except Failure Result}
    (same : ∀ found : Workspaces.Found, asked found.filed = ask found) :
    (Register.find project specification register >>= asked) =
      (Workspaces.find project specification session >>= ask) := by
  refine (mirrors.find project specification).bind_eq ?_
  rintro _ found ⟨_, _, _, rfl⟩
  exact same found

end Register.Mirrors

namespace Follows

variable {Result : Type} {session : Session} {register : Register}

/-- A workspace can be looked for before anything else is done. -/
theorem find (mirrors : register.Mirrors session) {project : String} {wanted : Specification}
    {next : Register.Found → Except Failure (Result × Register)}
    {rest : Workspaces.Found → Action Result}
    (continues : ∀ found : Workspaces.Found,
      BranchName.decode? found.name = some found.specification →
      session.store.projects.get? project = some found.project →
      found.project.branches.get? found.name = some found.branch →
        Follows (rest found) session (next found.filed)) :
    Follows (Action.read (Workspaces.find project wanted) >>= rest) session
      (Register.find project wanted register >>= next) := by
  refine read (mirrors.find project wanted) ?_
  rintro _ found ⟨isRead, stored, isBranch, rfl⟩
  exact continues found isRead stored isBranch

end Follows

section

variable {register : Register} {session : Session} {project : String}
  {specification : Specification}

namespace Workspaces

theorem create_follows (mirrors : register.Mirrors session) :
    Follows (create project specification) session
      (Register.create project specification register) := by
  refine Follows.refuseIf rfl fun live => ?_
  refine Follows.locate mirrors fun name named => ?_
  refine Follows.project mirrors fun state found => ?_
  have read := BranchName.decode?_of_encode named
  refine Follows.refuseIf (mirrors.holds_eq found read) fun absent => ?_
  refine Follows.ofExcept rfl fun head isHead => ?_
  refine .succeed ?_ (mirrors.put found read (.fresh head))
  exact (Gives.modifyProject found _).bind ((Gives.inform _ _ _ _).bind (Gives.pure _ _))

theorem commit_follows (mirrors : register.Mirrors session) (message : String)
    (changes : List Change) : Follows (commit project specification message changes) session
      (Register.commit project specification register message changes) := by
  refine Follows.find mirrors fun found read stored isBranch => ?_
  refine Follows.ofExcept rfl fun contents changed => ?_
  have stillStored : session.advance.store.projects.get? project = some found.project := stored
  rw [mirrors.minted_eq]
  refine .succeed ?_ (mirrors.advance.put stillStored read _)
  exact (Gives.commit _ _ _ _).bind
    ((pushCommit_gives stillStored isBranch _).bind (Gives.pure _ _))

/-- It can always be said which branch goes together with a branch that has a name. -/
theorem exists_companionName? {name : String}
    (named : BranchName.encode session.currentUser specification = .ok name) :
    ∃ companion, companionName? (specification.resolve session.currentUser) session =
      .ok companion := by
  obtain ⟨resolution, resolutionNamed⟩ := BranchName.encode_withAccess named .resolution
  rw [← BranchName.encode_resolve_withAccess] at resolutionNamed
  have located := Session.locate_eq_ok_iff.2 ⟨resolutionNamed, rfl⟩
  unfold companionName?
  split
  · exact ⟨some resolution, bind_eq_ok_iff.2 ⟨_, located, rfl⟩⟩
  · exact ⟨none, rfl⟩

/-- Dropping a workspace and its conflict resolution is the same on both sides. -/
theorem dropAll_mirrors (mirrors : register.Mirrors session) {state : Project} {name : String}
    (found : session.store.projects.get? project = some state)
    (named : BranchName.encode session.currentUser specification = .ok name)
    {companion : Option String}
    (isCompanion : companionName? (specification.resolve session.currentUser) session =
      .ok companion) :
    (Register.dropAll project register (specification.resolve session.currentUser)).Mirrors
      (session.setProject project (dropAll state name companion)) := by
  have dropped := mirrors.drop found (BranchName.decode?_of_encode named)
  rcases companionName?_eq_ok isCompanion with
    ⟨live, resolution, rfl, resolutionNamed⟩ | ⟨notLive, rfl⟩
  · rw [Register.dropAll, if_pos (show (specification.resolve _).access = .live from live)]
    exact dropped.drop_set (BranchName.decode?_of_encode resolutionNamed)
  · rw [Register.dropAll, if_neg (show (specification.resolve _).access ≠ .live from notLive)]
    exact dropped

theorem delete_follows (mirrors : register.Mirrors session) :
    Follows (delete project specification) session
      (Register.delete project specification register) := by
  refine Follows.locate mirrors fun name named => ?_
  obtain ⟨companion, isCompanion⟩ := exists_companionName? named
  refine .bind (Gives.read isCompanion) ?_
  refine Follows.project mirrors fun state found => ?_
  have read := BranchName.decode?_of_encode named
  refine Follows.ofExcept (mirrors.branch_eq found read) fun branch isBranch => ?_
  exact .succeed (dropAll_gives found _ _) (dropAll_mirrors mirrors found named isCompanion)

section

variable {state : Project} {live : Specification} {names : UpdateNames}

/-- The names of an update are read as the branches of a live workspace. -/
structure UpdateNames.Read (names : UpdateNames) (specification : Specification) : Prop where
  live : BranchName.decode? names.live = some specification
  backup : BranchName.decode? names.backup = some (specification.withAccess .backup)
  resolution : BranchName.decode? names.resolution =
    some (specification.withAccess .resolution)

/-- Replacing a live workspace and keeping the old one as its backup is the same on both
sides. -/
theorem replace_mirrors (mirrors : register.Mirrors session)
    (found : session.store.projects.get? project = some state) (read : names.Read live)
    (old updated : Branch) :
    (Register.replace project register live old updated).2.Mirrors (session.setProject project
      ((state.putBranch names.backup old).putBranch names.live updated)) :=
  (mirrors.put found read.backup old).put_set read.live updated

theorem moveTo_follows (mirrors : register.Mirrors session)
    (found : session.store.projects.get? project = some state) (read : names.Read live)
    (branch : Branch) (head : Snapshot) :
    Follows (moveTo project names branch head) session
      (.ok (Register.moveTo project register live branch head)) := by
  have stillFound : session.advance.store.projects.get? project = some state := found
  by_cases clean : (updateMerge branch head).conflicts = []
  · rw [Register.moveTo, if_pos (List.isEmpty_iff.2 clean)]
    cases carries : (updateMerge branch head).carriesOver with
    | false =>
      rw [Register.replay, if_neg (by simp [carries])]
      exact .succeed (moveTo_gives_of_clean names clean (replay_gives_of_idle carries) found)
        (replace_mirrors mirrors found read _ _)
    | true =>
      rw [Register.replay, if_pos carries, mirrors.minted_eq]
      exact .succeed
        (moveTo_gives_of_clean names clean (replay_gives_of_carriesOver carries) stillFound)
        (replace_mirrors mirrors.advance stillFound read _ _)
  · rw [Register.moveTo, if_neg fun empty => clean (List.isEmpty_iff.1 empty),
      Register.enterResolution, mirrors.minted_eq]
    exact .succeed (moveTo_gives_of_conflicts names clean found)
      (mirrors.advance.put stillFound read.resolution _)

end

theorem update_follows (mirrors : register.Mirrors session) :
    Follows (update project specification) session
      (Register.update project specification register) := by
  refine Follows.refuseIf rfl fun isLive => ?_
  refine Follows.locate mirrors fun name named => ?_
  obtain ⟨backup, backupNamed⟩ := BranchName.encode_withAccess named .backup
  obtain ⟨resolution, resolutionNamed⟩ := BranchName.encode_withAccess named .resolution
  have read : UpdateNames.Read ⟨name, backup, resolution⟩
      (specification.resolve session.currentUser) :=
    ⟨BranchName.decode?_of_encode named, BranchName.decode?_of_encode backupNamed,
      BranchName.decode?_of_encode resolutionNamed⟩
  rw [← BranchName.encode_resolve_withAccess] at backupNamed resolutionNamed
  refine .bind (Gives.locate backupNamed) (.bind (Gives.locate resolutionNamed) ?_)
  refine Follows.project mirrors fun state found => ?_
  refine Follows.ofExcept (mirrors.branch_eq found read.live) fun branch isBranch => ?_
  refine Follows.refuseIf (mirrors.holds_eq found read.resolution) fun calm => ?_
  refine Follows.ofExcept rfl fun head isHead => ?_
  by_cases current : branch.base.revision.id = head.revision.id
  · rw [if_pos current, if_pos current]
    exact .succeed (Gives.pure _ _) mirrors
  · rw [if_neg current, if_neg current]
    exact moveTo_follows mirrors found read branch head

end Workspaces

namespace Backups

theorem discard_follows (mirrors : register.Mirrors session) :
    Follows (discard project specification) session
      (Register.discard project specification register) := by
  refine Follows.find mirrors fun found read stored isBranch => ?_
  refine .succeed ?_ (mirrors.drop stored read)
  exact (Gives.modifyProject stored _).bind (Gives.inform _ _ _ _)

theorem recover_follows (mirrors : register.Mirrors session) (force : Bool) :
    Follows (recover project specification force) session
      (Register.recover project specification register force) := by
  refine Follows.locate mirrors fun name named => ?_
  have liveRead := BranchName.decode?_of_encode named
  refine Follows.find mirrors fun found read stored isBranch => ?_
  have same := congrArg (!force && ·) (mirrors.holds_eq stored liveRead)
  refine Follows.refuseIf same fun free => ?_
  refine .succeed ?_ ((mirrors.drop stored read).put_set liveRead found.branch)
  exact (Gives.modifyProject stored _).bind (Gives.inform _ _ _ _)

end Backups

theorem Reviews.create_follows (mirrors : register.Mirrors session) :
    Follows (create project specification) session
      (Register.openReview project specification register) := by
  refine Follows.find mirrors fun found read stored isBranch => ?_
  refine .succeed ?_ (mirrors.setLedger stored (found.project.addReview _) rfl)
  exact (Gives.modifyProject stored _).bind ((Gives.inform _ _ _ _).bind (Gives.pure _ _))

end

end Workstream
