import Workstream.Proofs.Register.Simulation

/-!
# Names lose nothing

A session that stores branches under names answers every request as a register does that files
them under specifications, and the two keep holding the same branches. So the names in a
session could be anything that is as good at telling specifications apart; only the order of
listings depends on them.
-/

namespace Workstream

open Workstream.Action

section

variable {register : Register} {session : Session} {project : String}
  {specification : Specification}

namespace Register

theorem get_eq (mirrors : register.Mirrors session) :
    get project specification register = Workspaces.get project specification session :=
  mirrors.ask_eq fun _ => rfl

theorem isOutdated_eq (mirrors : register.Mirrors session) :
    isOutdated project specification register =
      Workspaces.isOutdated project specification session :=
  mirrors.ask_eq fun _ => rfl

theorem isInConflict_eq (mirrors : register.Mirrors session) :
    isInConflict project specification register =
      Workspaces.isInConflict project specification session := by
  refine (mirrors.locate (specification.withAccess .resolution)).bind_eq ?_
  rintro _ ⟨name, _⟩ ⟨named, rfl, rfl⟩
  refine (mirrors.find project (specification.withAccess .live)).bind_eq ?_
  rintro _ found ⟨_, stored, _, rfl⟩
  rw [mirrors.holds_eq stored (BranchName.decode?_of_encode named)]

theorem creationComparison_eq (mirrors : register.Mirrors session) :
    creationComparison project specification register =
      Workspaces.creationComparison project specification session :=
  mirrors.ask_eq fun _ => rfl

theorem streamComparison_eq (mirrors : register.Mirrors session) :
    streamComparison project specification register =
      Workspaces.streamComparison project specification session :=
  mirrors.ask_eq fun _ => rfl

theorem configuration_eq (mirrors : register.Mirrors session) :
    configuration project specification register =
      Configurations.ofWorkspace project specification session :=
  mirrors.ask_eq fun _ => rfl

theorem revisionConfiguration_eq (mirrors : register.Mirrors session) (revision : String) :
    revisionConfiguration project specification register revision =
      Configurations.ofWorkspaceRevision project specification revision session := by
  refine mirrors.ask_eq fun found => ?_
  cases looked : found.branch.find? revision <;> simp [Workspaces.Found.filed, looked]

theorem dependencies_eq (mirrors : register.Mirrors session) (revision : String)
    (transitive : Bool) :
    dependencies project specification register revision transitive =
      Workstream.Dependencies.ofRevision project specification revision transitive session := by
  refine mirrors.ask_eq fun found => ?_
  have released (dependency : Dependency) :
      register.ledger.store.released dependency = session.store.released dependency := by
    refine (mirrors.projects dependency.project).bind_eq ?_
    rintro _ state ⟨rfl, _⟩
    rfl
  cases looked : found.branch.find? revision <;>
    simp [Workspaces.Found.filed, looked, Workstream.Dependencies.closure,
      Workstream.Dependencies.follow_eq released]

/-- A workspace that has a name is sorted by it. -/
theorem nameOf_eq {name : String} (read : BranchName.decode? name = some specification) :
    nameOf specification = name := by
  rw [nameOf, BranchName.encode_of_decode? read]
  rfl

/-- What is filed is what is stored under the names that are read as it. -/
theorem mem_filter_keys_iff {shelf : SortedMap Specification Branch} {state : Project}
    (files : Files shelf state.branches) {keeps : Specification → Bool} :
    specification ∈ shelf.keys.filter keeps ↔ specification ∈ state.specifications keeps := by
  rw [Project.mem_specifications_iff, List.mem_filter, SortedMap.mem_keys_iff, and_comm]
  refine and_congr_right fun _ => ?_
  constructor
  · intro filed
    obtain ⟨branch, filed⟩ := Option.isSome_iff_exists.1 filed
    obtain ⟨name, read⟩ := files.named specification branch filed
    exact ⟨name, branch, (files.same name specification read).symm.trans filed, read⟩
  · rintro ⟨name, branch, stored, read⟩
    rw [files.same name specification read, stored]
    rfl

/-- What is stored is listed in the order of names. -/
theorem nameOf_ascending (state : Project) (keeps : Specification → Bool) :
    (state.specifications keeps).Pairwise fun earlier later =>
      (compare (nameOf earlier) (nameOf later)).isLE := by
  obtain ⟨names, named, ascending⟩ := state.specifications_ascending none keeps
  have namesOf : (state.specifications keeps).map nameOf = names := by
    have same := congrArg (List.map fun name => name.toOption.getD "") named
    rw [List.map_map, List.map_map] at same
    exact same.trans (List.map_id names)
  rw [← namesOf, List.pairwise_map] at ascending
  refine ascending.imp fun smaller => ?_
  rw [smaller]
  rfl

/-- Sorted specifications are in the order of their names. -/
theorem sorted_pairwise (specifications : List Specification) :
    (sorted specifications).Pairwise fun earlier later =>
      (compare (nameOf earlier) (nameOf later)).isLE := by
  refine List.pairwise_mergeSort ?transitive ?total _
  case transitive =>
    intro first second third smaller larger
    exact Std.TransOrd.isLE_trans smaller larger
  case total =>
    intro earlier later
    cases order : compare (nameOf earlier) (nameOf later) with
    | gt => simp [Std.OrientedCmp.lt_of_gt order]
    | _ => rfl

/-- What is filed is sorted in the order in which what is stored is listed. -/
theorem sorted_eq {shelf : SortedMap Specification Branch} {state : Project}
    (files : Files shelf state.branches) (keeps : Specification → Bool) :
    sorted (shelf.keys.filter keeps) = state.specifications keeps := by
  have distinct : (shelf.keys.filter keeps).Nodup :=
    (SortedMap.nodup_of_ascending id shelf.keys_ascending).filter keeps
  have perm : (sorted (shelf.keys.filter keeps)).Perm (state.specifications keeps) :=
    (List.mergeSort_perm _ _).trans ((List.perm_ext_iff_of_nodup distinct
      (state.specifications_nodup keeps)).2 fun _ => mem_filter_keys_iff files)
  refine List.Perm.eq_of_pairwise ?_ (sorted_pairwise _) (nameOf_ascending state keeps) perm
  intro earlier later filed listed smaller larger
  obtain ⟨_, name, _, _, read⟩ := Project.mem_specifications_iff.1 (perm.mem_iff.1 filed)
  obtain ⟨_, other, _, _, otherRead⟩ := Project.mem_specifications_iff.1 listed
  have same := Std.LawfulEqOrd.eq_of_compare (Std.OrientedCmp.isLE_antisymm smaller larger)
  rw [nameOf_eq read, nameOf_eq otherRead] at same
  exact Option.some.inj (read.symm.trans (same ▸ otherRead))

theorem listFor_eq (mirrors : register.Mirrors session) (stream : DevelopmentStream)
    (kinds : List Ownership) (viewer : Option String) :
    listFor project register stream kinds viewer =
      Workspaces.listFor viewer project stream kinds session := by
  rw [Workspaces.listFor_eq]
  refine (mirrors.projects project).bind_eq ?_
  rintro _ state ⟨rfl, found⟩
  rw [sorted_eq (mirrors.files found)]
  rfl

theorem list_eq (mirrors : register.Mirrors session) (stream : DevelopmentStream)
    (kinds : List Ownership) :
    list project register stream kinds = Workspaces.list project stream kinds session := by
  unfold list Workspaces.list
  rw [mirrors.currentUser_eq]
  cases session.currentUser with
  | none => exact listFor_eq mirrors _ _ _
  | some user => exact listFor_eq mirrors _ _ _

end Register

/-- What an action gives in a session without branches is what it gives in the session with
them, and it leaves them alone. -/
structure BranchFree {Result : Type} (session : Session) (result : Result) (after : Session)
    (otherResult : Result) (otherAfter : Session) : Prop where
  result : result = otherResult
  bare : after = otherAfter.bare
  branches : ∀ project, otherAfter.branchesOf project = session.branchesOf project

/-- An action that has nothing to do with branches can be done in the ledger. -/
theorem Follows.onLedger (mirrors : register.Mirrors session) {action : Action Answer}
    (coupled : action.Coupled action session.bare session (BranchFree session)) :
    Follows action session (register.onLedger action) := by
  rw [Register.onLedger, mirrors.ledger]
  cases coupled with
  | fail fails otherFails =>
    rw [fails.1]
    exact .fail otherFails
  | succeed gives otherGives same =>
    obtain ⟨rfl, rfl, kept⟩ := same
    rw [gives.1, gives.2]
    refine .succeed otherGives ⟨rfl, fun project => ?_⟩
    rw [kept]
    exact mirrors.shelves project

/-- A question that has nothing to do with branches can be asked of the ledger. -/
theorem Follows.askLedger (mirrors : register.Mirrors session) {Result : Type}
    {query : Session → Except Failure Result} (answer : Result → Answer)
    (same : query register.ledger = query session) :
    Follows (answer <$> Action.read query) session
      (register.onLedger (answer <$> Action.read query)) := by
  have told : register.onLedger (answer <$> Action.read query) =
      register.told answer (query register.ledger) := by
    rw [Register.onLedger, Action.run_map_read]
    cases query register.ledger <;> rfl
  rw [told]
  exact .query mirrors same answer

/-- What is asked about a project without looking at its branches is answered alike. -/
theorem Register.Mirrors.askProject_eq (mirrors : register.Mirrors session) (name : String)
    {Result : Type} {ask : Project → Except Failure Result}
    (indifferent : ∀ state : Project, ask state.bare = ask state) :
    (register.ledger.store.project name >>= ask) = (session.store.project name >>= ask) := by
  refine (mirrors.projects name).bind_eq ?_
  rintro _ state ⟨rfl, _⟩
  exact indifferent state

/-- A review is found in the ledger as it is found in the session. -/
theorem Reviews.find_eq (mirrors : register.Mirrors session) (name : String)
    (stream : DevelopmentStream) (id : String) :
    find name stream id register.ledger = find name stream id session :=
  mirrors.askProject_eq name fun _ => rfl

/-- A project with the branches that it had is set in both sessions. -/
theorem BranchFree.setProject {Result : Type} {session current : Session} {name : String}
    {result : Result} (changed : Project) (same : changed.branches = current.branchesOf name)
    (kept : ∀ project, current.branchesOf project = session.branchesOf project) :
    BranchFree session result (current.bare.setProject name changed.bare) result
      (current.setProject name changed) where
  result := rfl
  bare := (current.bare_setProject name changed).symm
  branches project := by
    rw [Session.branchesOf_setProject, same]
    split
    · rename_i equal
      rw [equal, kept]
    · exact kept project

/-- Putting the results into another form does not matter. -/
theorem Action.Coupled.mapBranchFree {Result : Type} {action : Action Result} {session : Session}
    (coupled : action.Coupled action session.bare session (BranchFree session))
    (answer : Result → Answer) : (answer <$> action).Coupled (answer <$> action) session.bare
      session (BranchFree session) :=
  coupled.map fun _ _ _ _ same => ⟨congrArg answer same.result, same.bare, same.branches⟩

namespace Projects

variable (session : Session) (name : String)

theorem create_branchFree (group artifact : String) :
    (create name group artifact).Coupled (create name group artifact) session.bare session
      (BranchFree session) := by
  have corresponds : Corresponds (fun bare current => session.bare = bare ∧ session = current)
      (.ok session.bare) (.ok session) := .present ⟨rfl, rfl⟩
  refine Coupled.read corresponds ?_
  rintro _ _ _ _ ⟨rfl, rfl⟩
  have contains : session.bare.store.projects.contains name =
      session.store.projects.contains name := by
    simp only [SortedMap.contains, Session.get?_bare, Option.isSome_map]
  refine Coupled.refuseIf contains fun absent => ?_
  have missing : ∅ = session.advance.branchesOf name := by
    have absent := SortedMap.contains_eq_false_iff.1 (contains.symm.trans absent)
    simp [Session.branchesOf, absent]
  exact .succeed
    ((Gives.commit _ _ _ _).bind ((Gives.modifyStore _ _).bind
      ((Gives.inform _ _ _ _).bind (Gives.pure _ _))))
    ((Gives.commit _ _ _ _).bind ((Gives.modifyStore _ _).bind
      ((Gives.inform _ _ _ _).bind (Gives.pure _ _))))
    (.setProject (.start _) missing fun _ => rfl)

theorem release_branchFree (version : Version) :
    (release name version).Coupled (release name version) session.bare session
      (BranchFree session) := by
  refine Coupled.read (session.project_bare name) ?_
  rintro _ state isBare _ ⟨rfl, found⟩
  refine Coupled.refuseIf rfl fun absent => ?_
  refine Coupled.ofExcept rfl fun head isHead => ?_
  have bareFound := Store.project_eq_ok_iff.1 isBare
  exact .succeed
    ((Gives.modifyProject bareFound _).bind ((Gives.inform _ _ _ _).bind (Gives.pure _ _)))
    ((Gives.modifyProject found _).bind ((Gives.inform _ _ _ _).bind (Gives.pure _ _)))
    (.setProject (state.addVersion _ _) (Session.branchesOf_of_found found).symm fun _ => rfl)

theorem openPatch_branchFree (version : Version) :
    (openPatch name version).Coupled (openPatch name version) session.bare session
      (BranchFree session) := by
  refine Coupled.read (session.project_bare name) ?_
  rintro _ state isBare _ ⟨rfl, found⟩
  refine Coupled.refuseIf rfl fun absent => ?_
  refine Coupled.ofExcept rfl fun released isReleased => ?_
  have bareFound := Store.project_eq_ok_iff.1 isBare
  exact .succeed
    ((Gives.modifyProject bareFound _).bind ((Gives.inform _ _ _ _).bind (Gives.pure _ _)))
    ((Gives.modifyProject found _).bind ((Gives.inform _ _ _ _).bind (Gives.pure _ _)))
    (.setProject (state.addPatch _ _) (Session.branchesOf_of_found found).symm fun _ => rfl)

theorem commit_branchFree (stream : DevelopmentStream) (message : String)
    (changes : List Change) : (commit name stream message changes).Coupled
      (commit name stream message changes) session.bare session (BranchFree session) := by
  refine Coupled.read (session.project_bare name) ?_
  rintro _ state isBare _ ⟨rfl, found⟩
  refine Coupled.ofExcept rfl fun head isHead => ?_
  refine Coupled.ofExcept rfl fun contents changed => ?_
  have bareFound : session.bare.advance.store.projects.get? name = some state.bare :=
    Store.project_eq_ok_iff.1 isBare
  have stillFound : session.advance.store.projects.get? name = some state := found
  exact .succeed
    ((Gives.commit _ _ _ _).bind ((Gives.modifyProject bareFound _).bind (Gives.pure _ _)))
    ((Gives.commit _ _ _ _).bind ((Gives.modifyProject stillFound _).bind (Gives.pure _ _)))
    (.setProject (state.pushRevision _ _) (Session.branchesOf_of_found stillFound).symm
      fun _ => rfl)

end Projects

/-- Every request follows the register. -/
theorem Request.perform_follows (mirrors : register.Mirrors session) (request : Request) :
    Follows request.perform session (register.perform request) := by
  cases request with
  | becomeUser user =>
    exact .onLedger mirrors (.succeed ⟨rfl, rfl⟩ ⟨rfl, rfl⟩ ⟨rfl, rfl, fun _ => rfl⟩)
  | structureVersion => exact .askLedger mirrors _ (by rw [mirrors.ledger]; rfl)
  | createProject name group artifact =>
    exact .onLedger mirrors
      ((Projects.create_branchFree session name group artifact).mapBranchFree _)
  | releaseVersion name version =>
    exact .onLedger mirrors ((Projects.release_branchFree session name version).mapBranchFree _)
  | openPatch name version =>
    exact .onLedger mirrors ((Projects.openPatch_branchFree session name version).mapBranchFree _)
  | commitToStream name stream message changes =>
    exact .onLedger mirrors
      ((Projects.commit_branchFree session name stream message changes).mapBranchFree _)
  | commitToWorkspace => exact (Workspaces.commit_follows mirrors _ _).map _
  | openReview => exact (Reviews.create_follows mirrors).map _
  | listWorkspaces => exact .query mirrors (Register.list_eq mirrors _ _) _
  | listAllWorkspaces => exact .query mirrors (Register.listFor_eq mirrors _ _ _) _
  | getWorkspace => exact .query mirrors (Register.get_eq mirrors) _
  | createWorkspace => exact (Workspaces.create_follows mirrors).map _
  | deleteWorkspace => exact (Workspaces.delete_follows mirrors).map _
  | updateWorkspace => exact (Workspaces.update_follows mirrors).map _
  | isOutdated => exact .query mirrors (Register.isOutdated_eq mirrors) _
  | isInConflict => exact .query mirrors (Register.isInConflict_eq mirrors) _
  | discardBackup => exact (Backups.discard_follows mirrors).map _
  | recoverBackup => exact (Backups.recover_follows mirrors _).map _
  | compareWithCreation => exact .query mirrors (Register.creationComparison_eq mirrors) _
  | compareWithStream => exact .query mirrors (Register.streamComparison_eq mirrors) _
  | dependencies => exact .query mirrors (Register.dependencies_eq mirrors _ _) _
  | workspaceConfiguration => exact .query mirrors (Register.configuration_eq mirrors) _
  | workspaceRevisionConfiguration =>
    exact .query mirrors (Register.revisionConfiguration_eq mirrors _) _
  | compareReviewWithStream => exact .askLedger mirrors _ (mirrors.askProject_eq _ fun _ => rfl)
  | compareReviewWithCreation =>
    exact .askLedger mirrors _ (congrArg (· >>= _) (Reviews.find_eq mirrors _ _ _))
  | streamConfiguration => exact .askLedger mirrors _ (mirrors.askProject_eq _ fun _ => rfl)
  | streamRevisionConfiguration => exact .askLedger mirrors _ (mirrors.askProject_eq _ fun _ => rfl)
  | versionConfiguration => exact .askLedger mirrors _ (mirrors.askProject_eq _ fun _ => rfl)
  | reviewBaseConfiguration =>
    exact .askLedger mirrors _ (congrArg (· >>= _) (Reviews.find_eq mirrors _ _ _))
  | reviewHeadConfiguration =>
    exact .askLedger mirrors _ (congrArg (· >>= _) (Reviews.find_eq mirrors _ _ _))

/-- A register that mirrors a session answers a request as the session does, and mirrors it
afterwards. -/
theorem Register.Mirrors.perform (mirrors : register.Mirrors session) (request : Request) :
    register.answer request = (request.perform.run session).result ∧
      (register.next request).Mirrors (request.perform.run session).session := by
  have follows := request.perform_follows mirrors
  unfold Register.answer Register.next
  cases outcome : register.perform request with
  | error failure =>
    rw [outcome] at follows
    cases follows with
    | fail fails => exact ⟨fails.1.symm, fails.2.symm ▸ mirrors⟩
  | ok answered =>
    rw [outcome] at follows
    cases follows with
    | succeed gives mirrorsAfter => exact ⟨gives.1.symm, gives.2.symm ▸ mirrorsAfter⟩

/-- Mirrors stay mirrors while requests are performed on both sides. -/
theorem Register.Mirrors.after (mirrors : register.Mirrors session) (requests : List Request) :
    (register.after requests).Mirrors (session.after requests) := by
  induction requests generalizing register session with
  | nil => exact mirrors
  | cons request later ih => exact ih (mirrors.perform request).2

end

/-- After every run from an empty store, a register that files branches under specifications
holds what the session holds that stores them under names: the same besides branches, and under
each specification the branch that is stored under its name. Whatever is requested next, by
whichever user, is answered alike by both of them. -/
theorem names_lose_nothing (currentUser : Option String) (structureVersion : Nat)
    (requests : List Request) :
    ((Register.start currentUser structureVersion).after requests).Mirrors
        ((Session.start currentUser structureVersion).after requests) ∧
      ∀ request, ((Register.start currentUser structureVersion).after requests).answer request =
        (request.perform.run
          ((Session.start currentUser structureVersion).after requests)).result := by
  have mirrors := (Register.Mirrors.start currentUser structureVersion).after requests
  exact ⟨mirrors, fun request => (mirrors.perform request).1⟩

/-- An open user is filled in anew for every request: another user does not get at the
workspace of the first one. -/
example : ((Register.start (some "a") 13).after
    [.createProject "p" "g" "a",
      .createWorkspace "p" (.forUser Workspaces.sharedWorkspace.id), .becomeUser "b"]).answer
        (.getWorkspace "p" (.forUser Workspaces.sharedWorkspace.id)) =
    .error (.unknownWorkspace
      { Workspaces.sharedWorkspace with owner := .user (some "b") }) := by
  rfl

end Workstream
