import Mathlib.Data.List.Induction
import Workstream.Proofs.Store.Acknowledgement

/-!
# Lists of changes

The changes of a commit take effect one after the other, so whether one of them can take effect
depends on those before it. Seen from a single path little of this is left: what there is at a
path depends on the last change that names it, and an entity can be deleted when the last
earlier change that names it has put it there, or when none names it and it was there from the
start. `Effect` says what a list leaves behind and `Admissible` when it takes effect at all, both
without the contents in between.

Since nothing else carries over from one change to the next, it makes no difference to the
contents where a list of changes is cut into commits.
-/

namespace Workstream

namespace Change

/-- The change puts or deletes the entity at the path. -/
def names (path : String) : Change → Bool
  | .put target _ => target = path
  | .delete target => target = path
  | .dependencies _ => false

/-- What there is at the path of the change when it has taken effect. -/
def content? : Change → Option String
  | .put _ content => some content
  | .delete _ => none
  | .dependencies _ => none

/-- The dependencies that the change declares, if it is about dependencies. -/
def declared? : Change → Option (SortedSet Dependency)
  | .put _ _ => none
  | .delete _ => none
  | .dependencies declared => some declared

/-- The last change of a list that names a path. -/
def lastNaming? (path : String) (changes : List Change) : Option Change :=
  (changes.filter (·.names path)).getLast?

/-- What there is at a path after a list of changes: what the last change that names the path
leaves there, and what there was before if none names it. -/
def contentAfter (changes : List Change) (entities : Entities) (path : String) :
    Option String :=
  match lastNaming? path changes with
  | some change => change.content?
  | none => entities.get? path

/-- The dependencies after a list of changes: those that were declared last, and what there was
before if none were declared. -/
def dependenciesAfter (changes : List Change) (dependencies : SortedSet Dependency) :
    SortedSet Dependency :=
  (changes.filterMap declared?).getLast?.getD dependencies

/-- There is an entity at a path after some changes of a list. -/
inductive Occupied (earlier : List Change) (entities : Entities) (path : String) : Prop where
  /-- The last change that names the path has put an entity there. -/
  | put {content : String} (last : lastNaming? path earlier = some (.put path content))
  /-- No change names the path, and an entity was there from the start. -/
  | kept {content : String} (unnamed : ∀ change ∈ earlier, change.names path = false)
      (stored : entities.get? path = some content)

/-- The change can take effect after earlier ones. -/
def Permitted (earlier : List Change) (entities : Entities) : Change → Prop
  | .put path _ => Naming.isEntityPath path = true
  | .delete path => Occupied earlier entities path
  | .dependencies _ => True

/-- Every change of a list can take effect when its turn comes. -/
def Admissible (changes : List Change) (entities : Entities) : Prop :=
  ∀ (position : Nat) (change : Change), changes[position]? = some change →
    change.Permitted (changes.take position) entities

/-- What a list of changes makes of some contents. -/
structure Effect (changes : List Change) (before after : Contents) : Prop where
  entities : ∀ path, after.entities.get? path = contentAfter changes before.entities path
  /-- Only the dependencies of the configuration vary, and the last ones count. -/
  configuration : after.configuration =
    { before.configuration with
      dependencies := dependenciesAfter changes before.configuration.dependencies }

section

variable {change : Change} {changes earlier : List Change} {path : String} {entities : Entities}
  {before middle after : Contents}

theorem lastNaming?_concat (path : String) (changes : List Change) (change : Change) :
    lastNaming? path (changes ++ [change]) =
      if change.names path then some change else lastNaming? path changes := by
  by_cases named : change.names path = true
  · simp [lastNaming?, named]
  · simp [lastNaming?, named]

theorem lastNaming?_eq_none_iff :
    lastNaming? path changes = none ↔ ∀ change ∈ changes, change.names path = false := by
  simp [lastNaming?]

/-- The last change that names a path does name it. -/
theorem names_of_lastNaming? (last : lastNaming? path changes = some change) :
    change.names path = true :=
  (List.mem_filter.1 (List.mem_of_getLast? last)).2

/-- The last of some changes decides about the path that it names. -/
theorem contentAfter_concat (changes : List Change) (change : Change) (entities : Entities)
    (path : String) : contentAfter (changes ++ [change]) entities path =
      if change.names path then change.content? else contentAfter changes entities path := by
  unfold contentAfter
  rw [lastNaming?_concat]
  by_cases named : change.names path = true
  · simp [named]
  · simp [named]

/-- The last of some changes decides about the dependencies that it declares. -/
theorem dependenciesAfter_concat (changes : List Change) (change : Change)
    (dependencies : SortedSet Dependency) : dependenciesAfter (changes ++ [change]) dependencies =
      change.declared?.getD (dependenciesAfter changes dependencies) := by
  unfold dependenciesAfter
  cases declares : change.declared? with
  | none => simp [declares]
  | some declared => simp [declares]

/-- A path is occupied when there is something at it. -/
theorem occupied_iff :
    Occupied earlier entities path ↔ (contentAfter earlier entities path).isSome := by
  unfold contentAfter
  constructor
  · rintro (⟨last⟩ | ⟨unnamed, stored⟩)
    · simp [last, content?]
    · simp [lastNaming?_eq_none_iff.2 unnamed, stored]
  · intro present
    cases last : lastNaming? path earlier with
    | none =>
      rw [last] at present
      obtain ⟨content, stored⟩ := Option.isSome_iff_exists.1 present
      exact .kept (lastNaming?_eq_none_iff.1 last) stored
    | some change =>
      rw [last] at present
      cases change with
      | put target content =>
        obtain rfl : target = path := by simpa [names] using names_of_lastNaming? last
        exact .put last
      | delete target => cases present
      | dependencies declared => cases present

/-- An entity can be put at any path of entities. -/
theorem apply_put_eq_ok_iff {content : String} : (put path content).apply before = .ok after ↔
    Naming.isEntityPath path = true ∧
      after = { before with entities := before.entities.insert path content } := by
  by_cases isPath : Naming.isEntityPath path = true
  · simp [apply, isPath, eq_comm]
  · simp [apply, isPath]

/-- An entity can be deleted where there is one. -/
theorem apply_delete_eq_ok_iff : (delete path).apply before = .ok after ↔
    (before.entities.get? path).isSome ∧
      after = { before with entities := before.entities.erase path } := by
  have present : before.entities.contains path = (before.entities.get? path).isSome := rfl
  by_cases occupied : (before.entities.get? path).isSome = true
  · simp [apply, present, occupied, eq_comm]
  · simp [apply, present, occupied]

/-- A change that takes effect decides about the path that it names and about no other. -/
theorem get?_of_apply (applied : change.apply before = .ok after) (path : String) :
    after.entities.get? path =
      if change.names path then change.content? else before.entities.get? path := by
  cases change with
  | put target content =>
    obtain ⟨_, rfl⟩ := apply_put_eq_ok_iff.1 applied
    by_cases same : target = path
    · simp [names, content?, same]
    · simp [names, same, SortedMap.get?_insert_of_ne _ _ (Ne.symm same)]
  | delete target =>
    obtain ⟨_, rfl⟩ := apply_delete_eq_ok_iff.1 applied
    by_cases same : target = path
    · simp [names, content?, same]
    · simp [names, same, SortedMap.get?_erase_of_ne _ (Ne.symm same)]
  | dependencies declared =>
    cases applied
    simp [names]

/-- A change that takes effect varies the configuration only in the dependencies that it
declares. -/
theorem configuration_of_apply (applied : change.apply before = .ok after) :
    after.configuration =
      { before.configuration with
        dependencies := change.declared?.getD before.configuration.dependencies } := by
  cases change with
  | put target content =>
    obtain ⟨_, rfl⟩ := apply_put_eq_ok_iff.1 applied
    rfl
  | delete target =>
    obtain ⟨_, rfl⟩ := apply_delete_eq_ok_iff.1 applied
    rfl
  | dependencies declared =>
    cases applied
    rfl

/-- No changes leave everything as it is. -/
theorem Effect.nil (contents : Contents) : Effect [] contents contents where
  entities _ := rfl
  configuration := rfl

/-- One more change that takes effect adds to the effect of those before it. -/
theorem Effect.concat (effect : Effect changes before middle)
    (applied : change.apply middle = .ok after) : Effect (changes ++ [change]) before after where
  entities path := by
    rw [get?_of_apply applied, effect.entities, contentAfter_concat]
  configuration := by
    rw [configuration_of_apply applied, effect.configuration, dependenciesAfter_concat]

/-- A change takes effect after others exactly when it is permitted after them. -/
theorem Effect.exists_apply_iff (effect : Effect earlier before middle) :
    (∃ after, change.apply middle = .ok after) ↔ change.Permitted earlier before.entities := by
  cases change with
  | put path content => simp [apply_put_eq_ok_iff, Permitted]
  | delete path => simp [apply_delete_eq_ok_iff, Permitted, occupied_iff, effect.entities]
  | dependencies declared => simp [apply, Permitted]

/-- Some changes and then some more are made one after the other. -/
theorem applyAll_append (first second : List Change) (contents : Contents) :
    applyAll (first ++ second) contents = applyAll first contents >>= applyAll second :=
  List.foldlM_append

/-- The last of some changes is made after the others. -/
theorem applyAll_concat_eq_ok_iff : applyAll (changes ++ [change]) before = .ok after ↔
    ∃ middle, applyAll changes before = .ok middle ∧ change.apply middle = .ok after := by
  have single (contents : Contents) : applyAll [change] contents = change.apply contents := by
    simp [applyAll]
  simp only [applyAll_append, bind_eq_ok_iff, single]

/-- A list of changes that takes effect has its effect. -/
theorem effect_of_applyAll (applied : applyAll changes before = .ok after) :
    Effect changes before after := by
  induction changes using List.reverseRecOn generalizing after with
  | nil =>
    cases applied
    exact .nil before
  | append_singleton changes change ih =>
    obtain ⟨middle, first, last⟩ := applyAll_concat_eq_ok_iff.1 applied
    exact (ih first).concat last

/-- The last of some changes has its turn after all others. -/
theorem admissible_concat_iff : Admissible (changes ++ [change]) entities ↔
    Admissible changes entities ∧ change.Permitted changes entities := by
  constructor
  · intro admissible
    constructor
    · intro position other isOther
      obtain ⟨inside, _⟩ := List.getElem?_eq_some_iff.1 isOther
      have permitted := admissible position other (by rwa [List.getElem?_append_left inside])
      rwa [List.take_append_of_le_length (Nat.le_of_lt inside)] at permitted
    · have permitted := admissible changes.length change (by simp)
      rwa [List.take_left] at permitted
  · rintro ⟨admissible, permitted⟩ position other isOther
    rcases Nat.lt_or_ge position changes.length with inside | outside
    · rw [List.getElem?_append_left inside] at isOther
      rw [List.take_append_of_le_length (Nat.le_of_lt inside)]
      exact admissible position other isOther
    · obtain ⟨within, isLast⟩ := List.getElem?_eq_some_iff.1 isOther
      obtain rfl : position = changes.length := by
        rw [List.length_append, List.length_singleton] at within
        omega
      obtain rfl : change = other := by simpa using isLast
      rwa [List.take_left]

/-- A list of changes takes effect exactly when every change can when its turn comes. -/
theorem exists_applyAll_iff :
    (∃ after, applyAll changes before = .ok after) ↔ Admissible changes before.entities := by
  induction changes using List.reverseRecOn with
  | nil => simp [applyAll, Admissible]
  | append_singleton changes change ih =>
    rw [admissible_concat_iff, ← ih]
    constructor
    · rintro ⟨after, applied⟩
      obtain ⟨middle, first, last⟩ := applyAll_concat_eq_ok_iff.1 applied
      exact ⟨⟨middle, first⟩, (effect_of_applyAll first).exists_apply_iff.1 ⟨after, last⟩⟩
    · rintro ⟨⟨middle, first⟩, permitted⟩
      obtain ⟨after, last⟩ := (effect_of_applyAll first).exists_apply_iff.2 permitted
      exact ⟨after, applyAll_concat_eq_ok_iff.2 ⟨middle, first, last⟩⟩

end

end Change

/-- What commits are made to. -/
inductive CommitTarget where
  | toStream (stream : DevelopmentStream)
  | toWorkspace (specification : Specification)

namespace CommitTarget

/-- The request for a commit. -/
def commit (project message : String) (changes : List Change) : CommitTarget → Request
  | .toStream stream => .commitToStream project stream message changes
  | .toWorkspace specification => .commitToWorkspace project specification message changes

/-- The latest revision. -/
def head (project : String) (session : Session) : CommitTarget → Except Failure Snapshot
  | .toStream stream => session.streamHead project stream
  | .toWorkspace specification => do
    let found ← Workspaces.find project specification session
    return found.branch.head

end CommitTarget

/-- The request is not refused. -/
def Request.SucceedsIn (request : Request) (session : Session) : Prop :=
  ∃ answer, (request.perform.run session).result = .ok answer

section

open Workstream.Action

variable {project message : String} {changes : List Change} {session : Session}
  {head : Snapshot} {contents : Contents}

/-- A commit to a stream is made when the changes take effect on the head. -/
theorem Projects.commit_gives {state : Project} {stream : DevelopmentStream}
    (found : session.store.projects.get? project = some state)
    (isHead : state.head project stream = .ok head)
    (changed : Change.applyAll changes head.contents = .ok contents) (message : String) :
    ∃ revision after, (commit project stream message changes).Gives session revision after := by
  have stillFound : session.advance.store.projects.get? project = some state := found
  exact ⟨_, _, (Gives.project found).bind <| (Gives.ofExcept isHead _).bind <|
    (Gives.ofExcept changed _).bind <| (Gives.commit _ _ _ _).bind <|
    (Gives.modifyProject stillFound _).bind (Gives.pure _ _)⟩

/-- A commit to a workspace is made when the changes take effect on the head of its branch. -/
theorem Workspaces.commit_gives {specification : Specification} {found : Found}
    (isFound : find project specification session = .ok found)
    (changed : Change.applyAll changes found.branch.head.contents = .ok contents)
    (message : String) :
    ∃ revision after,
      (commit project specification message changes).Gives session revision after := by
  obtain ⟨_, _, stored, _⟩ := find_eq_ok_iff.1 isFound
  have stillFound : session.advance.store.projects.get? project = some found.project := stored
  exact ⟨_, _, (Gives.read isFound).bind <| (Gives.ofExcept changed _).bind <|
    (Gives.commit _ _ _ _).bind <| (Gives.modifyProject stillFound _).bind (Gives.pure _ _)⟩

namespace CommitTarget

variable {target : CommitTarget}

/-- A commit that is made puts what the changes make of the head at the head. -/
theorem of_succeeds (succeeds : (target.commit project message changes).SucceedsIn session) :
    ∃ former next, target.head project session = .ok former ∧
      target.head project (session.after [target.commit project message changes]) = .ok next ∧
      Change.applyAll changes former.contents = .ok next.contents := by
  obtain ⟨answer, answered⟩ := succeeds
  have gives : (target.commit project message changes).perform.Gives session answer
      (session.after [target.commit project message changes]) := ⟨answered, rfl⟩
  generalize session.after [target.commit project message changes] = after at gives ⊢
  cases target with
  | toStream stream =>
    cases Request.step_of_gives gives with
    | query isQuery _ => cases isQuery
    | commitToStream committed =>
      obtain ⟨former, next, isFormer, isNext, changed, _⟩ := committed.isHead
      exact ⟨former, next, isFormer, isNext, changed⟩
  | toWorkspace specification =>
    cases Request.step_of_gives gives with
    | query isQuery _ => cases isQuery
    | commitToWorkspace committed =>
      obtain ⟨former, next, isFormer, isNext, changed, _⟩ := committed.isHead
      exact ⟨former.branch.head, next.branch.head, bind_eq_ok_iff.2 ⟨former, isFormer, rfl⟩,
        bind_eq_ok_iff.2 ⟨next, isNext, rfl⟩, changed⟩

/-- A commit is made when the changes take effect on the head. -/
theorem succeeds_of_head (isHead : target.head project session = .ok head)
    (changed : Change.applyAll changes head.contents = .ok contents) (message : String) :
    (target.commit project message changes).SucceedsIn session := by
  cases target with
  | toStream stream =>
    have isHead : session.streamHead project stream = .ok head := isHead
    obtain ⟨state, found, isHead⟩ := bind_eq_ok_iff.1 isHead
    obtain ⟨revision, after, gives⟩ :=
      Projects.commit_gives (Store.project_eq_ok_iff.1 found) isHead changed message
    exact ⟨_, (gives.map Answer.revision).1⟩
  | toWorkspace specification =>
    simp only [CommitTarget.head] at isHead
    obtain ⟨found, isFound, isHead⟩ := bind_eq_ok_iff.1 isHead
    obtain rfl : found.branch.head = head := Except.ok.inj isHead
    obtain ⟨revision, after, gives⟩ := Workspaces.commit_gives isFound changed message
    exact ⟨_, (gives.map Answer.revision).1⟩

/-- A commit is made exactly when there is a head and the changes take effect on it. -/
theorem succeeds_iff : (target.commit project message changes).SucceedsIn session ↔
    ∃ head, target.head project session = .ok head ∧
      Change.Admissible changes head.contents.entities := by
  constructor
  · intro succeeds
    obtain ⟨former, _, isFormer, _, applied⟩ := of_succeeds succeeds
    exact ⟨former, isFormer, Change.exists_applyAll_iff.1 ⟨_, applied⟩⟩
  · rintro ⟨head, isHead, admissible⟩
    obtain ⟨contents, changed⟩ := Change.exists_applyAll_iff.2 admissible
    exact succeeds_of_head isHead changed message

/-- A commit of changes that take effect on the head puts their effect at the head. -/
theorem head_after (isHead : target.head project session = .ok head)
    (changed : Change.applyAll changes head.contents = .ok contents) (message : String) :
    ∃ next, target.head project (session.after [target.commit project message changes]) =
      .ok next ∧ next.contents = contents := by
  obtain ⟨former, next, isFormer, isNext, applied⟩ :=
    of_succeeds (succeeds_of_head isHead changed message)
  obtain rfl : head = former := Except.ok.inj (isHead.symm.trans isFormer)
  exact ⟨next, isNext, Except.ok.inj (applied.symm.trans changed)⟩

/-- The first part of a list of changes can be committed on its own, and then the second. -/
theorem succeeds_append_iff {first second : List Change} (firstMessage secondMessage : String) :
    (target.commit project message (first ++ second)).SucceedsIn session ↔
      (target.commit project firstMessage first).SucceedsIn session ∧
        (target.commit project secondMessage second).SucceedsIn
          (session.after [target.commit project firstMessage first]) := by
  constructor
  · intro succeeds
    obtain ⟨former, _, isFormer, _, applied⟩ := of_succeeds succeeds
    rw [Change.applyAll_append] at applied
    obtain ⟨middle, one, two⟩ := bind_eq_ok_iff.1 applied
    obtain ⟨between, isBetween, rfl⟩ := head_after isFormer one firstMessage
    exact ⟨succeeds_of_head isFormer one _, succeeds_of_head isBetween two _⟩
  · rintro ⟨firstSucceeds, secondSucceeds⟩
    obtain ⟨former, between, isFormer, isBetween, one⟩ := of_succeeds firstSucceeds
    obtain ⟨other, last, isOther, _, two⟩ := of_succeeds secondSucceeds
    obtain rfl : between = other := Except.ok.inj (isBetween.symm.trans isOther)
    have applied : Change.applyAll (first ++ second) former.contents = .ok last.contents := by
      rw [Change.applyAll_append]
      exact bind_eq_ok_iff.2 ⟨between.contents, one, two⟩
    exact succeeds_of_head isFormer applied message

/-- The head holds the same whether a list of changes was committed at once or in two parts. -/
theorem head_append {first second : List Change}
    (succeeds : (target.commit project message (first ++ second)).SucceedsIn session)
    (firstMessage secondMessage : String) :
    ∃ once twice,
      target.head project
          (session.after [target.commit project message (first ++ second)]) = .ok once ∧
        target.head project
          (session.after [target.commit project firstMessage first,
            target.commit project secondMessage second]) = .ok twice ∧
        once.contents = twice.contents := by
  obtain ⟨former, once, isFormer, isOnce, applied⟩ := of_succeeds succeeds
  rw [Change.applyAll_append] at applied
  obtain ⟨middle, one, two⟩ := bind_eq_ok_iff.1 applied
  obtain ⟨between, isBetween, rfl⟩ := head_after isFormer one firstMessage
  obtain ⟨twice, isTwice, same⟩ := head_after isBetween two secondMessage
  exact ⟨once, twice, isOnce, isTwice, same.symm⟩

end CommitTarget

end

/-- A list of changes takes effect exactly when every path that is put is the path of an entity
and every path that is deleted is occupied when its turn comes. Then every path holds what the
last change that names it leaves there, the dependencies are those that were declared last, and
nothing else has changed. A commit to a stream or to a workspace succeeds exactly when there is a
head and the changes take effect on it, and puts at the head what they make of it. So a commit of
two lists of changes, one after the other, succeeds exactly when a commit of the first list and
then one of the second both do, and the head holds the same in the end. -/
theorem changes_take_effect_in_turn :
    (∀ changes head, (∃ after, Change.applyAll changes head = .ok after) ↔
      Change.Admissible changes head.entities) ∧
    (∀ changes head after, Change.applyAll changes head = .ok after →
      Change.Effect changes head after) ∧
    (∀ session project (target : CommitTarget) message changes,
      ((target.commit project message changes).SucceedsIn session ↔
        ∃ head, target.head project session = .ok head ∧
          Change.Admissible changes head.contents.entities) ∧
      ((target.commit project message changes).SucceedsIn session →
        ∃ former next, target.head project session = .ok former ∧
          target.head project (session.after [target.commit project message changes]) =
            .ok next ∧
          Change.applyAll changes former.contents = .ok next.contents)) ∧
    ∀ session project (target : CommitTarget) message firstMessage secondMessage first second,
      ((target.commit project message (first ++ second)).SucceedsIn session ↔
        (target.commit project firstMessage first).SucceedsIn session ∧
          (target.commit project secondMessage second).SucceedsIn
            (session.after [target.commit project firstMessage first])) ∧
      ((target.commit project message (first ++ second)).SucceedsIn session →
        ∃ once twice,
          target.head project
              (session.after [target.commit project message (first ++ second)]) = .ok once ∧
            target.head project
              (session.after [target.commit project firstMessage first,
                target.commit project secondMessage second]) = .ok twice ∧
            once.contents = twice.contents) := by
  refine ⟨fun _ _ => Change.exists_applyAll_iff, fun _ _ _ => Change.effect_of_applyAll,
    fun _ _ _ _ _ => ⟨CommitTarget.succeeds_iff, CommitTarget.of_succeeds⟩, ?_⟩
  intro session project target message firstMessage secondMessage first second
  exact ⟨CommitTarget.succeeds_append_iff firstMessage secondMessage,
    fun succeeds => CommitTarget.head_append succeeds firstMessage secondMessage⟩

/-- Changes that put an entity, delete it and put it again. -/
def rewrites : List Change := [.put "b::f" "first", .delete "b::f", .put "b::f" "second"]

/-- The release that is declared as a dependency. -/
def declaredRelease : Dependency where
  project := "l"
  version := ⟨⟨8, by decide⟩, ⟨9, by decide⟩, ⟨10, by decide⟩⟩

/-- Changes that delete the entity once more and declare a dependency. -/
def retreats : List Change := [.delete "b::f", .dependencies (.ofList [declaredRelease])]

/-- The deletions find the entity that was put last, so all changes take effect, at once or in
two commits, and in the end nothing is left but the dependency. -/
theorem changes_take_effect_in_turn_rewritten :
    ∃ head after once twice,
      (CommitTarget.toStream .mainLine).head "p" startedSession = .ok head ∧
      Change.applyAll (rewrites ++ retreats) head.contents = .ok after ∧
      Change.Admissible (rewrites ++ retreats) head.contents.entities ∧
      after.entities.get? "b::f" = none ∧
      after.configuration.dependencies.toList = [declaredRelease] ∧
      (CommitTarget.toStream .mainLine).head "p" (startedSession.after
        [.commitToStream "p" .mainLine "all" (rewrites ++ retreats)]) = .ok once ∧
      (CommitTarget.toStream .mainLine).head "p" (startedSession.after
        [.commitToStream "p" .mainLine "first" rewrites,
          .commitToStream "p" .mainLine "second" retreats]) = .ok twice ∧
      once.contents = after ∧ once.contents = twice.contents := by
  obtain ⟨admissible, effect, commits, cuts⟩ := changes_take_effect_in_turn
  have answered : ((Request.commitToStream "p" .mainLine "all"
      (rewrites ++ retreats)).perform.run startedSession).result.toBool := by decide +kernel
  have succeeds : ((CommitTarget.toStream .mainLine).commit "p" "all"
      (rewrites ++ retreats)).SucceedsIn startedSession := by
    cases value : ((Request.commitToStream "p" .mainLine "all"
        (rewrites ++ retreats)).perform.run startedSession).result with
    | ok answer => exact ⟨answer, value⟩
    | error failure => simp [value, Except.toBool] at answered
  obtain ⟨_, heads⟩ := commits startedSession "p" (.toStream .mainLine) "all"
    (rewrites ++ retreats)
  obtain ⟨head, next, isHead, isNext, applied⟩ := heads succeeds
  obtain ⟨_, ends⟩ := cuts startedSession "p" (.toStream .mainLine) "all" "first" "second"
    rewrites retreats
  obtain ⟨once, twice, isOnce, isTwice, same⟩ := ends succeeds
  obtain rfl : next = once := Except.ok.inj (isNext.symm.trans isOnce)
  have left := effect _ _ _ applied
  refine ⟨head, next.contents, next, twice, isHead, applied, (admissible _ _).1 ⟨_, applied⟩,
    left.entities "b::f", ?_, isOnce, isTwice, rfl, same⟩
  rw [left.configuration]
  rfl

end Workstream
