import Workstream.Proofs.Store.ThreeWay

/-!
# Differences path by path

A comparison is listed from the edits between two sets of entities, each of them classified by
a lookup in the base. Seen from a single path, it names the path exactly when the two sides
differ there, and the kind of the change says on which of them there is a content. Since the
paths ascend, this determines the whole list; so two lists are the same when they have the same
to say on every path.

A merge without conflicts leaves of the differences of the workspace those that the stream does
not have as well, and their kinds stay what they were. In the other direction the same paths
differ, where entities are created instead of deleted and the other way round.
-/

namespace Workstream

/-- The kind of the change from one content of a path to a different one. -/
def EntityChange.between : Option String → Option String → EntityChange
  | _, none => .delete
  | none, some _ => .create
  | some _, some _ => .modify

/-- The kind of a change that is seen in the other direction. -/
def EntityChange.reverse : EntityChange → EntityChange
  | .create => .delete
  | .delete => .create
  | .modify => .modify

/-- A difference that is seen in the other direction. -/
def EntityDifference.reverse (difference : EntityDifference) : EntityDifference :=
  { difference with change := difference.change.reverse }

/-- The change back from a different content is the reverse of the change to it. -/
theorem EntityChange.reverse_between {first second : Option String} (differs : first ≠ second) :
    (between first second).reverse = between second first := by
  cases first <;> cases second
  case none.none => exact absurd rfl differs
  all_goals rfl

namespace Comparison

variable {base target ours theirs joined : Entities}

/-- An edit is classified by what it leaves behind and what was there before. -/
theorem classify_leaving (base : Entities) (path : String) (content : Option String) :
    classify base path (.leaving content) = .between (base.get? path) content := by
  unfold classify SortedMap.contains
  cases content <;> cases base.get? path <;> rfl

/-- A path is listed when the two sides differ there, with the kind of the change. -/
theorem mem_differencesOf_iff {difference : EntityDifference} :
    difference ∈ differencesOf base target ↔
      target.get? difference.path ≠ base.get? difference.path ∧
        difference.change =
          .between (base.get? difference.path) (target.get? difference.path) := by
  simp only [differencesOf, List.mem_map, Prod.exists, SortedMap.mem_entries_iff,
    Entities.get?_edits, Option.ite_none_left_eq_some, Option.some.injEq]
  constructor
  · rintro ⟨path, _, ⟨differs, rfl⟩, rfl⟩
    exact ⟨differs, classify_leaving base path _⟩
  · rintro ⟨differs, kind⟩
    refine ⟨difference.path, _, ⟨differs, rfl⟩, ?_⟩
    rw [classify_leaving, ← kind]

/-- The paths are listed in ascending order. -/
theorem differencesOf_ascending (base target : Entities) :
    (differencesOf base target).Pairwise fun earlier later =>
      compare earlier.path later.path = .lt :=
  List.pairwise_map.2 (base.edits target).ascending

/-- The paths are listed in ascending order, as texts are. -/
theorem paths_ascending (base target : Entities) :
    (differencesOf base target).Pairwise fun earlier later => earlier.path < later.path :=
  (differencesOf_ascending base target).imp compareOfLessAndEq_eq_lt.1

section

variable {path : String}

/-- What is created is what only the target holds. -/
theorem create_mem_iff : ⟨path, .create⟩ ∈ differencesOf base target ↔
    base.contains path = false ∧ target.contains path = true := by
  rw [mem_differencesOf_iff, SortedMap.contains, SortedMap.contains]
  cases base.get? path <;> cases target.get? path <;> simp [EntityChange.between]

/-- What is deleted is what only the base holds. -/
theorem delete_mem_iff : ⟨path, .delete⟩ ∈ differencesOf base target ↔
    base.contains path = true ∧ target.contains path = false := by
  rw [mem_differencesOf_iff, SortedMap.contains, SortedMap.contains]
  cases base.get? path <;> cases target.get? path <;> simp [EntityChange.between]

/-- What is modified is what both sides hold, with different contents. -/
theorem modify_mem_iff : ⟨path, .modify⟩ ∈ differencesOf base target ↔
    base.contains path = true ∧ target.contains path = true ∧
      base.get? path ≠ target.get? path := by
  rw [mem_differencesOf_iff, SortedMap.contains, SortedMap.contains]
  cases base.get? path <;> cases target.get? path <;> simp [EntityChange.between, eq_comm]

end

/-- The differences in the other direction are on the same paths, with the changes reversed. -/
theorem differencesOf_swap (base target : Entities) :
    differencesOf target base = (differencesOf base target).map EntityDifference.reverse := by
  have ascending : ((differencesOf base target).map EntityDifference.reverse).Pairwise
      fun earlier later => compare earlier.path later.path = .lt :=
    List.pairwise_map.2 (differencesOf_ascending base target)
  refine SortedMap.eq_of_ascending (·.path) (differencesOf_ascending _ _) ascending
    fun difference => ?_
  rw [mem_differencesOf_iff, List.mem_map]
  constructor
  · rintro ⟨differs, kind⟩
    refine ⟨⟨difference.path, .between (base.get? difference.path)
      (target.get? difference.path)⟩, mem_differencesOf_iff.2 ⟨differs.symm, rfl⟩, ?_⟩
    rw [EntityDifference.reverse, EntityChange.reverse_between differs, ← kind]
  · rintro ⟨original, listed, rfl⟩
    obtain ⟨differs, kind⟩ := mem_differencesOf_iff.1 listed
    refine ⟨differs.symm, ?_⟩
    rw [EntityDifference.reverse, kind, EntityChange.reverse_between differs.symm]

/-- Where nothing conflicts, what a merge holds on a path differs from the stream exactly where
the workspace differs from its base and from the stream. There it is what the workspace holds,
and the stream holds what the base holds. -/
theorem merged_ne_iff {path : String} (peaceful : ¬ Merge.Conflicting base ours theirs path) :
    Merge.merged base ours theirs path ≠ theirs.get? path ↔
      ours.get? path ≠ base.get? path ∧ ours.get? path ≠ theirs.get? path := by
  by_cases unchanged : ours.get? path = base.get? path
  · simp [Merge.merged_of_unchanged unchanged, unchanged]
  · simp [Merge.merged, peaceful, unchanged]

/-- Where nothing conflicts and both the workspace and the merge differ from the stream, the
merge changes what the workspace has changed. -/
theorem between_merged {path : String} (peaceful : ¬ Merge.Conflicting base ours theirs path)
    (changed : ours.get? path ≠ base.get? path) (apart : ours.get? path ≠ theirs.get? path) :
    EntityChange.between (theirs.get? path) (Merge.merged base ours theirs path) =
      .between (base.get? path) (ours.get? path) := by
  have kept : theirs.get? path = base.get? path :=
    Decidable.byContradiction fun other => peaceful ⟨changed, other, apart⟩
  simp [Merge.merged, peaceful, changed, kept]

/-- A merge without conflicts differs from the stream by the differences of the workspace from
its base, except on the paths where the workspace and the stream hold the same. -/
theorem differencesOf_merged
    (isMerged : ∀ path, joined.get? path = Merge.merged base ours theirs path)
    (peaceful : ∀ path, ¬ Merge.Conflicting base ours theirs path) :
    differencesOf theirs joined = (differencesOf base ours).filter fun difference =>
      ours.get? difference.path ≠ theirs.get? difference.path := by
  refine SortedMap.eq_of_ascending (·.path) (differencesOf_ascending _ _)
    ((differencesOf_ascending _ _).filter _) fun difference => ?_
  simp only [List.mem_filter, mem_differencesOf_iff, isMerged, decide_eq_true_eq]
  rw [merged_ne_iff (peaceful _)]
  constructor
  · rintro ⟨⟨changed, apart⟩, kind⟩
    exact ⟨⟨changed, kind.trans (between_merged (peaceful _) changed apart)⟩, apart⟩
  · rintro ⟨⟨changed, kind⟩, apart⟩
    exact ⟨⟨changed, apart⟩, kind.trans (between_merged (peaceful _) changed apart).symm⟩

/-- Edits lead from a base to a target, and there is one exactly where the two differ. It leaves
behind what the target holds. A comparison lists what differs by ascending paths: as created what
only the second snapshot holds, as deleted what only the first one holds, and as modified what
both hold with different contents. In the other direction the same paths are listed, and created
and deleted are exchanged. -/
theorem differences_exact (base target : Entities) (first second : Snapshot) :
    (∀ path, (base.edits target).contains path = true ↔ base.get? path ≠ target.get? path) ∧
    (∀ path, ((base.edits target).get? path).map EntityEdit.content? =
      if base.get? path = target.get? path then none else some (target.get? path)) ∧
    Entities.replay (base.edits target).entries base = target ∧
    ((Comparison.of first second).differences.Pairwise fun earlier later =>
      earlier.path < later.path) ∧
    (∀ path,
      (⟨path, .create⟩ ∈ (Comparison.of first second).differences ↔
        first.contents.entities.contains path = false ∧
          second.contents.entities.contains path = true) ∧
      (⟨path, .delete⟩ ∈ (Comparison.of first second).differences ↔
        first.contents.entities.contains path = true ∧
          second.contents.entities.contains path = false) ∧
      (⟨path, .modify⟩ ∈ (Comparison.of first second).differences ↔
        first.contents.entities.contains path = true ∧
          second.contents.entities.contains path = true ∧
          first.contents.entities.get? path ≠ second.contents.entities.get? path)) ∧
    (Comparison.of second first).differences =
      (Comparison.of first second).differences.map EntityDifference.reverse := by
  refine ⟨fun path => Entities.contains_edits_iff, Entities.map_content?_get?_edits base target,
    Entities.replay_edits base target, paths_ascending _ _, fun path => ?_,
    differencesOf_swap _ _⟩
  exact ⟨create_mem_iff, delete_mem_iff, modify_mem_iff⟩

example : differencesOf (.ofList [("a::kept", "1"), ("a::lost", "2"), ("a::other", "3")])
    (.ofList [("a::kept", "1"), ("a::new", "2"), ("a::other", "4")]) =
      [⟨"a::lost", .delete⟩, ⟨"a::new", .create⟩, ⟨"a::other", .modify⟩] := by
  decide +kernel

end Comparison

end Workstream
