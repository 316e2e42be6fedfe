import Workstream.Store.Merge

/-!
# Merges path by path

A merge is computed from two lists of edits, one of which is replayed on the head of the
stream. Seen from a single path nothing of this is left: a path conflicts when both sides
differ from the base and from each other, and the merged content is that of the stream
there, that of the workspace where only the workspace differs from the base, and that of
the stream everywhere else. An absent path counts as a content of its own.
-/

namespace Workstream

namespace EntityEdit

/-- The content that an edit leaves behind. -/
def content? : EntityEdit → Option String
  | .write content => some content
  | .remove => none

/-- The edit that leaves a content behind. -/
def leaving : Option String → EntityEdit
  | some content => .write content
  | none => .remove

@[simp] theorem content?_leaving (content : Option String) :
    (leaving content).content? = content := by
  cases content <;> rfl

@[simp] theorem leaving_inj {first second : Option String} :
    leaving first = leaving second ↔ first = second := by
  constructor
  · intro same
    rw [← content?_leaving first, same, content?_leaving]
  · rintro rfl
    rfl

end EntityEdit

namespace Entities

/-- Removals that are added to a map of edits stand at their paths. -/
theorem get?_foldl_remove (paths : List String) (edits : SortedMap String EntityEdit)
    (path : String) :
    (paths.foldl (fun edits path => edits.insert path .remove) edits).get? path =
      if path ∈ paths then some .remove else edits.get? path := by
  induction paths generalizing edits with
  | nil => simp
  | cons first rest ih =>
    rw [List.foldl_cons, ih]
    by_cases later : path ∈ rest
    · simp [later]
    · by_cases same : path = first
      · subst same
        simp
      · simp [later, same, SortedMap.get?_insert_of_ne _ _ same]

/-- There is an edit exactly at the paths where the two sides differ, and it leaves behind
what the target holds. -/
theorem get?_edits (base target : Entities) (path : String) :
    (base.edits target).get? path =
      if target.get? path = base.get? path then none
      else some (.leaving (target.get? path)) := by
  unfold edits
  rw [get?_foldl_remove, SortedMap.get?_filterMap]
  simp only [List.mem_filter, SortedMap.mem_keys_iff, SortedMap.contains, Bool.not_eq_true',
    Option.isSome_eq_false_iff, Option.isNone_iff_eq_none]
  cases target.get? path with
  | none =>
    cases base.get? path with
    | none => simp
    | some old => simp [EntityEdit.leaving]
  | some content =>
    by_cases same : base.get? path = some content
    · simp [same]
    · simp [same, Ne.symm same, EntityEdit.leaving]

/-- There is an edit exactly at the paths where the two sides differ. -/
theorem contains_edits_iff {base target : Entities} {path : String} :
    (base.edits target).contains path = true ↔ base.get? path ≠ target.get? path := by
  rw [SortedMap.contains, get?_edits]
  by_cases same : target.get? path = base.get? path
  · simp [same]
  · simp [same, Ne.symm same]

/-- An edit leaves behind what the target holds. -/
theorem map_content?_get?_edits (base target : Entities) (path : String) :
    ((base.edits target).get? path).map EntityEdit.content? =
      if base.get? path = target.get? path then none else some (target.get? path) := by
  rw [get?_edits]
  by_cases same : target.get? path = base.get? path
  · simp [same]
  · simp [same, Ne.symm same]

/-- Nothing has to be done to get what is there already. -/
theorem edits_self (entities : Entities) : entities.edits entities = ∅ := by
  apply SortedMap.ext
  intro path
  rw [get?_edits, if_pos rfl]
  rfl

/-- An edit acts on its own path only. -/
theorem get?_edit (entities : Entities) (path wanted : String) (edit : EntityEdit) :
    (entities.edit path edit).get? wanted =
      if wanted = path then edit.content? else entities.get? wanted := by
  by_cases same : wanted = path
  · subst same
    cases edit <;> simp [Entities.edit, EntityEdit.content?]
  · cases edit
    · simp [Entities.edit, same, SortedMap.get?_insert_of_ne _ _ same]
    · simp [Entities.edit, same, SortedMap.get?_erase_of_ne _ same]

/-- The entities after a list of edits. -/
def replay (edits : List (String × EntityEdit)) (entities : Entities) : Entities :=
  edits.foldl (fun entities (path, edit) => entities.edit path edit) entities

/-- A path without an edit keeps its content. -/
theorem get?_replay_of_not_mem {edits : List (String × EntityEdit)} {path : String}
    (absent : path ∉ edits.map (·.1)) (entities : Entities) :
    (replay edits entities).get? path = entities.get? path := by
  induction edits generalizing entities with
  | nil => rfl
  | cons first rest ih =>
    simp only [List.map_cons, List.mem_cons, not_or] at absent
    refine (ih absent.2 (entities.edit first.1 first.2)).trans ?_
    rw [get?_edit, if_neg absent.1]

/-- Where every path has one edit at most, an edit determines the content of its path. -/
theorem get?_replay_of_mem {edits : List (String × EntityEdit)} {path : String}
    {edit : EntityEdit} (distinct : (edits.map (·.1)).Nodup) (member : (path, edit) ∈ edits)
    (entities : Entities) : (replay edits entities).get? path = edit.content? := by
  induction edits generalizing entities with
  | nil => cases member
  | cons first rest ih =>
    rw [List.map_cons, List.nodup_cons] at distinct
    rcases List.mem_cons.1 member with rfl | later
    · refine (get?_replay_of_not_mem distinct.1 (entities.edit path edit)).trans ?_
      rw [get?_edit, if_pos rfl]
    · exact ih distinct.2 later (entities.edit first.1 first.2)

/-- A map of edits leaves behind on each path what the edit there does, and what was there
before when there is none. -/
theorem get?_replay_entries (edits : SortedMap String EntityEdit) (entities : Entities)
    (path : String) : (replay edits.entries entities).get? path =
      ((edits.get? path).map EntityEdit.content?).getD (entities.get? path) := by
  have distinct : edits.keys.Nodup := SortedMap.nodup_of_ascending id edits.keys_ascending
  cases found : edits.get? path with
  | none =>
    have absent : path ∉ edits.keys := by simp [found]
    exact get?_replay_of_not_mem absent entities
  | some edit => exact get?_replay_of_mem distinct (SortedMap.mem_entries_iff.2 found) entities

/-- The edits between two sides lead from the one to the other. -/
theorem replay_edits (base target : Entities) :
    replay (base.edits target).entries base = target := by
  apply SortedMap.ext
  intro path
  rw [get?_replay_entries, get?_edits]
  by_cases same : target.get? path = base.get? path
  · simp [same]
  · simp [same]

end Entities

namespace Merge

section

variable (base ours theirs : Entities)

/-- Both sides differ from the base on a path, and from each other. -/
def Conflicting (path : String) : Prop :=
  ours.get? path ≠ base.get? path ∧ theirs.get? path ≠ base.get? path ∧
    ours.get? path ≠ theirs.get? path

instance (path : String) : Decidable (Conflicting base ours theirs path) :=
  inferInstanceAs (Decidable (_ ∧ _))

/-- What a merge holds on a path. -/
def merged (path : String) : Option String :=
  if Conflicting base ours theirs path then theirs.get? path
  else if ours.get? path ≠ base.get? path then ours.get? path
  else theirs.get? path

end

variable {base ours theirs : Contents}

/-- The other side clashes with an edit when it leaves something else behind and not what
the base holds. -/
theorem clashes_edits_iff {base theirs : Entities} {path : String} {content : Option String} :
    clashes (base.edits theirs) path (.leaving content) ↔
      theirs.get? path ≠ base.get? path ∧ content ≠ theirs.get? path := by
  unfold clashes
  rw [Entities.get?_edits]
  by_cases same : theirs.get? path = base.get? path
  · simp [same]
  · simp only [if_neg same, ne_eq, decide_eq_true_eq, EntityEdit.leaving_inj]
    exact ⟨fun differs => ⟨same, fun equal => differs equal.symm⟩,
      fun both equal => both.2 equal.symm⟩

/-- The conflicts of a merge are the conflicting paths. -/
theorem mem_conflicts_iff {path : String} :
    path ∈ (Merge.of base ours theirs).conflicts ↔
      Conflicting base.entities ours.entities theirs.entities path := by
  simp only [Merge.of, List.mem_map, List.mem_filter, Prod.exists, exists_and_right,
    exists_eq_right, SortedMap.mem_entries_iff, Entities.get?_edits, Option.ite_none_left_eq_some,
    Option.some.injEq]
  constructor
  · rintro ⟨edit, ⟨changed, rfl⟩, clash⟩
    obtain ⟨otherChanged, differs⟩ := clashes_edits_iff.1 clash
    exact ⟨changed, otherChanged, differs⟩
  · rintro ⟨changed, otherChanged, differs⟩
    exact ⟨_, ⟨changed, rfl⟩, clashes_edits_iff.2 ⟨otherChanged, differs⟩⟩

/-- The paths of some of the edits are listed in strictly ascending order. -/
theorem filter_entries_ascending (edits : SortedMap String EntityEdit)
    (keep : String × EntityEdit → Bool) :
    ((edits.entries.filter keep).map (·.1)).Pairwise (· < ·) := by
  have kept : List.Sublist ((edits.entries.filter keep).map (·.1)) edits.keys :=
    List.filter_sublist.map _
  exact (edits.keys_ascending.sublist kept).imp compareOfLessAndEq_eq_lt.1

/-- The conflicts of a merge are listed in ascending order. -/
theorem conflicts_ascending (base ours theirs : Contents) :
    (Merge.of base ours theirs).conflicts.Pairwise (· < ·) :=
  filter_entries_ascending _ _

/-- A merge holds on each path what the three sides say there. -/
theorem get?_contents (path : String) :
    (Merge.of base ours theirs).contents.entities.get? path =
      merged base.entities ours.entities theirs.entities path := by
  let edits := base.entities.edits ours.entities
  let conflicts := (Merge.of base ours theirs).conflicts
  let carried := edits.entries.filter fun (path, _) => path ∉ conflicts
  have replayed : (Merge.of base ours theirs).contents.entities =
      Entities.replay carried theirs.entities := rfl
  have distinct : (carried.map (·.1)).Nodup :=
    (filter_entries_ascending edits _).imp fun smaller same => absurd smaller (by simp [same])
  have mem_carried : ∀ edit, (path, edit) ∈ carried ↔
      edits.get? path = some edit ∧ path ∉ conflicts := by
    intro edit
    simp [carried]
  rw [replayed, merged]
  by_cases conflicting : Conflicting base.entities ours.entities theirs.entities path
  · have absent : path ∉ carried.map (·.1) := by
      intro member
      obtain ⟨⟨_, edit⟩, listed, rfl⟩ := List.mem_map.1 member
      exact ((mem_carried edit).1 listed).2 (mem_conflicts_iff.2 conflicting)
    rw [Entities.get?_replay_of_not_mem absent, if_pos conflicting]
  · rw [if_neg conflicting]
    by_cases changed : ours.entities.get? path = base.entities.get? path
    · have absent : path ∉ carried.map (·.1) := by
        intro member
        obtain ⟨⟨_, edit⟩, listed, rfl⟩ := List.mem_map.1 member
        have found := ((mem_carried edit).1 listed).1
        simp [edits, Entities.get?_edits, changed] at found
      rw [Entities.get?_replay_of_not_mem absent, if_neg fun differs => differs changed]
    · have listed : (path, .leaving (ours.entities.get? path)) ∈ carried := by
        refine (mem_carried _).2 ⟨?_, fun member => conflicting (mem_conflicts_iff.1 member)⟩
        simp [edits, Entities.get?_edits, changed]
      rw [Entities.get?_replay_of_mem distinct listed, if_pos changed,
        EntityEdit.content?_leaving]

/-- A workspace has nothing to carry over when it holds what the base holds. -/
theorem carriesOver_eq_false_iff :
    (Merge.of base ours theirs).carriesOver = false ↔
      ours.entities = base.entities ∧ ours.configuration = base.configuration := by
  have unedited : (base.entities.edits ours.entities).isEmpty ↔
      ours.entities = base.entities := by
    rw [SortedMap.isEmpty_iff]
    constructor
    · intro empty
      apply SortedMap.ext
      intro path
      simpa [Entities.get?_edits] using empty path
    · intro same path
      simp [Entities.get?_edits, same]
  simp [Merge.of, ← unedited]

/-- On a path that does not conflict and that the workspace has not changed, a merge holds
what the stream holds. -/
theorem merged_of_unchanged {base ours theirs : Entities} {path : String}
    (unchanged : ours.get? path = base.get? path) :
    merged base ours theirs path = theirs.get? path := by
  simp [merged, Conflicting, unchanged]

end Merge

end Workstream
