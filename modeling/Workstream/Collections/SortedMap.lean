/-!
# Sorted maps

A `SortedMap` holds at most one value per key and lists its entries in ascending
key order. The order is part of the type, so two maps with the same lookups are
equal, and every listing of keys is sorted without a further step.

The lookup equations (`get?_insert`, `get?_erase`, `get?_filterMap`) say what each
operation does; nothing else about the entry list has to be known to use a map.
-/

namespace Workstream

universe u v w

/-- Entries in strictly ascending key order. -/
structure SortedMap (Key : Type u) (Value : Type v) [Ord Key] where
  /-- The entries, smallest key first. -/
  entries : List (Key × Value)
  ascending : entries.Pairwise (fun earlier later => compare earlier.1 later.1 = .lt)

namespace SortedMap

variable {Key : Type u} {Value : Type v} {Result : Type w} [Ord Key]

/-- The value of the first entry with this key. -/
def lookupEntry (key : Key) : List (Key × Value) → Option Value
  | [] => none
  | (candidate, value) :: rest =>
    match compare key candidate with
    | .eq => some value
    | _ => lookupEntry key rest

/-- An ascending list with the value of one key set. -/
def insertEntry (key : Key) (value : Value) : List (Key × Value) → List (Key × Value)
  | [] => [(key, value)]
  | (candidate, old) :: rest =>
    match compare key candidate with
    | .lt => (key, value) :: (candidate, old) :: rest
    | .eq => (key, value) :: rest
    | .gt => (candidate, old) :: insertEntry key value rest

/-- An entry of the extended list is the new one or an old one. -/
theorem mem_insertEntry {key : Key} {value : Value} {entry : Key × Value}
    {entries : List (Key × Value)} (member : entry ∈ insertEntry key value entries) :
    entry = (key, value) ∨ entry ∈ entries := by
  induction entries with
  | nil => simpa [insertEntry] using member
  | cons head rest ih =>
    obtain ⟨candidate, old⟩ := head
    unfold insertEntry at member
    split at member
    · rcases List.mem_cons.1 member with found | found
      · exact .inl found
      · exact .inr found
    · rcases List.mem_cons.1 member with found | found
      · exact .inl found
      · exact .inr (List.mem_cons_of_mem _ found)
    · rcases List.mem_cons.1 member with found | found
      · exact .inr (found ▸ List.mem_cons_self)
      · rcases ih found with found | found
        · exact .inl found
        · exact .inr (List.mem_cons_of_mem _ found)

variable [Std.TransOrd Key] [Std.LawfulEqOrd Key]

/-- Setting a key keeps the entries ascending. -/
theorem insertEntry_ascending (key : Key) (value : Value) {entries : List (Key × Value)}
    (ascending : entries.Pairwise (fun earlier later => compare earlier.1 later.1 = .lt)) :
    (insertEntry key value entries).Pairwise
      (fun earlier later => compare earlier.1 later.1 = .lt) := by
  induction entries with
  | nil => simp [insertEntry]
  | cons head rest ih =>
    obtain ⟨candidate, old⟩ := head
    have below := (List.pairwise_cons.1 ascending).1
    have tail := (List.pairwise_cons.1 ascending).2
    unfold insertEntry
    split
    · rename_i smaller
      refine List.pairwise_cons.2 ⟨?_, ascending⟩
      intro entry member
      rcases List.mem_cons.1 member with rfl | member
      · exact smaller
      · exact Std.TransCmp.lt_trans smaller (below entry member)
    · rename_i same
      have equal : key = candidate := Std.LawfulEqOrd.eq_of_compare same
      exact List.pairwise_cons.2 ⟨fun entry member => equal ▸ below entry member, tail⟩
    · rename_i larger
      refine List.pairwise_cons.2 ⟨?_, ih tail⟩
      intro entry member
      rcases mem_insertEntry member with rfl | member
      · exact Std.OrientedCmp.lt_of_gt larger
      · exact below entry member

omit [Std.TransOrd Key] in
/-- What a lookup finds is an entry. -/
theorem mem_of_lookupEntry {key : Key} {value : Value} {entries : List (Key × Value)}
    (found : lookupEntry key entries = some value) : (key, value) ∈ entries := by
  induction entries with
  | nil => simp [lookupEntry] at found
  | cons head rest ih =>
    obtain ⟨candidate, old⟩ := head
    unfold lookupEntry at found
    split at found
    · rename_i same
      have equal : key = candidate := Std.LawfulEqOrd.eq_of_compare same
      simp_all
    · exact List.mem_cons_of_mem _ (ih found)

/-- Every entry of an ascending list is found under its key. -/
theorem lookupEntry_of_mem {key : Key} {value : Value} {entries : List (Key × Value)}
    (ascending : entries.Pairwise (fun earlier later => compare earlier.1 later.1 = .lt))
    (member : (key, value) ∈ entries) : lookupEntry key entries = some value := by
  induction entries with
  | nil => simp at member
  | cons head rest ih =>
    obtain ⟨candidate, old⟩ := head
    have below := (List.pairwise_cons.1 ascending).1
    rcases List.mem_cons.1 member with equal | member
    · obtain ⟨rfl, rfl⟩ := Prod.mk.inj equal
      simp [lookupEntry, Std.ReflCmp.compare_self]
    · have larger : compare key candidate = .gt :=
        Std.OrientedCmp.gt_of_lt (below (key, value) member)
      simp only [lookupEntry, larger]
      exact ih (List.pairwise_cons.1 ascending).2 member

theorem lookupEntry_insertEntry (key wanted : Key) (value : Value)
    (entries : List (Key × Value)) :
    lookupEntry wanted (insertEntry key value entries) =
      if compare wanted key = .eq then some value else lookupEntry wanted entries := by
  induction entries with
  | nil =>
    simp only [insertEntry, lookupEntry]
    split <;> simp_all
  | cons head rest ih =>
    obtain ⟨candidate, old⟩ := head
    unfold insertEntry
    split
    · simp only [lookupEntry]
      split <;> simp_all
    · rename_i same
      have equal : key = candidate := Std.LawfulEqOrd.eq_of_compare same
      subst equal
      simp only [lookupEntry]
      split <;> simp_all
    · rename_i larger
      simp only [lookupEntry, ih]
      split
      · rename_i found
        have equal : wanted = candidate := Std.LawfulEqOrd.eq_of_compare found
        subst equal
        have differs : compare wanted key = .lt := Std.OrientedCmp.lt_of_gt larger
        simp [differs]
      · rfl

omit [Std.TransOrd Key] [Std.LawfulEqOrd Key] in
/-- Setting a key that no entry has adds an entry. -/
theorem length_insertEntry {key : Key} {entries : List (Key × Value)}
    (absent : lookupEntry key entries = none) (value : Value) :
    (insertEntry key value entries).length = entries.length + 1 := by
  induction entries with
  | nil => rfl
  | cons head rest ih =>
    obtain ⟨candidate, old⟩ := head
    unfold lookupEntry at absent
    unfold insertEntry
    split <;> simp_all

section

variable {Item : Type w} (key : Item → Key) {first second : List Item}

omit [Std.LawfulEqOrd Key] in
/-- Nothing is listed twice in ascending order. -/
theorem nodup_of_ascending
    (ascending : first.Pairwise (fun earlier later => compare (key earlier) (key later) = .lt)) :
    first.Nodup := by
  refine ascending.imp ?_
  rintro item _ smaller rfl
  simp [Std.ReflCmp.compare_self] at smaller

omit [Std.LawfulEqOrd Key] in
/-- Ascending lists of the same items are equal. -/
theorem eq_of_ascending
    (ascending : first.Pairwise (fun earlier later => compare (key earlier) (key later) = .lt))
    (otherAscending :
      second.Pairwise (fun earlier later => compare (key earlier) (key later) = .lt))
    (same : ∀ item, item ∈ first ↔ item ∈ second) : first = second := by
  have oriented : ∀ earlier later, earlier ∈ first → later ∈ second →
      compare (key earlier) (key later) = .lt → compare (key later) (key earlier) = .lt →
      earlier = later := by
    intro earlier later _ _ smaller larger
    exact absurd larger (by simp [Std.OrientedCmp.gt_of_lt smaller])
  refine List.Perm.eq_of_pairwise oriented ascending otherAscending ?_
  exact (List.perm_ext_iff_of_nodup (nodup_of_ascending key ascending)
    (nodup_of_ascending key otherAscending)).2 same

end

omit [Std.TransOrd Key] [Std.LawfulEqOrd Key] in
/-- Maps with the same entries are equal. -/
theorem eq_of_entries {first second : SortedMap Key Value}
    (equal : first.entries = second.entries) : first = second := by
  cases first
  cases second
  cases equal
  rfl

omit [Std.TransOrd Key] [Std.LawfulEqOrd Key] in
instance [DecidableEq Key] [DecidableEq Value] : DecidableEq (SortedMap Key Value) :=
  fun first second =>
    if equal : first.entries = second.entries then
      isTrue (eq_of_entries equal)
    else
      isFalse fun same => equal (same ▸ rfl)

/-- The map without entries. -/
def empty : SortedMap Key Value := ⟨[], .nil⟩

instance : EmptyCollection (SortedMap Key Value) := ⟨empty⟩

instance : Inhabited (SortedMap Key Value) := ⟨empty⟩

/-- The value stored under a key. -/
def get? (map : SortedMap Key Value) (key : Key) : Option Value :=
  lookupEntry key map.entries

/-- Whether a key has a value. -/
def contains (map : SortedMap Key Value) (key : Key) : Bool :=
  (map.get? key).isSome

/-- The map with the value of one key set. -/
def insert (map : SortedMap Key Value) (key : Key) (value : Value) : SortedMap Key Value :=
  ⟨insertEntry key value map.entries, insertEntry_ascending key value map.ascending⟩

/-- The map without one key. -/
def erase (map : SortedMap Key Value) (key : Key) : SortedMap Key Value :=
  ⟨map.entries.filter (fun entry => compare key entry.1 != .eq), map.ascending.filter _⟩

/-- The keys, ascending. -/
def keys (map : SortedMap Key Value) : List Key := map.entries.map (·.1)

/-- The number of entries. -/
def size (map : SortedMap Key Value) : Nat := map.entries.length

/-- Whether there is no entry. -/
def isEmpty (map : SortedMap Key Value) : Bool := map.entries.isEmpty

/-- The entries that a function keeps, with the values that it gives them. -/
def filterMap (transform : Key → Value → Option Result) (map : SortedMap Key Value) :
    SortedMap Key Result :=
  ⟨map.entries.filterMap (fun entry => (transform entry.1 entry.2).map (entry.1, ·)), by
    refine List.Pairwise.filterMap _ ?_ map.ascending
    intro earlier later smaller kept keptEarlier other keptLater
    obtain ⟨first, _, rfl⟩ := Option.map_eq_some_iff.1 keptEarlier
    obtain ⟨second, _, rfl⟩ := Option.map_eq_some_iff.1 keptLater
    exact smaller⟩

/-- The entries of a list, a later entry replacing an earlier one with its key. -/
def ofList (entries : List (Key × Value)) : SortedMap Key Value :=
  entries.foldl (fun map entry => map.insert entry.1 entry.2) empty

omit [Std.TransOrd Key] [Std.LawfulEqOrd Key] in
@[simp] theorem get?_empty (key : Key) : (empty : SortedMap Key Value).get? key = none := rfl

theorem get?_insert (map : SortedMap Key Value) (key wanted : Key) (value : Value) :
    (map.insert key value).get? wanted =
      if compare wanted key = .eq then some value else map.get? wanted :=
  lookupEntry_insertEntry key wanted value map.entries

@[simp] theorem get?_insert_self (map : SortedMap Key Value) (key : Key) (value : Value) :
    (map.insert key value).get? key = some value := by
  simp [get?_insert, Std.ReflCmp.compare_self]

theorem get?_insert_of_ne (map : SortedMap Key Value) {key wanted : Key} (value : Value)
    (differs : wanted ≠ key) : (map.insert key value).get? wanted = map.get? wanted := by
  rw [get?_insert, if_neg]
  exact fun same => differs (Std.LawfulEqOrd.eq_of_compare same)

/-- What is found after an insertion was either inserted or there before. -/
theorem get?_insert_eq_some_iff {map : SortedMap Key Value} {key wanted : Key}
    {value found : Value} : (map.insert key value).get? wanted = some found ↔
      wanted = key ∧ value = found ∨ wanted ≠ key ∧ map.get? wanted = some found := by
  by_cases same : wanted = key
  · subst same
    simp
  · simp [same, get?_insert_of_ne map value same]

/-- What holds of the old values and of the inserted one holds of all values. -/
theorem forall_get?_insert {map : SortedMap Key Value} {key : Key} {value : Value}
    {holds : Key → Value → Prop} (old : ∀ wanted found, map.get? wanted = some found →
      holds wanted found) (inserted : holds key value) :
    ∀ wanted found, (map.insert key value).get? wanted = some found → holds wanted found := by
  intro wanted found stored
  rcases get?_insert_eq_some_iff.1 stored with ⟨rfl, rfl⟩ | ⟨_, stored⟩
  · exact inserted
  · exact old wanted found stored

/-- What was stored stays there when a key is set that had no value. -/
theorem get?_insert_of_absent {map : SortedMap Key Value} {key wanted : Key} {value : Value}
    (absent : map.get? key = none) (stored : map.get? wanted = some value) (added : Value) :
    (map.insert key added).get? wanted = some value := by
  rw [get?_insert_of_ne, stored]
  rintro rfl
  rw [absent] at stored
  cases stored

omit [Std.TransOrd Key] [Std.LawfulEqOrd Key] in
theorem contains_eq_false_iff {map : SortedMap Key Value} {key : Key} :
    map.contains key = false ↔ map.get? key = none := by
  simp [contains]

@[simp] theorem mem_entries_iff {map : SortedMap Key Value} {key : Key} {value : Value} :
    (key, value) ∈ map.entries ↔ map.get? key = some value :=
  ⟨lookupEntry_of_mem map.ascending, mem_of_lookupEntry⟩

@[simp] theorem mem_keys_iff {map : SortedMap Key Value} {key : Key} :
    key ∈ map.keys ↔ (map.get? key).isSome := by
  constructor
  · intro member
    obtain ⟨entry, listed, rfl⟩ := List.mem_map.1 member
    have found : map.get? entry.1 = some entry.2 := mem_entries_iff.1 listed
    simp [found]
  · intro found
    obtain ⟨value, found⟩ := Option.isSome_iff_exists.1 found
    exact List.mem_map.2 ⟨(key, value), mem_entries_iff.2 found, rfl⟩

omit [Std.TransOrd Key] [Std.LawfulEqOrd Key] in
/-- The keys are listed in strictly ascending order. -/
theorem keys_ascending (map : SortedMap Key Value) :
    map.keys.Pairwise (fun earlier later => compare earlier later = .lt) :=
  List.pairwise_map.2 map.ascending

/-- Maps with the same lookups are equal. -/
theorem ext {first second : SortedMap Key Value}
    (same : ∀ key, first.get? key = second.get? key) : first = second := by
  apply eq_of_entries
  refine eq_of_ascending (·.1) first.ascending second.ascending ?_
  rintro ⟨key, value⟩
  rw [mem_entries_iff, mem_entries_iff, same]

/-- Of maps that hold the same keys of some kind the same keys of this kind are listed. -/
theorem filter_keys_eq {first second : SortedMap Key Value} {keeps : Key → Bool}
    (same : ∀ key, keeps key → first.get? key = second.get? key) :
    first.keys.filter keeps = second.keys.filter keeps := by
  refine eq_of_ascending id (first.keys_ascending.filter _) (second.keys_ascending.filter _) ?_
  intro key
  simp only [List.mem_filter, mem_keys_iff]
  refine and_congr_left fun kept => ?_
  rw [same key kept]

/-- A map is empty when no key has a value. -/
theorem isEmpty_iff {map : SortedMap Key Value} :
    map.isEmpty ↔ ∀ key, map.get? key = none := by
  constructor
  · intro empty key
    have none : map.entries = [] := List.isEmpty_iff.1 empty
    rw [get?, none]
    rfl
  · intro absent
    refine List.isEmpty_iff.2 (List.eq_nil_iff_forall_not_mem.2 ?_)
    rintro ⟨key, value⟩ member
    have found : map.get? key = some value := mem_entries_iff.1 member
    rw [absent] at found
    cases found

theorem get?_erase (map : SortedMap Key Value) (key wanted : Key) :
    (map.erase key).get? wanted =
      if compare wanted key = .eq then none else map.get? wanted := by
  apply Option.ext
  intro value
  rw [← mem_entries_iff]
  simp only [erase, List.mem_filter, mem_entries_iff, bne_iff_ne, ne_eq]
  by_cases same : compare wanted key = .eq
  · have equal : wanted = key := Std.LawfulEqOrd.eq_of_compare same
    subst equal
    simp [Std.ReflCmp.compare_self]
  · have reverse : compare key wanted ≠ .eq := fun equal =>
      same (Std.OrientedCmp.eq_symm equal)
    simp [same, reverse]

@[simp] theorem get?_erase_self (map : SortedMap Key Value) (key : Key) :
    (map.erase key).get? key = none := by
  simp [get?_erase, Std.ReflCmp.compare_self]

theorem get?_erase_of_ne (map : SortedMap Key Value) {key wanted : Key}
    (differs : wanted ≠ key) : (map.erase key).get? wanted = map.get? wanted := by
  rw [get?_erase, if_neg]
  exact fun same => differs (Std.LawfulEqOrd.eq_of_compare same)

/-- What is found after an erasure has another key and was there before. -/
theorem get?_erase_eq_some_iff {map : SortedMap Key Value} {key wanted : Key} {found : Value} :
    (map.erase key).get? wanted = some found ↔
      wanted ≠ key ∧ map.get? wanted = some found := by
  by_cases same : wanted = key
  · subst same
    simp
  · simp [same, get?_erase_of_ne map same]

/-- What holds of all values holds of those that are left. -/
theorem forall_get?_erase {map : SortedMap Key Value} {holds : Key → Value → Prop}
    (old : ∀ wanted found, map.get? wanted = some found → holds wanted found) (key : Key) :
    ∀ wanted found, (map.erase key).get? wanted = some found → holds wanted found :=
  fun wanted found stored => old wanted found (get?_erase_eq_some_iff.1 stored).2

theorem contains_insert_iff {map : SortedMap Key Value} {key wanted : Key} {value : Value} :
    (map.insert key value).contains wanted ↔ wanted = key ∨ map.contains wanted := by
  by_cases same : wanted = key
  · subst same
    simp [contains]
  · simp [contains, get?_insert_of_ne _ _ same, same]

theorem contains_erase_iff {map : SortedMap Key Value} {key wanted : Key} :
    (map.erase key).contains wanted ↔ wanted ≠ key ∧ map.contains wanted := by
  by_cases same : wanted = key
  · subst same
    simp [contains]
  · simp [contains, get?_erase_of_ne _ same, same]

/-- A key that had no value adds to the size. -/
theorem size_insert {map : SortedMap Key Value} {key : Key} (absent : map.get? key = none)
    (value : Value) : (map.insert key value).size = map.size + 1 :=
  length_insertEntry absent value

/-- Of two values set under one key the later one counts. -/
theorem insert_insert (map : SortedMap Key Value) (key : Key) (earlier later : Value) :
    (map.insert key earlier).insert key later = map.insert key later := by
  apply ext
  intro wanted
  by_cases same : wanted = key
  · subst same
    simp
  · simp [get?_insert_of_ne _ _ same]

/-- Setting a key to the value that it has changes nothing. -/
theorem insert_of_get?_eq_some {map : SortedMap Key Value} {key : Key} {value : Value}
    (found : map.get? key = some value) : map.insert key value = map := by
  apply ext
  intro wanted
  by_cases same : wanted = key
  · subst same
    simp [found]
  · exact get?_insert_of_ne map value same

/-- Erasing a key without a value changes nothing. -/
theorem erase_of_get?_eq_none {map : SortedMap Key Value} {key : Key}
    (absent : map.get? key = none) : map.erase key = map := by
  apply ext
  intro wanted
  by_cases same : wanted = key
  · subst same
    simp [absent]
  · exact get?_erase_of_ne map same

@[simp] theorem get?_filterMap (transform : Key → Value → Option Result) (map : SortedMap Key Value)
    (wanted : Key) :
    (map.filterMap transform).get? wanted = (map.get? wanted).bind (transform wanted) := by
  apply Option.ext
  intro value
  rw [← mem_entries_iff]
  simp only [filterMap, List.mem_filterMap, Option.map_eq_some_iff, Option.bind_eq_some_iff]
  constructor
  · rintro ⟨⟨key, old⟩, member, result, kept, equal⟩
    obtain ⟨rfl, rfl⟩ := Prod.mk.inj equal
    exact ⟨old, mem_entries_iff.1 member, kept⟩
  · rintro ⟨old, found, kept⟩
    exact ⟨(wanted, old), mem_entries_iff.2 found, value, kept, rfl⟩

end SortedMap

/-- A set of keys, listed in ascending order. -/
abbrev SortedSet (Key : Type u) [Ord Key] := SortedMap Key Unit

namespace SortedSet

variable {Key : Type u} [Ord Key]

/-- The members, ascending. -/
def toList (set : SortedSet Key) : List Key := SortedMap.keys set

variable [Std.TransOrd Key] [Std.LawfulEqOrd Key]

/-- The set with one more member. -/
def add (set : SortedSet Key) (key : Key) : SortedSet Key := SortedMap.insert set key ()

/-- The set of the members of a list. -/
def ofList (members : List Key) : SortedSet Key :=
  members.foldl add SortedMap.empty

end SortedSet

end Workstream
