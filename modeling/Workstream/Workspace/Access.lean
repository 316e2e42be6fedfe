import Workstream.Malformed

/-!
# Ways to reach a workspace

Up to three branches belong to a workspace: the live one, a backup that an update
leaves behind, and one on which the conflicts of an update are resolved.
-/

namespace Workstream

/-- Which branch of a workspace is meant. -/
inductive Access where
  | live
  /-- The copy kept from before an update. -/
  | backup
  /-- The workspace rebuilt on the latest revision while conflicts are resolved. -/
  | resolution
deriving DecidableEq

namespace Access

/-- All three, in order. -/
def all : List Access := [.live, .backup, .resolution]

/-- The access kind in words. -/
def label : Access → String
  | .live => "workspace"
  | .backup => "backup"
  | .resolution => "conflict resolution"

/-- The name of the access kind in exchanged data. -/
def tag : Access → String
  | .live => "WORKSPACE"
  | .backup => "BACKUP"
  | .resolution => "CONFLICT_RESOLUTION"

/-- The access kind with a given name in exchanged data. -/
def ofTag? (tag : String) : Option Access :=
  all.find? (·.tag = tag)

/-- The words that denote an access kind, in lower case. -/
def words : Access → List String
  | .live => ["workspace"]
  | .backup => ["backup"]
  | .resolution => ["resolution", "conflict-resolution", "conflict_resolution"]

/-- The access kind that a word denotes, without regard to the case of ASCII letters. -/
def parse (word : String) : Except Malformed Access :=
  match all.find? (·.words.contains word.toLower) with
  | some access => .ok access
  | none => .error (.access word)

/-- The position of the access kind in the order. -/
def rank : Access → Nat
  | .live => 0
  | .backup => 1
  | .resolution => 2

instance : Ord Access := ⟨compareOn rank⟩

instance : Std.TransOrd Access := inferInstanceAs (Std.TransCmp (compareOn rank))

instance : Std.LawfulEqOrd Access where
  eq_of_compare := by
    intro first second equal
    have same : first.rank = second.rank := Std.LawfulEqOrd.eq_of_compare equal
    cases first <;> cases second <;> simp_all [rank]

end Access

end Workstream
