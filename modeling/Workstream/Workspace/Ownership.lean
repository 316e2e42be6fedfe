import Workstream.Malformed

/-!
# Who a workspace belongs to

A workspace belongs to one user or is shared by everyone working on the project. The
workspace of a user may leave that user open; then it is the current user's.
-/

namespace Workstream

/-- The two kinds of workspace. -/
inductive Ownership where
  | user
  | group
deriving DecidableEq

namespace Ownership

/-- Both kinds, in order. -/
def all : List Ownership := [.user, .group]

/-- The kind in words. -/
def label : Ownership → String
  | .user => "user"
  | .group => "group"

/-- The name of the kind in exchanged data. -/
def tag : Ownership → String
  | .user => "USER"
  | .group => "GROUP"

/-- The kind with a given name in exchanged data. -/
def ofTag? (tag : String) : Option Ownership :=
  all.find? (·.tag = tag)

/-- The kind that a word denotes, without regard to the case of ASCII letters. -/
def parse (word : String) : Except Malformed Ownership :=
  match all.find? (·.label = word.toLower) with
  | some ownership => .ok ownership
  | none => .error (.ownership word)

/-- The position of the kind in the order. -/
def rank : Ownership → Nat
  | .user => 0
  | .group => 1

instance : Ord Ownership := ⟨compareOn rank⟩

instance : Std.TransOrd Ownership := inferInstanceAs (Std.TransCmp (compareOn rank))

instance : Std.LawfulEqOrd Ownership where
  eq_of_compare := by
    intro first second equal
    have same : first.rank = second.rank := Std.LawfulEqOrd.eq_of_compare equal
    cases first <;> cases second <;> simp_all [rank]

end Ownership

/-- The owner of a workspace. Only the workspace of a user can name one. -/
inductive Owner where
  /-- The named user, or the current user if none is named. -/
  | user (pinned : Option String)
  | group
deriving DecidableEq

namespace Owner

/-- The kind of the owner. -/
def ownership : Owner → Ownership
  | .user _ => .user
  | .group => .group

/-- The user that is named. -/
def user? : Owner → Option String
  | .user pinned => pinned
  | .group => none

/-- The owner of a given kind. A shared workspace does not keep the user. -/
def of (ownership : Ownership) (user : Option String) : Owner :=
  match ownership with
  | .user => .user user
  | .group => .group

/-- The owner with a user named. Nothing changes for a shared workspace. -/
def pin (owner : Owner) (user : String) : Owner :=
  match owner with
  | .user _ => .user (some user)
  | .group => .group

/-- An owner is determined by its kind and the user that it names. -/
theorem of_ownership_user? (owner : Owner) : of owner.ownership owner.user? = owner := by
  cases owner <;> rfl

end Owner

end Workstream
