import Workstream.DevelopmentStream
import Workstream.Workspace.Access
import Workstream.Workspace.Id
import Workstream.Workspace.Ownership

/-!
# Workspace specifications

A specification says which branch of which workspace is meant: the id, the owner, the
access kind and the development stream. Two specifications mean the same branch
exactly when they are equal, once an open user has been filled in.
-/

namespace Workstream

/-- Everything that is needed to name the branch of a workspace. -/
structure Specification where
  id : WorkspaceId
  owner : Owner
  access : Access
  stream : DevelopmentStream
deriving DecidableEq

namespace Specification

/-- The specification with given parts. The user is not kept for a shared workspace. -/
def of (id : WorkspaceId) (ownership : Ownership) (access : Access)
    (stream : DevelopmentStream) (user : Option String) : Specification :=
  { id, owner := .of ownership user, access, stream }

/-- The current user's live workspace on the main line. -/
def forUser (id : WorkspaceId) : Specification := .of id .user .live .mainLine none

/-- The shared live workspace on the main line. -/
def forGroup (id : WorkspaceId) : Specification := .of id .group .live .mainLine none

/-- The same workspace, reached in another way. -/
def withAccess (specification : Specification) (access : Access) : Specification :=
  { specification with access }

/-- The workspace with the same id and owner on another stream. -/
def withStream (specification : Specification) (stream : DevelopmentStream) : Specification :=
  { specification with stream }

/-- The workspace of a named user. Nothing changes for a shared workspace. -/
def withUser (specification : Specification) (user : String) : Specification :=
  { specification with owner := specification.owner.pin user }

/-- The current user's live workspace on a patch stream. -/
def forPatchUser (id : WorkspaceId) (version : Version) : Specification :=
  (forUser id).withStream (.patch version)

/-- The shared live workspace on a patch stream. -/
def forPatchGroup (id : WorkspaceId) (version : Version) : Specification :=
  (forGroup id).withStream (.patch version)

/-- The kind of the owner. -/
def ownership (specification : Specification) : Ownership := specification.owner.ownership

/-- The user that is named. -/
def user? (specification : Specification) : Option String := specification.owner.user?

/-- Whether the current user decides which workspace is meant. -/
def awaitsUser (specification : Specification) : Bool :=
  specification.owner = .user none

/-- The specification in words. -/
def display (specification : Specification) : String :=
  let owner := match specification.user? with
    | some user => " of " ++ user
    | none => ""
  let release := match specification.stream.patchVersion? with
    | some version => " for patch release version " ++ version.text
    | none => ""
  specification.ownership.label ++ " " ++ specification.access.label ++ " " ++
    specification.id.text ++ owner ++ release

/-- Specifications are ordered by id, ownership, access, stream and user, in this order;
an open user comes before every named one. -/
instance : Ord Specification :=
  ⟨compareLex (compareOn id) (compareLex (compareOn ownership) (compareLex (compareOn access)
    (compareLex (compareOn stream) (compareOn user?))))⟩

instance : Std.TransOrd Specification :=
  inferInstanceAs (Std.TransCmp (compareLex (compareOn id) (compareLex (compareOn ownership)
    (compareLex (compareOn access) (compareLex (compareOn stream) (compareOn user?))))))

instance : Std.LawfulEqOrd Specification where
  eq_of_compare := by
    intro first second equal
    obtain ⟨sameId, rest⟩ := compareLex_eq_eq.1 equal
    obtain ⟨sameOwnership, rest⟩ := compareLex_eq_eq.1 rest
    obtain ⟨sameAccess, rest⟩ := compareLex_eq_eq.1 rest
    obtain ⟨sameStream, sameUser⟩ := compareLex_eq_eq.1 rest
    have sameId : first.id = second.id := Std.LawfulEqOrd.eq_of_compare sameId
    have sameOwnership : first.ownership = second.ownership :=
      Std.LawfulEqOrd.eq_of_compare sameOwnership
    have sameAccess : first.access = second.access := Std.LawfulEqOrd.eq_of_compare sameAccess
    have sameStream : first.stream = second.stream := Std.LawfulEqOrd.eq_of_compare sameStream
    have sameUser : first.user? = second.user? := Std.LawfulEqOrd.eq_of_compare sameUser
    have sameOwner : first.owner = second.owner := by
      rw [← first.owner.of_ownership_user?, ← second.owner.of_ownership_user?]
      change Owner.of first.ownership first.user? = Owner.of second.ownership second.user?
      rw [sameOwnership, sameUser]
    cases first
    cases second
    simp_all

end Specification

end Workstream
