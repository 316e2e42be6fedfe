import Workstream.Malformed

/-!
# Workspace ids

The id of a workspace is chosen by its user: any text that is not empty and holds no
slash, since a slash separates the segments of a branch name.
-/

namespace Workstream

/-- The id of a workspace. -/
structure WorkspaceId where
  text : String
  nonempty : text ≠ ""
  slashFree : '/' ∉ text.toList
deriving DecidableEq

namespace WorkspaceId

/-- The id that a text denotes. -/
def parse (text : String) : Except Malformed WorkspaceId :=
  if nonempty : text ≠ "" then
    if slashFree : '/' ∉ text.toList then
      .ok ⟨text, nonempty, slashFree⟩
    else
      .error (.workspaceId text .slash)
  else
    .error (.workspaceId text .empty)

/-- Ids are ordered as texts. -/
instance : Ord WorkspaceId := ⟨compareOn text⟩

instance : Std.TransOrd WorkspaceId := inferInstanceAs (Std.TransCmp (compareOn text))

instance : Std.LawfulEqOrd WorkspaceId where
  eq_of_compare := by
    intro first second equal
    have same : first.text = second.text := Std.LawfulEqOrd.eq_of_compare equal
    cases first
    cases second
    simp_all

/-- Reading the text of an id gives the id. -/
theorem parse_text (id : WorkspaceId) : parse id.text = .ok id := by
  simp [parse, id.nonempty, id.slashFree]

/-- An id has the text that it was read from. -/
theorem text_of_parse {text : String} {id : WorkspaceId} (read : parse text = .ok id) :
    id.text = text := by
  unfold parse at read
  split at read
  · split at read
    · cases read
      rfl
    · cases read
  · cases read

end WorkspaceId

end Workstream
