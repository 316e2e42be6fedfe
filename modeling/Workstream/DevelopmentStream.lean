import Workstream.Version

/-!
# Development streams

A project is developed on its main line and, for a released version that is
maintained further, on the patch stream of that version.
-/

namespace Workstream

/-- The line of development that a workspace branches from. -/
inductive DevelopmentStream where
  | mainLine
  | patch (version : Version)
deriving DecidableEq

namespace DevelopmentStream

/-- The version that a patch stream maintains. -/
def patchVersion? : DevelopmentStream → Option Version
  | .mainLine => none
  | .patch version => some version

/-- The stream for an optional patch release version. -/
def ofPatchVersion? : Option Version → DevelopmentStream
  | none => .mainLine
  | some version => .patch version

/-- Whether the stream is a patch stream. -/
def isPatch (stream : DevelopmentStream) : Bool := stream.patchVersion?.isSome

/-- The stream in words. -/
def display : DevelopmentStream → String
  | .mainLine => "project"
  | .patch version => "patch " ++ version.text

/-- The main line comes before the patch streams, which follow in version order. -/
instance : Ord DevelopmentStream := ⟨compareOn patchVersion?⟩

instance : Std.TransOrd DevelopmentStream :=
  inferInstanceAs (Std.TransCmp (compareOn patchVersion?))

instance : Std.LawfulEqOrd DevelopmentStream where
  eq_of_compare := by
    intro first second equal
    have same : first.patchVersion? = second.patchVersion? := Std.LawfulEqOrd.eq_of_compare equal
    cases first <;> cases second <;> simp_all [patchVersion?]

end DevelopmentStream

end Workstream
