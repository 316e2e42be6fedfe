import Workstream.Version

/-!
# Release tags

A released version is marked by a tag whose name is the word `release`, a dash and the
text of the version. `parse?` accepts exactly these names.
-/

namespace Workstream.ReleaseTag

/-- What the name of every release tag begins with. -/
def opening : List Char := ['r', 'e', 'l', 'e', 'a', 's', 'e', '-']

/-- The name of the tag of a version. -/
def name (version : Version) : String := String.ofList opening ++ version.text

/-- The characters after an opening. -/
def dropOpening? : List Char → List Char → Option (List Char)
  | [], text => some text
  | _ :: _, [] => none
  | wanted :: rest, character :: text =>
    if character = wanted then dropOpening? rest text else none

/-- The version of the tag with a given name. -/
def parse? (text : String) : Option Version := do
  let version ← dropOpening? opening text.toList
  (Version.parse (String.ofList version)).toOption

/-- Whether a tag marks a released version. -/
def isTag (text : String) : Bool := (parse? text).isSome

end Workstream.ReleaseTag
