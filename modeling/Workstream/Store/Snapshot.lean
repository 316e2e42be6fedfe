import Workstream.Collections.SortedMap
import Workstream.DevelopmentStream
import Workstream.Hash.Sha256
import Workstream.Text.Utf8

/-!
# Revisions and their contents

A revision is one committed state of a stream or a workspace: the entities of the
project at that time, each under its path, and the configuration of the project.

The id of a revision is computed from `RevisionId.preimage`: the id of the revision
before it, the number of the commit, the message and the entities. The number is
different for every commit, so identical commits still have different ids.
-/

namespace Workstream

/-- The id of a revision. -/
structure RevisionId where
  text : String
deriving DecidableEq

namespace RevisionId

/-- The number of bytes in the short form of an id. -/
def shortSize : Nat := 12

/-- The short form of an id for messages: its first bytes, or the whole id when these do
not end between two characters. -/
def short (id : RevisionId) : String :=
  match Text.takeBytes? shortSize id.text.toList with
  | some front => String.ofList front
  | none => id.text

end RevisionId

/-- A revision as it is reported to clients. -/
structure Revision where
  id : RevisionId
  message : String
  author : String
deriving DecidableEq

/-- A dependency on a released version of another project. -/
structure Dependency where
  project : String
  version : Version
deriving DecidableEq

namespace Dependency

/-- Dependencies are ordered by project and then by version. -/
instance : Ord Dependency := ⟨compareLex (compareOn project) (compareOn version)⟩

instance : Std.TransOrd Dependency :=
  inferInstanceAs (Std.TransCmp (compareLex (compareOn project) (compareOn version)))

instance : Std.LawfulEqOrd Dependency where
  eq_of_compare := by
    intro first second equal
    obtain ⟨sameProject, sameVersion⟩ := compareLex_eq_eq.1 equal
    have sameProject : first.project = second.project :=
      Std.LawfulEqOrd.eq_of_compare sameProject
    have sameVersion : first.version = second.version :=
      Std.LawfulEqOrd.eq_of_compare sameVersion
    cases first
    cases second
    simp_all

/-- The dependency in words. -/
def display (dependency : Dependency) : String :=
  dependency.project ++ ":" ++ dependency.version.text

end Dependency

/-- The settings of a project, which are part of every revision. -/
structure Configuration where
  project : String
  /-- The version of the layout of the project. -/
  structureVersion : Nat
  group : String
  artifact : String
  /-- The released versions of other projects that the project builds on. -/
  dependencies : SortedSet Dependency
deriving DecidableEq

/-- The content of each entity under its path. -/
abbrev Entities := SortedMap String String

/-- What a revision holds. -/
structure Contents where
  entities : Entities
  configuration : Configuration
deriving DecidableEq

/-- A revision with what it holds. -/
structure Snapshot where
  revision : Revision
  contents : Contents
deriving DecidableEq

namespace RevisionId

/-- A text and a null byte after it. -/
def terminated (text : String) : List UInt8 := Text.encodeUtf8 text ++ [0]

/-- The bytes from which the id of a revision is computed. -/
def preimage (parent : Option RevisionId) (sequence : Nat) (message : String)
    (entities : Entities) : List UInt8 :=
  let before := match parent with
    | some id => Text.encodeUtf8 id.text
    | none => []
  before ++ Sha256.bigEndian 8 sequence ++ Text.encodeUtf8 message ++
    entities.entries.flatMap fun (path, content) => terminated path ++ terminated content

/-- The number of hexadecimal digits in an id. -/
def digits : Nat := 40

/-- The id that belongs to the given bytes. -/
def ofPreimage (bytes : List UInt8) : RevisionId :=
  ⟨String.ofList ((Sha256.hexDigest bytes).take digits)⟩

end RevisionId

end Workstream
