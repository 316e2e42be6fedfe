import Workstream.Json
import Workstream.Naming.Grammar
import Workstream.Release.Tag
import Workstream.Settings

/-!
# Checking names

The grammars by name, and the verdict on a value as it is printed.
-/

namespace Workstream

/-- A grammar of names. -/
inductive NameKind where
  /-- The last part of the path of an entity. -/
  | entityName
  | entityPath
  | packagePath
  /-- The path of anything that a package can hold. -/
  | packageableElementPath
  | classifierPath
  | versionTag
deriving DecidableEq

namespace NameKind

/-- All grammars. -/
def all : List NameKind :=
  [.entityName, .entityPath, .packagePath, .packageableElementPath, .classifierPath,
   .versionTag]

/-- The name by which a grammar is chosen. -/
def name : NameKind → String
  | .entityName => "entity-name"
  | .entityPath => "entity-path"
  | .packagePath => "package-path"
  | .packageableElementPath => "packageable-element-path"
  | .classifierPath => "classifier-path"
  | .versionTag => "version-tag"

/-- The grammar with a given name. -/
def ofName? (name : String) : Option NameKind := all.find? (·.name = name)

/-- The grammar in words. -/
def label : NameKind → String
  | .entityName => "entity name"
  | .entityPath => "entity path"
  | .packagePath => "package path"
  | .packageableElementPath => "packageable element path"
  | .classifierPath => "classifier path"
  | .versionTag => "version tag"

/-- Whether a value is in the language of a grammar. -/
def accepts : NameKind → String → Bool
  | .entityName => Naming.isEntityName
  | .entityPath => Naming.isEntityPath
  | .packagePath => Naming.isPackagePath
  | .packageableElementPath => Naming.isPackageableElementPath
  | .classifierPath => Naming.isClassifierPath
  | .versionTag => ReleaseTag.isTag

/-- The line for the verdict on a value, without the line feed. -/
def verdict (kind : NameKind) (value : String) : OutputFormat → String
  | .text =>
    value ++ ": " ++ (if kind.accepts value then "valid" else "invalid") ++ " " ++ kind.label
  | .json =>
    (Json.object [("kind", .text kind.label), ("valid", .bool (kind.accepts value)),
      ("value", .text value)]).render

end NameKind

end Workstream
