import Workstream.Naming.Pattern

/-!
# Names of model elements

The elements of a model live in packages. A package path is a list of words with `::`
between them, and a path to an element ends in the name of the element, which may also
hold dollar signs. The package `meta` is reserved: paths that begin in it name
classifiers, and no other entity may live there.

Each grammar is a pattern; the rule about `meta` is checked on the first segment of
the path.
-/

namespace Workstream.Naming

open Pattern

/-- A word: ASCII letters, digits and underscores. -/
def word : Pattern := oneOrMore (.one .word)

/-- The name of an element: word characters and dollar signs. -/
def elementName : Pattern := oneOrMore (.one .name)

/-- The mark between the segments of a path. -/
def pathMark : Pattern := literal [':', ':']

/-- Any number of further words, each after a mark. -/
def moreWords : Pattern := .many (.sequence pathMark word)

/-- A mark and the name of an element. -/
def lastName : Pattern := .sequence pathMark elementName

/-- The reserved package. -/
def reservedPackage : List Char := ['m', 'e', 't', 'a']

/-- One word or more, with marks between them. -/
def packagePath : Pattern := .sequence word moreWords

/-- A package path and the name of an element. -/
def elementPath : Pattern := .sequence word (.sequence moreWords lastName)

/-- A package path, or one and the name of an element. -/
def packageableElementPath : Pattern := .sequence word (.sequence moreWords (optional lastName))

/-- A path in the reserved package that ends in the name of an element. -/
def classifierPath : Pattern :=
  .sequence (literal reservedPackage) (.sequence moreWords lastName)

/-- The characters before the first mark of a path. -/
def firstSegment : List Char → List Char
  | [] => []
  | ':' :: ':' :: _ => []
  | character :: rest => character :: firstSegment rest

/-- Whether a text is the name of an entity. -/
def isEntityName (text : String) : Bool := elementName.accepts text.toList

/-- Whether a text is the path of an entity. -/
def isEntityPath (text : String) : Bool :=
  elementPath.accepts text.toList && firstSegment text.toList != reservedPackage

/-- Whether a text is the path of a package. -/
def isPackagePath (text : String) : Bool := packagePath.accepts text.toList

/-- Whether a text is the path of something that a package can hold. -/
def isPackageableElementPath (text : String) : Bool := packageableElementPath.accepts text.toList

/-- Whether a text is the path of a classifier. -/
def isClassifierPath (text : String) : Bool := classifierPath.accepts text.toList

end Workstream.Naming
