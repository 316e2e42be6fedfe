import Workstream.Text.Quoted

/-!
# Malformed values

Versions, workspace ids and the names of ownership and access kinds are read from
text. A text that is refused is reported with the kind of value that was wanted,
the text itself and the reason. `Malformed.message` puts the three together.
-/

namespace Workstream

/-- Why a text or three numbers are not a version. -/
inductive VersionFault where
  | componentCount
  | emptyComponent
  | nonDigit
  | leadingZero
  /-- A component of the text is too large. -/
  | outOfRange
  /-- A component that was given as a number is too large. -/
  | tooLarge (component maximum : Nat)
deriving DecidableEq

/-- Why a text is not a workspace id. -/
inductive WorkspaceIdFault where
  | empty
  | slash
deriving DecidableEq

/-- A text that does not denote a value of the wanted kind. -/
inductive Malformed where
  | version (value : String) (fault : VersionFault)
  | workspaceId (value : String) (fault : WorkspaceIdFault)
  | ownership (value : String)
  | access (value : String)
deriving DecidableEq

/-- The reason in words. -/
def VersionFault.reason : VersionFault → String
  | .componentCount => "expected exactly three components: major.minor.patch"
  | .emptyComponent => "version components must not be empty"
  | .nonDigit => "version components must contain only digits (0-9)"
  | .leadingZero => "version components must not have leading zeros"
  | .outOfRange => "version component is out of range"
  | .tooLarge component maximum =>
    "component " ++ toString component ++ " exceeds the maximum of " ++ toString maximum

/-- The reason in words. -/
def WorkspaceIdFault.reason : WorkspaceIdFault → String
  | .empty => "workspace id must not be empty"
  | .slash => "workspace id must not contain '/'"

namespace Malformed

/-- The kind of value that was wanted. -/
def kind : Malformed → String
  | .version _ _ => "VersionId"
  | .workspaceId _ _ => "WorkspaceId"
  | .ownership _ => "WorkspaceType"
  | .access _ => "WorkspaceAccessType"

/-- The text that was refused. -/
def value : Malformed → String
  | .version value _ => value
  | .workspaceId value _ => value
  | .ownership value => value
  | .access value => value

/-- Why the text was refused. -/
def reason : Malformed → String
  | .version _ fault => fault.reason
  | .workspaceId _ fault => fault.reason
  | .ownership _ => "expected one of: user, group"
  | .access _ => "expected one of: workspace, backup, resolution"

/-- The whole report. -/
def message (malformed : Malformed) : String :=
  "invalid " ++ malformed.kind ++ ": " ++ Text.quoted malformed.value ++ ": " ++ malformed.reason

end Malformed

end Workstream
