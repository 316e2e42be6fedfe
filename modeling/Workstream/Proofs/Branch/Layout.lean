import Mathlib.Data.List.Basic
import Workstream.Branch.Record
import Workstream.Proofs.VersionText

/-!
# Written forms of records

What is printed for the record of a branch, said without printing it. As text there is the name,
a tab, and the specification in words or a remark that there is none. As JSON there is an object
without blanks whose fields are the name and the specification; the specification is an object of
its own, with its fields in alphabetical order, or `null`. Texts that are chosen by users stand
between quotes there, with quotes, backslashes and control characters escaped.

These rules leave nothing open: a record has exactly one written form in each format, which is
the one that is printed.
-/

namespace Workstream

namespace Json

/-- The hexadecimal digit for a value below 16. -/
def hexDigit (value : Nat) : Char := "0123456789abcdef".toList.getD value '0'

/-- The letters that stand for control characters after a backslash. -/
def letters : List (Char × Char) :=
  [('\x08', 'b'), ('\t', 't'), ('\n', 'n'), ('\x0c', 'f'), ('\r', 'r')]

/-- What stands for a character within a JSON string. -/
inductive Escaped : Char → List Char → Prop where
  | plain {character : Char} (printable : ' ' ≤ character)
      (unmarked : character ∉ ['"', '\\']) : Escaped character [character]
  | marked {character : Char} (isMark : character ∈ ['"', '\\']) :
      Escaped character ['\\', character]
  | lettered {character letter : Char} (named : (character, letter) ∈ letters) :
      Escaped character ['\\', letter]
  | coded {character : Char} (control : character < ' ')
      (unnamed : character ∉ letters.map Prod.fst) :
      Escaped character
        ['\\', 'u', '0', '0', hexDigit (character.toNat / 16), hexDigit (character.toNat % 16)]

/-- What stands for characters in sequence within a JSON string. -/
inductive Escapes : List Char → List Char → Prop where
  | none : Escapes [] []
  | next {character : Char} {rest piece written : List Char} (escaped : Escaped character piece)
      (more : Escapes rest written) : Escapes (character :: rest) (piece ++ written)

/-- A text is written as a JSON string. -/
inductive Quotes : String → String → Prop where
  | intro {text : String} {inside : List Char} (escapes : Escapes text.toList inside) :
      Quotes text ("\"" ++ String.ofList inside ++ "\"")

/-- A character that is printed and is no mark stands for itself. -/
theorem escape_of_printable {character : Char} (printable : ' ' ≤ character)
    (unmarked : character ∉ ['"', '\\']) : escape character = [character] := by
  have code : 32 ≤ character.toNat := printable
  unfold escape
  split
  case h_8 => rw [if_neg (by omega), if_neg (by omega)]
  case h_1 | h_2 => simp at unmarked
  all_goals exact absurd code (by decide)

/-- A quote and a backslash are escaped by a backslash. -/
theorem escape_of_mark {character : Char} (isMark : character ∈ ['"', '\\']) :
    escape character = ['\\', character] := by
  simp only [List.mem_cons, List.not_mem_nil, or_false] at isMark
  rcases isMark with rfl | rfl <;> rfl

/-- A control character that has a letter is escaped by it. -/
theorem escape_of_letter {character letter : Char} (named : (character, letter) ∈ letters) :
    escape character = ['\\', letter] := by
  simp only [letters, List.mem_cons, Prod.mk.injEq, List.not_mem_nil, or_false] at named
  rcases named with
    ⟨rfl, rfl⟩ | ⟨rfl, rfl⟩ | ⟨rfl, rfl⟩ | ⟨rfl, rfl⟩ | ⟨rfl, rfl⟩ <;> rfl

/-- A control character without a letter is escaped by its code. -/
theorem escape_of_control {character : Char} (control : character < ' ')
    (unnamed : character ∉ letters.map Prod.fst) :
    escape character =
      ['\\', 'u', '0', '0', hexDigit (character.toNat / 16), hexDigit (character.toNat % 16)] := by
  have coded : ∀ code < 32, Char.ofNat code ∉ letters.map Prod.fst →
      escape (Char.ofNat code) =
        ['\\', 'u', '0', '0', hexDigit (code / 16), hexDigit (code % 16)] := by
    decide +kernel
  have known := coded character.toNat control
  rw [Char.ofNat_toNat] at known
  exact known unnamed

/-- A character is escaped in one way. -/
theorem escaped_iff {character : Char} {written : List Char} :
    Escaped character written ↔ written = escape character := by
  constructor
  · intro escaped
    cases escaped with
    | plain printable unmarked => exact (escape_of_printable printable unmarked).symm
    | marked isMark => exact (escape_of_mark isMark).symm
    | lettered named => exact (escape_of_letter named).symm
    | coded control unnamed => exact (escape_of_control control unnamed).symm
  · rintro rfl
    by_cases printable : ' ' ≤ character
    · by_cases isMark : character ∈ ['"', '\\']
      · exact escape_of_mark isMark ▸ .marked isMark
      · exact escape_of_printable printable isMark ▸ .plain printable isMark
    · have control : character < ' ' := Char.not_le.1 printable
      by_cases isNamed : character ∈ letters.map Prod.fst
      · obtain ⟨⟨_, letter⟩, named, rfl⟩ := List.mem_map.1 isNamed
        exact escape_of_letter named ▸ .lettered named
      · exact escape_of_control control isNamed ▸ .coded control isNamed

/-- Characters are escaped one after the other. -/
theorem escapes_iff {characters written : List Char} :
    Escapes characters written ↔ written = characters.flatMap escape := by
  constructor
  · intro escapes
    induction escapes with
    | none => rfl
    | next escaped _ ih => rw [List.flatMap_cons, escaped_iff.1 escaped, ih]
  · rintro rfl
    induction characters with
    | nil => exact .none
    | cons character rest ih => exact .next (escaped_iff.2 rfl) ih

/-- A text has one written form as a JSON string. -/
theorem quotes_iff {text written : String} : Quotes text written ↔ written = renderText text := by
  have rendered : renderText text =
      "\"" ++ String.ofList (text.toList.flatMap escape) ++ "\"" := by
    apply String.toList_inj.1
    simp [renderText]
  rw [rendered]
  constructor
  · rintro ⟨escapes⟩
    rw [escapes_iff.1 escapes]
  · rintro rfl
    exact .intro (escapes_iff.2 rfl)

end Json

namespace Specification

/-- What the branches of a workspace are called in words, and by a tag in exchanged data. -/
inductive AccessCalled : Access → String → String → Prop where
  | live : AccessCalled .live "workspace" "WORKSPACE"
  | backup : AccessCalled .backup "backup" "BACKUP"
  | resolution : AccessCalled .resolution "conflict resolution" "CONFLICT_RESOLUTION"

/-- The words for an owner: the kind, and the user if one is named. -/
inductive OwnerInWords : Owner → String → String → Prop where
  | group : OwnerInWords .group "group" ""
  | user {user : String} : OwnerInWords (.user (some user)) "user" (" of " ++ user)
  | currentUser : OwnerInWords (.user none) "user" ""

/-- The words for the release that a patch stream maintains. -/
inductive ReleaseInWords : DevelopmentStream → String → Prop where
  | mainLine : ReleaseInWords .mainLine ""
  | patch {version : Version} {text : String} (read : Version.parse text = .ok version) :
      ReleaseInWords (.patch version) (" for patch release version " ++ text)

/-- The words for a specification. -/
inductive InWords (specification : Specification) : String → Prop where
  | intro {kind called tag user release : String}
      (owner : OwnerInWords specification.owner kind user)
      (access : AccessCalled specification.access called tag)
      (stream : ReleaseInWords specification.stream release) :
      InWords specification
        (kind ++ " " ++ called ++ " " ++ specification.id.text ++ user ++ release)

/-- The tag for the kind of an owner, and the JSON field for the user if one is named. -/
inductive OwnerFields : Owner → String → String → Prop where
  | group : OwnerFields .group "GROUP" ""
  | user {user written : String} (quoted : Json.Quotes user written) :
      OwnerFields (.user (some user)) "USER" (",\"user_id\":" ++ written)
  | currentUser : OwnerFields (.user none) "USER" ""

/-- The JSON object for a stream. -/
inductive StreamObject : DevelopmentStream → String → Prop where
  | mainLine : StreamObject .mainLine "\x7b\"type\":\"project\"\x7d"
  | patch {version : Version} {text written : String} (read : Version.parse text = .ok version)
      (quoted : Json.Quotes text written) :
      StreamObject (.patch version) ("\x7b\"type\":\"patch\",\"version\":" ++ written ++ "\x7d")

/-- The JSON object for a specification. -/
inductive AsObject (specification : Specification) : String → Prop where
  | intro {called accessTag object ownerTag user written : String}
      (access : AccessCalled specification.access called accessTag)
      (stream : StreamObject specification.stream object)
      (owner : OwnerFields specification.owner ownerTag user)
      (quoted : Json.Quotes specification.id.text written) :
      AsObject specification
        ("\x7b\"access_type\":\"" ++ accessTag ++ "\",\"development_stream\":" ++ object ++
          user ++ ",\"workspace_id\":" ++ written ++ ",\"workspace_type\":\"" ++ ownerTag ++
          "\"\x7d")

theorem exists_accessCalled (access : Access) :
    ∃ called tag, AccessCalled access called tag := by
  cases access with
  | live => exact ⟨_, _, .live⟩
  | backup => exact ⟨_, _, .backup⟩
  | resolution => exact ⟨_, _, .resolution⟩

/-- The words for a specification are those in which it is displayed. -/
theorem InWords.eq_display {specification : Specification} {words : String}
    (inWords : specification.InWords words) : words = specification.display := by
  obtain ⟨id, owner, access, stream⟩ := specification
  obtain ⟨isOwner, isAccess, isStream⟩ := inWords
  cases isStream with
  | mainLine => cases isOwner <;> cases isAccess <;> rfl
  | patch read =>
    obtain rfl := Version.parse_eq_ok_iff.1 read
    cases isOwner <;> cases isAccess <;> rfl

theorem exists_inWords (specification : Specification) :
    ∃ words, specification.InWords words := by
  obtain ⟨id, owner, access, stream⟩ := specification
  obtain ⟨_, _, isAccess⟩ := exists_accessCalled access
  obtain ⟨_, _, isOwner⟩ : ∃ kind user, OwnerInWords owner kind user := by
    match owner with
    | .group => exact ⟨_, _, .group⟩
    | .user (some _) => exact ⟨_, _, .user⟩
    | .user none => exact ⟨_, _, .currentUser⟩
  obtain ⟨_, isStream⟩ : ∃ release, ReleaseInWords stream release := by
    cases stream with
    | mainLine => exact ⟨_, .mainLine⟩
    | patch version => exact ⟨_, .patch (Version.parse_eq_ok_iff.2 rfl)⟩
  exact ⟨_, .intro isOwner isAccess isStream⟩

/-- The object for a stream is its JSON form. -/
theorem StreamObject.eq_render {stream : DevelopmentStream} {object : String}
    (isStream : StreamObject stream object) : object = (Interchange.ofStream stream).render := by
  cases isStream with
  | mainLine => decide
  | patch read quoted =>
    obtain rfl := Version.parse_eq_ok_iff.1 read
    obtain rfl := Json.quotes_iff.1 quoted
    apply String.toList_inj.1
    simp [Interchange.ofStream, Interchange.ofVersion, Json.render, Json.renderFields,
      Json.renderText, Json.escape]

theorem AccessCalled.renderText_tag {access : Access} {called tag : String}
    (isAccess : AccessCalled access called tag) :
    Json.renderText access.tag = "\"" ++ tag ++ "\"" := by
  cases isAccess <;> decide

theorem OwnerFields.renderText_tag {owner : Owner} {tag user : String}
    (isOwner : OwnerFields owner tag user) :
    Json.renderText owner.ownership.tag = "\"" ++ tag ++ "\"" := by
  have user : Json.renderText Ownership.user.tag = "\"" ++ "USER" ++ "\"" := by decide
  cases isOwner with
  | group => decide
  | user | currentUser => exact user

/-- The object for a specification is its JSON form. -/
theorem AsObject.eq_render {specification : Specification} {object : String}
    (asObject : specification.AsObject object) :
    object = (Interchange.ofSpecification specification).render := by
  obtain ⟨id, owner, access, stream⟩ := specification
  obtain ⟨isAccess, isStream, isOwner, isId⟩ := asObject
  dsimp only at isAccess isStream isOwner isId
  obtain rfl := isStream.eq_render
  obtain rfl := Json.quotes_iff.1 isId
  have accessTag := isAccess.renderText_tag
  have ownerTag := isOwner.renderText_tag
  have names : ∀ name ∈ ["access_type", "development_stream", "user_id", "workspace_id",
      "workspace_type"], Json.renderText name = "\"" ++ name ++ "\"" := by decide
  simp only [List.forall_mem_cons] at names
  apply String.toList_inj.1
  cases isOwner
  case' user isUser => obtain rfl := Json.quotes_iff.1 isUser
  all_goals
    simp [Interchange.ofSpecification, user?, ownership, Owner.user?, Json.render,
      Json.renderFields, names, accessTag, ownerTag]

theorem exists_asObject (specification : Specification) :
    ∃ object, specification.AsObject object := by
  obtain ⟨id, owner, access, stream⟩ := specification
  obtain ⟨_, _, isAccess⟩ := exists_accessCalled access
  obtain ⟨_, isStream⟩ : ∃ object, StreamObject stream object := by
    cases stream with
    | mainLine => exact ⟨_, .mainLine⟩
    | patch version => exact ⟨_, .patch (Version.parse_eq_ok_iff.2 rfl) (Json.quotes_iff.2 rfl)⟩
  obtain ⟨_, _, isOwner⟩ : ∃ tag user, OwnerFields owner tag user := by
    match owner with
    | .group => exact ⟨_, _, .group⟩
    | .user (some _) => exact ⟨_, _, .user (Json.quotes_iff.2 rfl)⟩
    | .user none => exact ⟨_, _, .currentUser⟩
  exact ⟨_, .intro isAccess isStream isOwner (Json.quotes_iff.2 rfl)⟩

end Specification

namespace BranchRecord

/-- What is printed for a record. -/
inductive Shown : OutputFormat → BranchRecord → String → Prop where
  | words {name words : String} {specification : Specification}
      (inWords : specification.InWords words) :
      Shown .text ⟨name, some specification⟩ (name ++ "\t" ++ words)
  | remark {name : String} : Shown .text ⟨name, none⟩ (name ++ "\tnot a workspace branch")
  | object {name written object : String} {specification : Specification}
      (quoted : Json.Quotes name written) (asObject : specification.AsObject object) :
      Shown .json ⟨name, some specification⟩
        ("\x7b\"branch\":" ++ written ++ ",\"specification\":" ++ object ++ "\x7d")
  | null {name written : String} (quoted : Json.Quotes name written) :
      Shown .json ⟨name, none⟩ ("\x7b\"branch\":" ++ written ++ ",\"specification\":null\x7d")

/-- What is printed for records in sequence, each of them on a line of its own. -/
inductive Printed (format : OutputFormat) : List BranchRecord → String → Prop where
  | none : Printed format [] ""
  | next {record : BranchRecord} {records : List BranchRecord} {line lines : String}
      (shown : Shown format record line) (more : Printed format records lines) :
      Printed format (record :: records) (line ++ "\n" ++ lines)

/-- The written form of a record is its line. -/
theorem Shown.eq_line {format : OutputFormat} {record : BranchRecord} {line : String}
    (shown : Shown format record line) : line = record.line format := by
  cases shown with
  | words inWords =>
    rw [inWords.eq_display]
    rfl
  | remark =>
    apply String.toList_inj.1
    simp [BranchRecord.line, noWorkspace]
  | object quoted asObject =>
    rw [Json.quotes_iff.1 quoted, asObject.eq_render]
    apply String.toList_inj.1
    simp [BranchRecord.line, Json.render, Json.renderFields, Json.renderText, Json.escape]
  | null quoted =>
    rw [Json.quotes_iff.1 quoted]
    apply String.toList_inj.1
    simp [BranchRecord.line, Json.render, Json.renderFields, Json.renderText, Json.escape]

theorem exists_shown (format : OutputFormat) (record : BranchRecord) :
    ∃ line, Shown format record line := by
  obtain ⟨name, found⟩ := record
  cases found with
  | none =>
    cases format with
    | text => exact ⟨_, .remark⟩
    | json => exact ⟨_, .null (Json.quotes_iff.2 rfl)⟩
  | some specification =>
    cases format with
    | text =>
      obtain ⟨_, inWords⟩ := specification.exists_inWords
      exact ⟨_, .words inWords⟩
    | json =>
      obtain ⟨_, asObject⟩ := specification.exists_asObject
      exact ⟨_, .object (Json.quotes_iff.2 rfl) asObject⟩

/-- A record has one written form in each format, which is its line. -/
theorem shown_iff {format : OutputFormat} {record : BranchRecord} {line : String} :
    Shown format record line ↔ line = record.line format := by
  constructor
  · exact Shown.eq_line
  · rintro rfl
    obtain ⟨line, shown⟩ := exists_shown format record
    exact shown.eq_line ▸ shown

/-- Records are printed one after the other. -/
theorem print_append (format : OutputFormat) (first second : List BranchRecord) :
    print format (first ++ second) = print format first ++ print format second := by
  rw [print, List.map_append, String.join_append, print, print]

/-- Records in sequence have one written form in each format, which is printed. -/
theorem printed_iff {format : OutputFormat} {records : List BranchRecord} {output : String} :
    Printed format records output ↔ output = print format records := by
  have single (record : BranchRecord) : print format [record] = record.line format ++ "\n" := by
    simp [print]
  constructor
  · intro printed
    induction printed with
    | none => rfl
    | @next record records _ _ shown _ ih =>
      rw [shown_iff.1 shown, ih, ← single, ← print_append, List.singleton_append]
  · rintro rfl
    induction records with
    | nil => exact .none
    | cons record records ih =>
      rw [← List.singleton_append, print_append, single]
      exact .next (shown_iff.2 rfl) ih

end BranchRecord

end Workstream
