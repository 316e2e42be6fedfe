import Mathlib.Tactic.SplitIfs
import Workstream.Branch.Name
import Workstream.Proofs.VersionText
import Workstream.Results

/-!
# The grammar of branch names

`Spelled` says which segments spell a specification. It is stated apart from `encode`
and `decode`, and both are shown to follow it: `encode` writes the spelling of the
specification with its user filled in, and `decode` accepts exactly the spellings. Only
specifications that leave no user open are spelled, so a name needs no current user to
be understood.
-/

namespace Workstream

/-- The owner with an open user filled in. -/
def Owner.resolve (currentUser : Option String) : Owner → Owner
  | .user pinned => .user (pinned.or currentUser)
  | .group => .group

namespace Specification

/-- The specification with an open user filled in. -/
def resolve (currentUser : Option String) (specification : Specification) : Specification :=
  { specification with owner := specification.owner.resolve currentUser }

/-- Filling in the user does not change the kind of the owner. -/
@[simp] theorem ownership_resolve (currentUser : Option String) (specification : Specification) :
    (specification.resolve currentUser).ownership = specification.ownership := by
  obtain ⟨id, owner, access, stream⟩ := specification
  cases owner <;> rfl

/-- Nothing is filled in where no user is left open. -/
theorem resolve_of_pinned {specification : Specification}
    (pinned : specification.awaitsUser = false) (currentUser : Option String) :
    specification.resolve currentUser = specification := by
  obtain ⟨id, owner, access, stream⟩ := specification
  cases owner with
  | group => rfl
  | user named =>
    cases named with
    | none => simp [awaitsUser] at pinned
    | some user => rfl

/-- A specification is reached in the way that it says. -/
theorem withAccess_of_access {specification : Specification} {access : Access}
    (same : specification.access = access) : specification.withAccess access = specification := by
  subst same
  rfl

end Specification

namespace BranchName

open Text.Segments

/-- A text can stand as a segment: it is not empty and holds no separator. -/
def IsSegment (text : String) : Prop := text ≠ "" ∧ '/' ∉ text.toList

/-- The segments that name an owner. An open user has none. -/
inductive OwnerSpelled : Owner → List String → Prop where
  | user {user : String} (segment : IsSegment user) : OwnerSpelled (.user (some user)) [user]
  | group : OwnerSpelled .group []

/-- The segments that spell a specification. -/
def Spelled (specification : Specification) (parts : List String) : Prop :=
  ∃ ownerParts, OwnerSpelled specification.owner ownerParts ∧
    parts = streamSegments specification.stream ++
      token specification.ownership specification.access :: (ownerParts ++ [specification.id.text])

/-- A user is refused exactly when it is no segment. -/
theorem userFault?_eq_none_iff {user : String} : userFault? user = none ↔ IsSegment user := by
  unfold userFault? IsSegment
  split_ifs with empty slash <;> simp_all

/-- The user of a name is the pinned one or else the current one, if it is a segment. -/
theorem resolveUser_eq_ok_iff {currentUser pinned : Option String} {id : WorkspaceId}
    {user : String} : resolveUser currentUser id pinned = .ok user ↔
      pinned.or currentUser = some user ∧ IsSegment user := by
  unfold resolveUser
  cases chosen : pinned.or currentUser with
  | none => simp
  | some found =>
    cases fault : userFault? found with
    | none =>
      have segment := userFault?_eq_none_iff.1 fault
      simp only [fault, Except.ok.injEq, Option.some.injEq]
      exact ⟨fun same => ⟨same, same ▸ segment⟩, fun both => both.1⟩
    | some reason =>
      have noSegment : ¬ IsSegment found := by simp [← userFault?_eq_none_iff, fault]
      simp only [fault, reduceCtorEq, Option.some.injEq, false_iff, not_and]
      exact fun same => same ▸ noSegment

/-- The segments of a name spell the specification with its user filled in. -/
theorem segments_eq_ok_iff {currentUser : Option String} {specification : Specification}
    {parts : List String} : segments currentUser specification = .ok parts ↔
      Spelled (specification.resolve currentUser) parts := by
  obtain ⟨id, owner, access, stream⟩ := specification
  cases owner with
  | group =>
    constructor
    · intro written
      exact ⟨[], .group, (Except.ok.inj written).symm⟩
    · rintro ⟨ownerParts, ⟨⟩, rfl⟩
      rfl
  | user pinned =>
    constructor
    · intro written
      cases resolved : resolveUser currentUser id pinned with
      | error failure => simp [segments, resolved] at written
      | ok user =>
        obtain ⟨chosen, segment⟩ := resolveUser_eq_ok_iff.1 resolved
        simp only [segments, resolved, ok_bind, pure_eq_ok, Except.ok.injEq] at written
        refine ⟨[user], ?_, written.symm⟩
        simp only [Specification.resolve, Owner.resolve, chosen]
        exact .user segment
    · rintro ⟨ownerParts, named, rfl⟩
      simp only [Specification.resolve, Owner.resolve] at named
      generalize chosen : pinned.or currentUser = found at named
      cases named with
      | @user user segment =>
        have resolved : resolveUser currentUser id pinned = .ok user :=
          resolveUser_eq_ok_iff.2 ⟨chosen, segment⟩
        simp only [segments, resolved, ok_bind, pure_eq_ok]
        rfl

/-- A name is the spelling of the specification with its user filled in. -/
theorem encode_eq_ok_iff {currentUser : Option String} {specification : Specification}
    {name : String} : encode currentUser specification = .ok name ↔
      ∃ parts, Spelled (specification.resolve currentUser) parts ∧
        name = joinStrings '/' parts := by
  unfold encode
  cases written : segments currentUser specification with
  | error failure =>
    have unspelled : ∀ parts, ¬ Spelled (specification.resolve currentUser) parts := by
      simp [← segments_eq_ok_iff, written]
    simp [unspelled]
  | ok parts =>
    have spelled := segments_eq_ok_iff.1 written
    constructor
    · intro named
      exact ⟨parts, spelled, (Except.ok.inj named).symm⟩
    · rintro ⟨others, spelledOthers, rfl⟩
      have same := segments_eq_ok_iff.2 spelledOthers
      rw [written] at same
      rw [← Except.ok.inj same]
      rfl

/-- The token of an ownership and an access kind is read as these. -/
theorem ofToken?_token (ownership : Ownership) (access : Access) :
    ofToken? (token ownership access) = some (ownership, access) := by
  cases ownership <;> cases access <;> decide

/-- A segment is read as a token only if it is that token. -/
theorem token_of_ofToken? {segment : String} {ownership : Ownership} {access : Access}
    (read : ofToken? segment = some (ownership, access)) : token ownership access = segment := by
  simpa using List.find?_some read

/-- No token is the word before the version of a patch stream. -/
theorem token_ne_patchSegment (ownership : Ownership) (access : Access) :
    token ownership access ≠ patchSegment := by
  cases ownership <;> cases access <;> decide

/-- The id of a finished specification has the given text. -/
theorem finish_eq_ok_iff {owner : Owner} {access : Access} {stream : DevelopmentStream}
    {id : String} {specification : Specification} :
    finish owner access stream id = .ok specification ↔
      specification.id.text = id ∧ specification.owner = owner ∧
        specification.access = access ∧ specification.stream = stream := by
  obtain ⟨workspace, other, kind, line⟩ := specification
  unfold finish
  constructor
  · intro read
    cases parsed : WorkspaceId.parse id with
    | error fault => simp [parsed] at read
    | ok found =>
      have text := WorkspaceId.text_of_parse parsed
      simp only [parsed, Except.ok.injEq, Specification.mk.injEq] at read
      obtain ⟨rfl, rfl, rfl, rfl⟩ := read
      exact ⟨text, rfl, rfl, rfl⟩
  · rintro ⟨rfl, rfl, rfl, rfl⟩
    simp [WorkspaceId.parse_text]

/-- What follows the segments of the stream is read as the token, the owner and the id. -/
theorem decodeWorkspace_eq_ok_iff {stream : DevelopmentStream} {parts : List String}
    {specification : Specification} (segments : ∀ part ∈ parts, IsSegment part) :
    decodeWorkspace stream parts = .ok specification ↔
      specification.stream = stream ∧ ∃ ownerParts, OwnerSpelled specification.owner ownerParts ∧
        parts = token specification.ownership specification.access ::
          (ownerParts ++ [specification.id.text]) := by
  constructor
  · intro read
    cases parts with
    | nil => cases read
    | cons first rest =>
      simp only [decodeWorkspace] at read
      split at read
      · cases read
      · rename_i access id found
        obtain ⟨text, owner, rfl, rfl⟩ := finish_eq_ok_iff.1 read
        refine ⟨rfl, [], owner ▸ .group, ?_⟩
        simp [← token_of_ofToken? found, Specification.ownership, owner, Owner.ownership, text]
      · rename_i access user id found
        obtain ⟨text, owner, rfl, rfl⟩ := finish_eq_ok_iff.1 read
        refine ⟨rfl, [user], owner ▸ .user (segments user (by simp)), ?_⟩
        simp [← token_of_ofToken? found, Specification.ownership, owner, Owner.ownership, text]
      · cases read
  · rintro ⟨rfl, ownerParts, named, rfl⟩
    obtain ⟨id, owner, access, stream⟩ := specification
    simp only [decodeWorkspace, ofToken?_token]
    cases named <;> exact finish_eq_ok_iff.2 ⟨rfl, rfl, rfl, rfl⟩

/-- The segments of a name are read as the specification that they spell. -/
theorem decodeSegments_eq_ok_iff {parts : List String} {specification : Specification}
    (segments : ∀ part ∈ parts, IsSegment part) :
    decodeSegments parts = .ok specification ↔ Spelled specification parts := by
  constructor
  · intro read
    unfold decodeSegments at read
    split at read
    · cases read
    · rename_i first rest
      split_ifs at read with isPatch
      · split at read
        · cases read
        · rename_i version rest
          split at read
          · rename_i release parsed
            have rests : ∀ part ∈ rest, IsSegment part := fun part member =>
              segments part (by simp [member])
            obtain ⟨stream, ownerParts, named, rfl⟩ := (decodeWorkspace_eq_ok_iff rests).1 read
            refine ⟨ownerParts, named, ?_⟩
            simp [stream, streamSegments, isPatch, Version.parse_eq_ok_iff.1 parsed]
          · cases read
      · obtain ⟨stream, ownerParts, named, same⟩ := (decodeWorkspace_eq_ok_iff segments).1 read
        exact ⟨ownerParts, named, by simpa [stream, streamSegments] using same⟩
  · rintro ⟨ownerParts, named, rfl⟩
    cases stream : specification.stream with
    | mainLine =>
      simp only [stream, streamSegments, List.nil_append] at segments ⊢
      simp only [decodeSegments, if_neg (token_ne_patchSegment _ _)]
      exact (decodeWorkspace_eq_ok_iff segments).2 ⟨stream, ownerParts, named, rfl⟩
    | patch version =>
      have parsed : Version.parse version.text = .ok version := Version.parse_eq_ok_iff.2 rfl
      simp only [stream, streamSegments, List.cons_append, List.nil_append] at segments ⊢
      simp only [decodeSegments, if_pos, parsed]
      refine (decodeWorkspace_eq_ok_iff fun part member => segments part ?_).2
        ⟨stream, ownerParts, named, rfl⟩
      exact List.mem_cons_of_mem _ (List.mem_cons_of_mem _ member)

/-- Whatever names an owner can stand between separators. -/
theorem OwnerSpelled.isSegment {owner : Owner} {parts : List String}
    (named : OwnerSpelled owner parts) : ∀ part ∈ parts, IsSegment part := by
  cases named with
  | user segment => simpa using segment
  | group => simp

/-- Whatever spells a specification can stand between separators. -/
theorem Spelled.isSegment {specification : Specification} {parts : List String}
    (spelled : Spelled specification parts) : ∀ part ∈ parts, IsSegment part := by
  obtain ⟨ownerParts, named, rfl⟩ := spelled
  have streamParts : ∀ part ∈ streamSegments specification.stream, IsSegment part := by
    cases specification.stream with
    | mainLine => simp [streamSegments]
    | patch version =>
      have slashFree : '/' ∉ version.text.toList := fun member =>
        absurd (Version.isDigit_or_dot_of_mem_text member) (by decide)
      simp only [streamSegments, List.mem_cons, List.not_mem_nil, or_false, forall_eq_or_imp,
        forall_eq]
      exact ⟨by unfold IsSegment; decide, Version.text_ne_empty version, slashFree⟩
  have tokenPart : IsSegment (token specification.ownership specification.access) := by
    unfold IsSegment
    cases specification.ownership <;> cases specification.access <;> decide
  have idPart : IsSegment specification.id.text :=
    ⟨specification.id.nonempty, specification.id.slashFree⟩
  intro part member
  simp only [List.mem_append, List.mem_cons, List.not_mem_nil, or_false] at member
  rcases member with stream | rfl | owner | rfl
  · exact streamParts part stream
  · exact tokenPart
  · exact named.isSegment part owner
  · exact idPart

/-- A specification is spelled by at least a token and an id. -/
theorem Spelled.two_le_length {specification : Specification} {parts : List String}
    (spelled : Spelled specification parts) : 2 ≤ parts.length := by
  obtain ⟨ownerParts, _, rfl⟩ := spelled
  simp
  omega

/-- The segments of a joined spelling are the spelling. -/
theorem Spelled.splitString_joinStrings {specification : Specification} {parts : List String}
    (spelled : Spelled specification parts) : splitString '/' (joinStrings '/' parts) = parts := by
  have long := spelled.two_le_length
  refine Text.Segments.splitString_joinStrings ?_ fun part member =>
    (spelled.isSegment part member).2
  rintro rfl
  simp at long

/-- A name is read as a specification exactly when it is a spelling of it. -/
theorem decode_eq_ok_iff {name : String} {specification : Specification} :
    decode name = .ok specification ↔
      ∃ parts, Spelled specification parts ∧ name = joinStrings '/' parts := by
  constructor
  · intro read
    unfold decode at read
    split_ifs at read with empty mainLine
    simp only at read
    split_ifs at read with emptySegment
    have segments : ∀ part ∈ splitString '/' name, IsSegment part := by
      intro part member
      refine ⟨fun missing => emptySegment (missing ▸ member), ?_⟩
      obtain ⟨chars, listed, rfl⟩ := List.mem_map.1 member
      simpa using separator_not_mem_split '/' name.toList chars listed
    exact ⟨splitString '/' name, (decodeSegments_eq_ok_iff segments).1 read,
      (joinStrings_splitString '/' name).symm⟩
  · rintro ⟨parts, spelled, rfl⟩
    have long := spelled.two_le_length
    have cut := spelled.splitString_joinStrings
    have notSingle : ∀ word, splitString '/' word = [word] → joinStrings '/' parts ≠ word := by
      rintro word single rfl
      rw [cut] at single
      rw [single] at long
      simp at long
    have nonempty : "" ∉ parts := fun member => (spelled.isSegment "" member).1 rfl
    unfold decode
    rw [if_neg (notSingle "" (by decide)), if_neg]
    · simp only [cut, if_neg nonempty]
      exact (decodeSegments_eq_ok_iff spelled.isSegment).2 spelled
    · simp only [mainLineNames, List.mem_cons, List.not_mem_nil, or_false, not_or]
      exact ⟨notSingle "main" (by decide), notSingle "master" (by decide)⟩

end BranchName

end Workstream
