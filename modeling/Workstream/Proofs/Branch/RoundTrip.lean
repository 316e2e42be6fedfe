import Workstream.Proofs.Branch.Grammar

/-!
# Names and specifications determine each other

A name is decoded to the specification that it was encoded from, with the user filled in,
and every name that is decoded is the encoding of what it is decoded to. So no two
branches share a name, no branch has two names, and a stored name can be understood
without knowing who the current user was when it was written.
-/

namespace Workstream.BranchName

open Text.Segments

/-- Filling in the user changes nothing once the owner is spelled. -/
theorem OwnerSpelled.resolve_eq {owner : Owner} {parts : List String}
    (named : OwnerSpelled owner parts) (currentUser : Option String) :
    owner.resolve currentUser = owner := by
  cases named <;> rfl

/-- Filling in the user changes nothing once the specification is spelled. -/
theorem Spelled.resolve_eq {specification : Specification} {parts : List String}
    (spelled : Spelled specification parts) (currentUser : Option String) :
    specification.resolve currentUser = specification := by
  obtain ⟨ownerParts, named, _⟩ := spelled
  simp [Specification.resolve, named.resolve_eq currentUser]

/-- The optional reading of a name is the reading without its fault. -/
theorem decode?_eq_some_iff {name : String} {specification : Specification} :
    decode? name = some specification ↔ decode name = .ok specification := by
  unfold decode?
  cases decode name <;> simp [Except.toOption]

/-- A name is decoded to what it was encoded from, with the user filled in. -/
theorem decode_encode {currentUser : Option String} {specification : Specification}
    {name : String} (written : encode currentUser specification = .ok name) :
    decode name = .ok (specification.resolve currentUser) := by
  obtain ⟨parts, spelled, rfl⟩ := encode_eq_ok_iff.1 written
  exact decode_eq_ok_iff.2 ⟨parts, spelled, rfl⟩

/-- Specifications with one name mean the same branch. -/
theorem resolve_eq_of_encode {currentUser otherUser : Option String}
    {specification other : Specification} {name : String}
    (written : encode currentUser specification = .ok name)
    (otherWritten : encode otherUser other = .ok name) :
    specification.resolve currentUser = other.resolve otherUser :=
  Except.ok.inj ((decode_encode written).symm.trans (decode_encode otherWritten))

/-- The branches of a workspace have different names. -/
theorem encode_withAccess_ne {currentUser : Option String} {specification : Specification}
    {access other : Access} {name otherName : String} (differs : access ≠ other)
    (written : encode currentUser (specification.withAccess access) = .ok name)
    (otherWritten : encode currentUser (specification.withAccess other) = .ok otherName) :
    name ≠ otherName := by
  rintro rfl
  exact differs (congrArg Specification.access (resolve_eq_of_encode written otherWritten))

/-- When one branch of a workspace has a name, the others have names too. -/
theorem encode_withAccess {currentUser : Option String} {specification : Specification}
    {name : String} (written : encode currentUser specification = .ok name) (access : Access) :
    ∃ other, encode currentUser (specification.withAccess access) = .ok other := by
  obtain ⟨parts, ⟨ownerParts, named, _⟩, _⟩ := encode_eq_ok_iff.1 written
  exact ⟨_, encode_eq_ok_iff.2 ⟨_, ⟨ownerParts, named, rfl⟩, rfl⟩⟩

/-- Specifications with one name mean the same kind of branch. -/
theorem access_eq_of_encode {currentUser otherUser : Option String}
    {specification other : Specification} {name : String}
    (written : encode currentUser specification = .ok name)
    (otherWritten : encode otherUser other = .ok name) : specification.access = other.access := by
  have same := congrArg Specification.access (resolve_eq_of_encode written otherWritten)
  exact same

/-- Specifications with one name are about the same stream. -/
theorem stream_eq_of_encode {currentUser otherUser : Option String}
    {specification other : Specification} {name : String}
    (written : encode currentUser specification = .ok name)
    (otherWritten : encode otherUser other = .ok name) : specification.stream = other.stream := by
  have same := congrArg Specification.stream (resolve_eq_of_encode written otherWritten)
  exact same

/-- What a name is decoded to has that name for every current user. -/
theorem encode_decode {name : String} {specification : Specification}
    (read : decode name = .ok specification) (currentUser : Option String) :
    encode currentUser specification = .ok name := by
  obtain ⟨parts, spelled, rfl⟩ := decode_eq_ok_iff.1 read
  exact encode_eq_ok_iff.2 ⟨parts, (spelled.resolve_eq currentUser).symm ▸ spelled, rfl⟩

/-- A name is read as what it was made of, with the user filled in. -/
theorem decode?_of_encode {currentUser : Option String} {specification : Specification}
    {name : String} (written : encode currentUser specification = .ok name) :
    decode? name = some (specification.resolve currentUser) :=
  decode?_eq_some_iff.2 (decode_encode written)

/-- What a name is read as has that name for every current user. -/
theorem encode_of_decode? {name : String} {specification : Specification}
    (read : decode? name = some specification) (currentUser : Option String) :
    encode currentUser specification = .ok name :=
  encode_decode (decode?_eq_some_iff.1 read) currentUser

/-- Names that are read as one specification are the same. -/
theorem decode?_inj {name other : String} {specification : Specification}
    (read : decode? name = some specification) (otherRead : decode? other = some specification) :
    name = other :=
  Except.ok.inj ((encode_of_decode? read none).symm.trans (encode_of_decode? otherRead none))

/-- The name of a workspace that leaves no user open is the same for every current user. -/
theorem encode_of_pinned {currentUser : Option String} {specification : Specification}
    {name : String} (pinned : specification.awaitsUser = false)
    (written : encode currentUser specification = .ok name) (otherUser : Option String) :
    encode otherUser specification = .ok name := by
  have read := decode_encode written
  rw [Specification.resolve_of_pinned pinned] at read
  exact encode_decode read otherUser

/-- A name that belongs to a user's workspace says whose it is. -/
theorem user?_isSome_of_decode {name : String} {specification : Specification}
    (read : decode name = .ok specification) (owned : specification.ownership = .user) :
    specification.user?.isSome := by
  obtain ⟨parts, ⟨ownerParts, named, _⟩, _⟩ := decode_eq_ok_iff.1 read
  obtain ⟨id, owner, access, stream⟩ := specification
  cases named with
  | user segment => rfl
  | group => cases owned

/-- Filling in the user does not change the name. -/
theorem encode_resolve (currentUser : Option String) (specification : Specification) :
    encode currentUser (specification.resolve currentUser) =
      encode currentUser specification := by
  obtain ⟨id, owner, access, stream⟩ := specification
  cases owner with
  | group => rfl
  | user pinned =>
    have same : (pinned.or currentUser).or currentUser = pinned.or currentUser := by
      cases pinned <;> cases currentUser <;> rfl
    simp only [encode, segments, resolveUser, Specification.resolve, Owner.resolve, same,
      Specification.ownership, Owner.ownership]

/-- Filling in the user does not change the names of the other branches of a workspace. -/
theorem encode_resolve_withAccess (currentUser : Option String) (specification : Specification)
    (access : Access) : encode currentUser ((specification.resolve currentUser).withAccess access) =
      encode currentUser (specification.withAccess access) :=
  encode_resolve currentUser (specification.withAccess access)

/-- Specifications with one name mean the same workspace, so its other branches have one name
each as well. -/
theorem encode_withAccess_of_encode {currentUser otherUser : Option String}
    {specification other : Specification} {name companion : String} {access : Access}
    (written : encode currentUser specification = .ok name)
    (otherWritten : encode otherUser other = .ok name)
    (companionWritten : encode currentUser (specification.withAccess access) = .ok companion) :
    encode otherUser (other.withAccess access) = .ok companion := by
  have same : (specification.withAccess access).resolve currentUser =
      (other.withAccess access).resolve otherUser :=
    congrArg (·.withAccess access) (resolve_eq_of_encode written otherWritten)
  have read := decode_encode companionWritten
  rw [same] at read
  rw [← encode_resolve]
  exact encode_decode read otherUser

/-- There is no name exactly when the workspace of a user has no user that can be a
segment. -/
theorem encode_eq_error_iff {currentUser : Option String} {specification : Specification} :
    (∃ error, encode currentUser specification = .error error) ↔
      specification.ownership = .user ∧
        ∀ user, specification.user?.or currentUser = some user → ¬ IsSegment user := by
  obtain ⟨id, owner, access, stream⟩ := specification
  constructor
  · rintro ⟨error, failed⟩
    have unspelled : ∀ parts, ¬ Spelled (Specification.resolve currentUser
        ⟨id, owner, access, stream⟩) parts := by
      intro parts spelled
      have written := encode_eq_ok_iff.2 ⟨parts, spelled, rfl⟩
      rw [failed] at written
      cases written
    cases owner with
    | group => exact absurd ⟨[], .group, rfl⟩ (unspelled _)
    | user pinned =>
      refine ⟨rfl, fun user chosen segment => unspelled _ ⟨[user], ?_, rfl⟩⟩
      have chosen : pinned.or currentUser = some user := chosen
      simp only [Specification.resolve, Owner.resolve, chosen]
      exact .user segment
  · rintro ⟨isUser, refused⟩
    cases written : encode currentUser ⟨id, owner, access, stream⟩ with
    | error error => exact ⟨error, rfl⟩
    | ok name =>
      obtain ⟨parts, ⟨ownerParts, named, _⟩, _⟩ := encode_eq_ok_iff.1 written
      cases owner with
      | group => cases isUser
      | user pinned =>
        simp only [Specification.resolve, Owner.resolve] at named
        generalize chosen : pinned.or currentUser = found at named
        cases named with
        | user segment => exact absurd segment (refused _ chosen)

/-- Naming a branch and reading the name back gives the specification with its user
filled in. There is no name exactly when the workspace of a user has no user or one that
is empty or holds a slash, and two specifications with one name mean the same branch. -/
theorem encode_roundTrip (specification : Specification) (currentUser : Option String) :
    (∀ name, encode currentUser specification = .ok name →
      decode? name = some (specification.resolve currentUser)) ∧
    ((∃ error, encode currentUser specification = .error error) ↔
      specification.ownership = .user ∧
        ((specification.user? = none ∧ currentUser = none) ∨
          ∃ user, specification.user?.or currentUser = some user ∧
            (user = "" ∨ '/' ∈ user.toList))) ∧
    ∀ other otherUser name, encode currentUser specification = .ok name →
      encode otherUser other = .ok name →
        specification.resolve currentUser = other.resolve otherUser := by
  refine ⟨fun name written => decode?_eq_some_iff.2 (decode_encode written), ?_, ?_⟩
  · rw [encode_eq_error_iff]
    refine and_congr_right fun _ => ?_
    constructor
    · intro refused
      cases chosen : specification.user?.or currentUser with
      | none => exact .inl (Option.or_eq_none_iff.1 chosen)
      | some user =>
        refine .inr ⟨user, rfl, ?_⟩
        have noSegment := refused user chosen
        unfold IsSegment at noSegment
        tauto
    · rintro (⟨unpinned, absent⟩ | ⟨user, chosen, bad⟩) other found segment
      · simp [unpinned, absent] at found
      · obtain rfl : user = other := Option.some.inj (chosen.symm.trans found)
        rcases bad with empty | slash
        · exact segment.1 empty
        · exact segment.2 slash
  · exact fun other otherUser name => resolve_eq_of_encode

/-- A specification whose id and user look like reserved words keeps both of them. -/
theorem encode_roundTrip_reserved :
    decode? "patch/1.0.2147483647/workspace/group/main" =
      some { id := ⟨"main", by decide, by decide⟩, owner := .user (some "group"),
             access := .live, stream := .patch ⟨1, 0, 2147483647⟩ } :=
  (encode_roundTrip
    { id := ⟨"main", by decide, by decide⟩, owner := .user none, access := .live,
      stream := .patch ⟨1, 0, 2147483647⟩ } (some "group")).1 _ (by decide +kernel)

/-- Exactly the names that belong to some specification are decoded. What a name is
decoded to has this name and no other one, whoever the current user is, and its segments
are the spelling of the specification. -/
theorem decode?_accepts_names (name : String) :
    ((∃ specification, decode? name = some specification) ↔
      ∃ specification currentUser, encode currentUser specification = .ok name) ∧
    (∀ specification, decode? name = some specification →
      (∀ currentUser, encode currentUser specification = .ok name) ∧
        ∀ other, decode? other = some specification → other = name) ∧
    ∀ specification, decode? name = some specification ↔
      ∃ parts, Spelled specification parts ∧ name = joinStrings '/' parts := by
  simp only [decode?_eq_some_iff]
  refine ⟨⟨?_, ?_⟩, ?_, fun _ => decode_eq_ok_iff⟩
  · rintro ⟨specification, read⟩
    exact ⟨specification, none, encode_decode read none⟩
  · rintro ⟨specification, currentUser, written⟩
    exact ⟨_, decode_encode written⟩
  · intro specification read
    refine ⟨encode_decode read, fun other readOther => ?_⟩
    exact Except.ok.inj ((encode_decode readOther none).symm.trans (encode_decode read none))

example : decode? "" = none := by decide

example : decode? "patch/1.02.3/group/w" = none := by decide +kernel

example : decode? "workspace/someone/w/" = none := by decide +kernel

end Workstream.BranchName
