import Workstream.Proofs.Store.Ledger

/-!
# Revisions are known by their ids

Whether a workspace is outdated and which revision is meant is decided by ids alone. This is
sound as long as the digest does not collide on what was hashed: nothing is hashed twice, as
every commit has a number of its own that can be read off its bytes, and every stored revision
is a copy of what some commit has made.
-/

namespace Workstream

/-- No two of the byte strings have one id. -/
def CollisionFree (hashed : List (List UInt8)) : Prop :=
  ∀ first ∈ hashed, ∀ second ∈ hashed,
    RevisionId.ofPreimage first = RevisionId.ofPreimage second → first = second

instance (hashed : List (List UInt8)) : Decidable (CollisionFree hashed) :=
  inferInstanceAs (Decidable (∀ first ∈ hashed, ∀ second ∈ hashed,
    RevisionId.ofPreimage first = RevisionId.ofPreimage second → first = second))

/-- The id of the revision is a proper one. -/
def Snapshot.IsProper (snapshot : Snapshot) : Prop := snapshot.revision.id.IsHexadecimal

namespace Commit

/-- The id of a revision that was made is a proper one. -/
theorem isProper_snapshot (commit : Commit) : commit.snapshot.IsProper :=
  RevisionId.isHexadecimal_ofPreimage commit.preimage

/-- The message of a first commit is shorter than an id. -/
theorem length_firstMessage :
    (Text.encodeUtf8 Projects.firstMessage).length < RevisionId.digits := by
  decide

/-- The number of a commit can be read off the bytes of its id. -/
theorem sequence_eq_of_preimage_eq {first second : Commit}
    (founded : first.FoundedOn Snapshot.IsProper)
    (secondFounded : second.FoundedOn Snapshot.IsProper) (fits : first.sequence < 2 ^ 64)
    (secondFits : second.sequence < 2 ^ 64) (same : first.preimage = second.preimage) :
    first.sequence = second.sequence := by
  unfold preimage at same
  cases founded with
  | first parentless message empty =>
    cases secondFounded with
    | first secondParentless _ _ =>
      rw [parentless, secondParentless] at same
      exact RevisionId.sequence_eq_of_preimage_none fits secondFits same
    | later parent proper =>
      rw [parentless, parent, message, empty] at same
      exact absurd same.symm (RevisionId.preimage_some_ne_none proper length_firstMessage)
  | later parent proper =>
    cases secondFounded with
    | first parentless message empty =>
      rw [parentless, parent, message, empty] at same
      exact absurd same (RevisionId.preimage_some_ne_none proper length_firstMessage)
    | later secondParent secondProper =>
      rw [parent, secondParent] at same
      exact RevisionId.sequence_eq_of_preimage_some proper secondProper fits secondFits same

end Commit

/-- The commits account for everything that is stored in a session. -/
structure Recorded (commits : List Commit) (session : Session) : Prop where
  counted : session.store.sequence = commits.length
  numbered : commits.map (·.sequence) = List.range' 1 commits.length
  /-- Each is the first one of its project or made on a revision with a proper id. -/
  founded : ∀ commit ∈ commits, commit.FoundedOn Snapshot.IsProper
  stored : session.StoresOnly fun snapshot => ∃ commit ∈ commits, snapshot = commit.snapshot

namespace Recorded

variable {commits : List Commit} {before after session : Session}

/-- Before the first commit nothing is stored. -/
theorem start (currentUser : Option String) (structureVersion : Nat) :
    Recorded [] (.start currentUser structureVersion) :=
  ⟨rfl, rfl, List.forall_mem_nil _, fun _ ⟨_, _, found, _⟩ => nomatch found⟩

/-- What a step commits is added to the commits. -/
theorem mint (recorded : Recorded commits before) {made : Option Commit}
    (mints : Mints before after made) : Recorded (commits ++ made.toList) after := by
  cases mints with
  | nothing sequence stores =>
    rw [Option.toList_none, List.append_nil]
    exact { recorded with
      counted := sequence.trans recorded.counted
      stored := fun _ isStored => recorded.stored (stores isStored) }
  | @commit commit founded isNext sequence stores =>
    rw [Option.toList_some]
    refine ⟨?_, ?_, ?_, ?_⟩
    · rw [sequence, recorded.counted, List.length_append]
      rfl
    · rw [List.map_append, recorded.numbered, List.length_append, List.length_singleton,
        List.range'_1_concat, List.map_singleton, isNext, recorded.counted, Nat.add_comm]
    · intro other member
      rcases List.mem_append.1 member with member | member
      · exact recorded.founded other member
      · -- The parent was stored before, so it was made by an earlier commit.
        rw [List.mem_singleton.1 member]
        refine founded.mono fun head isStored => ?_
        obtain ⟨earlier, _, rfl⟩ := recorded.stored isStored
        exact earlier.isProper_snapshot
    · intro snapshot isStored
      rcases stores isStored with isStored | rfl
      · obtain ⟨earlier, member, same⟩ := recorded.stored isStored
        exact ⟨earlier, List.mem_append_left _ member, same⟩
      · exact ⟨commit, by simp, rfl⟩

/-- The numbers of the commits are different. -/
theorem nodup_sequence (recorded : Recorded commits session) :
    (commits.map (·.sequence)).Nodup := by
  rw [recorded.numbered]
  exact List.nodup_range' ..

/-- No number is larger than the number of commits. -/
theorem sequence_le (recorded : Recorded commits session) {commit : Commit}
    (member : commit ∈ commits) : commit.sequence ≤ commits.length := by
  have listed : commit.sequence ∈ commits.map (·.sequence) := List.mem_map_of_mem member
  rw [recorded.numbered, List.mem_range'_1] at listed
  omega

/-- No two commits hash the same bytes. -/
theorem eq_of_preimage_eq (recorded : Recorded commits session)
    (few : commits.length < 2 ^ 64) {first second : Commit} (member : first ∈ commits)
    (secondMember : second ∈ commits) (same : first.preimage = second.preimage) :
    first = second := by
  have fits := Nat.lt_of_le_of_lt (recorded.sequence_le member) few
  have secondFits := Nat.lt_of_le_of_lt (recorded.sequence_le secondMember) few
  have number := Commit.sequence_eq_of_preimage_eq (recorded.founded first member)
    (recorded.founded second secondMember) fits secondFits same
  exact List.inj_on_of_nodup_map recorded.nodup_sequence member secondMember number

/-- The bytes that the commits hash are listed without a repetition. -/
theorem nodup_preimage (recorded : Recorded commits session)
    (few : commits.length < 2 ^ 64) : (commits.map Commit.preimage).Nodup :=
  recorded.nodup_sequence.of_map.map_on fun _ member _ secondMember same =>
    recorded.eq_of_preimage_eq few member secondMember same

/-- Stored revisions with one id are the same unless the digest collides. -/
theorem eq_of_id_eq (recorded : Recorded commits session) (few : commits.length < 2 ^ 64)
    (collisionFree : CollisionFree (commits.map Commit.preimage)) {first second : Snapshot}
    (stored : session.Stores first) (secondStored : session.Stores second)
    (same : first.revision.id = second.revision.id) : first = second := by
  obtain ⟨commit, member, rfl⟩ := recorded.stored stored
  obtain ⟨other, otherMember, rfl⟩ := recorded.stored secondStored
  have bytes := collisionFree _ (List.mem_map_of_mem member) _
    (List.mem_map_of_mem otherMember) same
  rw [recorded.eq_of_preimage_eq few member otherMember bytes]

end Recorded

/-- After a step the ledger accounts for what is stored. -/
theorem Step.recorded {past : List Exchange} {before after : Session} {request : Request}
    {answer : Answer} (step : Step before request answer after)
    (recorded : Recorded (ledger past) before) :
    Recorded (ledger (past ++ [⟨before, request, answer⟩])) after := by
  rw [ledger_append, ledger_singleton]
  exact recorded.mint step.mints

/-- The commits of a run account for what is stored after it. -/
theorem Steps.recorded {past later : List Exchange} {before after : Session}
    (steps : Steps before later after) (recorded : Recorded (ledger past) before) :
    Recorded (ledger (past ++ later)) after :=
  steps.invariant (fun past session => Recorded (ledger past) session)
    (fun recorded step => step.recorded recorded) recorded

/-- The ledger of a run accounts for what is stored after it. -/
theorem Session.recorded_after (currentUser : Option String) (structureVersion : Nat)
    (requests : List Request) :
    Recorded (ledger ((Session.start currentUser structureVersion).exchanges requests))
      ((Session.start currentUser structureVersion).after requests) := by
  have recorded : Recorded (ledger ([] ++ _)) _ :=
    (steps_exchanges _ requests).recorded (.start currentUser structureVersion)
  rwa [List.nil_append] at recorded

/-- The commits of a run hash different bytes as long as there are fewer than 2^64 of them,
and they have made all revisions that are stored. Every stored revision has an id of forty
hexadecimal digits, and stored revisions with one id are the same, wherever they are stored,
unless the truncated digests of two byte strings that were hashed in the run collide. -/
theorem revisions_identified {currentUser : Option String} {structureVersion : Nat}
    {initial session : Session} {requests : List Request} {commits : List Commit}
    (isInitial : initial = .start currentUser structureVersion)
    (isSession : session = initial.after requests)
    (isLedger : commits = ledger (initial.exchanges requests))
    (few : commits.length < 2 ^ 64) :
    session.store.sequence = commits.length ∧
      (commits.map Commit.preimage).Nodup ∧
      (∀ snapshot, session.Stores snapshot →
        snapshot.revision.id.IsHexadecimal ∧ ∃ commit ∈ commits, snapshot = commit.snapshot) ∧
      (CollisionFree (commits.map Commit.preimage) →
        ∀ first second, session.Stores first → session.Stores second →
          first.revision.id = second.revision.id → first = second) := by
  subst isInitial isSession isLedger
  have steps := (Session.start currentUser structureVersion).steps_exchanges requests
  have recorded : Recorded (ledger ([] ++ _)) _ :=
    steps.recorded (.start currentUser structureVersion)
  rw [List.nil_append] at recorded
  refine ⟨recorded.counted, recorded.nodup_preimage few, ?_, ?_⟩
  · intro snapshot stored
    obtain ⟨commit, member, rfl⟩ := recorded.stored stored
    exact ⟨commit.isProper_snapshot, commit, member, rfl⟩
  · exact fun collisionFree first second => recorded.eq_of_id_eq few collisionFree

/-- A run in which revisions of a stream and of a workspace are copied. -/
def copyingRun : List Request :=
  [.createProject "p" "g" "a", .createWorkspace "p" Workspaces.sharedWorkspace,
    .commitToWorkspace "p" Workspaces.sharedWorkspace "same" [.put "a::e" "ours"],
    .commitToStream "p" .mainLine "same" [.put "a::f" "theirs"],
    .updateWorkspace "p" Workspaces.sharedWorkspace,
    .openReview "p" Workspaces.sharedWorkspace]

/-- The digest does not collide in the run, so the copies are told apart by their ids. -/
theorem revisions_identified_copies :
    (ledger ((Session.start none 13).exchanges copyingRun)).map (·.message) =
      [Projects.firstMessage, "same", "same", Workspaces.replayMessage] ∧
    ∀ first second, ((Session.start none 13).after copyingRun).Stores first →
      ((Session.start none 13).after copyingRun).Stores second →
        first.revision.id = second.revision.id → first = second := by
  have messages : (ledger ((Session.start none 13).exchanges copyingRun)).map (·.message) =
      [Projects.firstMessage, "same", "same", Workspaces.replayMessage] := by decide +kernel
  have few : (ledger ((Session.start none 13).exchanges copyingRun)).length < 2 ^ 64 := by
    have length := congrArg List.length messages
    rw [List.length_map] at length
    rw [length]
    decide
  have collisionFree : CollisionFree ((ledger
      ((Session.start none 13).exchanges copyingRun)).map Commit.preimage) := by
    decide +kernel
  exact ⟨messages, (revisions_identified rfl rfl rfl few).2.2.2 collisionFree⟩

end Workstream
