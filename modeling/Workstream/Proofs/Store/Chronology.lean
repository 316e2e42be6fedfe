import Workstream.Proofs.Store.Identification
import Workstream.Proofs.Store.Outline

/-!
# Histories follow the ledger

A history lists the revisions of one stream, the ledger of a run those of all streams and
workspaces. A revision enters a history when it is made, or when a patch stream is started
with one that was made before, so every history is what is left of the ledger when the other
revisions are taken out. In particular no id is twice in a history when the commits of the
run were given different ids.
-/

namespace Workstream

/-- No two commits were given one id. -/
def DistinctIds (commits : List Commit) : Prop :=
  (commits.map fun commit => commit.snapshot.revision.id).Nodup

instance (commits : List Commit) : Decidable (DistinctIds commits) :=
  inferInstanceAs (Decidable (commits.map fun commit => commit.snapshot.revision.id).Nodup)

namespace Recorded

variable {commits : List Commit} {session : Session}

/-- Ids are different unless the digest collides on what was hashed. -/
theorem distinctIds (recorded : Recorded commits session) (few : commits.length < 2 ^ 64)
    (collisionFree : CollisionFree (commits.map Commit.preimage)) : DistinctIds commits := by
  have bytes := recorded.nodup_preimage few
  have ids := bytes.map_on collisionFree
  rwa [List.map_map] at ids

end Recorded

/-- Revisions of the ledger with one id are the same. -/
theorem DistinctIds.snapshot_eq {commits : List Commit} (distinct : DistinctIds commits)
    {first second : Commit} (member : first ∈ commits) (secondMember : second ∈ commits)
    (same : first.snapshot.revision.id = second.snapshot.revision.id) :
    first.snapshot = second.snapshot :=
  congrArg Commit.snapshot (List.inj_on_of_nodup_map distinct member secondMember same)

/-- Revisions that are stored at two times of a run and have one id are the same. -/
theorem DistinctIds.stored_eq {commits more : List Commit} {before after : Session}
    {snapshot other : Snapshot} (distinct : DistinctIds (commits ++ more))
    (recorded : Recorded commits before) (recordedLater : Recorded (commits ++ more) after)
    (stored : before.Stores snapshot) (storedLater : after.Stores other)
    (same : snapshot.revision.id = other.revision.id) : snapshot = other := by
  obtain ⟨commit, member, rfl⟩ := recorded.stored stored
  obtain ⟨laterCommit, laterMember, rfl⟩ := recordedLater.stored storedLater
  exact distinct.snapshot_eq (List.mem_append_left _ member) laterMember same

/-- Every history lists revisions of the commits, in the order of the commits. -/
def Session.Follows (session : Session) (commits : List Commit) : Prop :=
  ∀ name project stream history, session.store.projects.get? name = some project →
    project.streams.get? stream = some history → history.Sublist (commits.map Commit.snapshot)

namespace Session.Follows

variable {commits more : List Commit} {before after session : Session}

/-- A session without projects has no histories. -/
theorem start (currentUser : Option String) (structureVersion : Nat) :
    (Session.start currentUser structureVersion).Follows [] :=
  fun _ _ _ _ found => nomatch found

/-- A history that was left alone follows the ledger however it grows. -/
theorem append (follows : session.Follows commits) (more : List Commit) :
    session.Follows (commits ++ more) := by
  intro name project stream history found stored
  refine (follows name project stream history found stored).trans ?_
  rw [List.map_append]
  exact List.sublist_append_left _ _

/-- Projects that are left alone still follow. -/
theorem of_projects_eq (follows : before.Follows commits)
    (same : after.store.projects = before.store.projects) : after.Follows commits := by
  intro name project stream history found
  rw [same] at found
  exact follows name project stream history found

/-- A project can be set to one whose histories follow. -/
theorem of_insert (follows : before.Follows commits) {name : String} {changed : Project}
    (set : after.store.projects = before.store.projects.insert name changed)
    (histories : ∀ stream history, changed.streams.get? stream = some history →
      history.Sublist (commits.map Commit.snapshot)) : after.Follows commits := by
  intro other project stream history found stored
  rw [set] at found
  rcases SortedMap.get?_insert_eq_some_iff.1 found with ⟨_, rfl⟩ | ⟨_, found⟩
  · exact histories stream history stored
  · exact follows other project stream history found stored

/-- No id is twice in a history when the commits have different ids. -/
theorem nodup_ids (follows : session.Follows commits) (distinct : DistinctIds commits)
    {name : String} {project : Project} {stream : DevelopmentStream} {history : List Snapshot}
    (found : session.store.projects.get? name = some project)
    (stored : project.streams.get? stream = some history) :
    (history.map fun snapshot => snapshot.revision.id).Nodup := by
  have listed := (follows name project stream history found stored).map
    fun snapshot => snapshot.revision.id
  rw [List.map_map] at listed
  exact listed.nodup distinct

end Session.Follows

/-- A revision that is stored can be the only one of a history. -/
theorem Recorded.sublist_singleton {commits : List Commit} {session : Session}
    (recorded : Recorded commits session) {snapshot : Snapshot}
    (stored : session.Stores snapshot) : [snapshot].Sublist (commits.map Commit.snapshot) := by
  obtain ⟨commit, member, rfl⟩ := recorded.stored stored
  exact List.singleton_sublist.2 (List.mem_map_of_mem member)

/-- After a step the histories follow the ledger that it has added to. -/
theorem Step.follows {past : List Exchange} {before after : Session} {request : Request}
    {answer : Answer} (step : Step before request answer after)
    (recorded : Recorded (ledger past) before) (follows : before.Follows (ledger past)) :
    after.Follows (ledger (past ++ [⟨before, request, answer⟩])) := by
  have recordedAfter := step.recorded recorded
  rw [ledger_append, ledger_singleton] at recordedAfter ⊢
  have grown := follows.append (Exchange.commit? ⟨before, request, answer⟩).toList
  cases step.outline with
  | idle unrecorded set => exact grown.of_projects_eq set
  | rebranched unrecorded found set =>
    exact grown.of_insert set fun stream history stored => grown _ _ stream history found stored
  | @created _ _ name first unrecorded absent set =>
    refine grown.of_insert set fun stream history stored => ?_
    have kept : after.store.projects.get? name = some (.start first) := by simp [set]
    have isStored : after.Stores first := ⟨_, _, kept, .history (SortedMap.get?_insert_self ..)
      (List.mem_singleton_self first)⟩
    rcases SortedMap.get?_insert_eq_some_iff.1 stored with ⟨_, rfl⟩ | ⟨_, stored⟩
    · exact recordedAfter.sublist_singleton isStored
    · cases stored
  | released unrecorded found absent set =>
    exact grown.of_insert set fun stream history stored => grown _ _ stream history found stored
  | @patchOpened _ _ name state version first unrecorded found absent set =>
    refine grown.of_insert set fun stream history stored => ?_
    have kept : after.store.projects.get? name = some (state.addPatch version first) := by
      simp [set]
    have isStored : after.Stores first := ⟨_, _, kept, .history (SortedMap.get?_insert_self ..)
      (List.mem_singleton_self first)⟩
    rcases SortedMap.get?_insert_eq_some_iff.1 stored with ⟨_, rfl⟩ | ⟨_, stored⟩
    · exact recordedAfter.sublist_singleton isStored
    · exact grown _ _ stream history found stored
  | committed committed =>
    cases committed with
    | @intro state head next contents found isHead changed minted =>
      refine grown.of_insert rfl fun other history stored => ?_
      rcases SortedMap.get?_insert_eq_some_iff.1 stored with ⟨rfl, rfl⟩ | ⟨_, stored⟩
      · obtain ⟨known, isKnown, _⟩ := Project.head_eq_ok_iff.1 isHead
        have old := follows _ _ _ _ found isKnown
        simp only [isKnown, Option.getD_some, Exchange.commit?,
          Projects.commitOf?_eq found isHead changed, Option.toList_some, List.map_append,
          List.map_singleton, Session.snapshot_nextCommit, ← minted]
        exact old.append (.refl _)
      · exact grown _ _ other history found stored
  | reviewed opened =>
    cases opened with
    | intro named found stored isReview =>
      exact grown.of_insert rfl fun stream history stored =>
        grown _ _ stream history found stored

/-- After steps the histories follow the ledger that they have added to. -/
theorem Steps.follows {past later : List Exchange} {before after : Session}
    (steps : Steps before later after) (recorded : Recorded (ledger past) before)
    (follows : before.Follows (ledger past)) : after.Follows (ledger (past ++ later)) := by
  have both := steps.invariant
    (fun past session => Recorded (ledger past) session ∧ session.Follows (ledger past))
    (fun ⟨recorded, follows⟩ step => ⟨step.recorded recorded, step.follows recorded follows⟩)
    ⟨recorded, follows⟩
  exact both.2

/-- After a run the histories follow its ledger. -/
theorem Session.follows_after (currentUser : Option String) (structureVersion : Nat)
    (requests : List Request) :
    ((Session.start currentUser structureVersion).after requests).Follows
      (ledger ((Session.start currentUser structureVersion).exchanges requests)) := by
  have follows : Follows _ (ledger ([] ++ _)) :=
    (steps_exchanges _ requests).follows (.start currentUser structureVersion)
      (.start currentUser structureVersion)
  rwa [List.nil_append] at follows

end Workstream
