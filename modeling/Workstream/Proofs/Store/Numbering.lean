import Mathlib
import Workstream.Proofs.Store.Outline
import Workstream.Proofs.Store.Run

/-!
# Numbers of reviews

The id of a review is a number that is computed from how many reviews its project has. As
no review is ever taken back, the reviews of a project are numbered from one in the order
in which they were opened, and no number is given twice. `Numbered` says so for one project
and the reviews that a run has opened in it.
-/

namespace Workstream

/-- The review that an exchange opened in a project. -/
def Exchange.reviewIn? (name : String) (exchange : Exchange) : Option Review :=
  match exchange.request, exchange.answer with
  | .openReview project _, .review review => if project = name then some review else none
  | _, _ => none

/-- Only what is recorded opens a review. -/
theorem Exchange.reviewIn?_of_unrecorded {exchange : Exchange} (name : String)
    (unrecorded : exchange.request.isRecorded = false) : exchange.reviewIn? name = none := by
  obtain ⟨before, request, answer⟩ := exchange
  cases request <;> first | rfl | cases unrecorded

/-- The reviews that were opened in a project, oldest first. -/
def reviewsOpened (name : String) (exchanges : List Exchange) : List Review :=
  exchanges.filterMap (Exchange.reviewIn? name)

/-- The reviews of a project, of which there are none when the project does not exist. -/
def Session.reviewsIn (session : Session) (name : String) : SortedMap String ReviewRecord :=
  match session.store.projects.get? name with
  | some project => project.reviews
  | none => ∅

/-- The reviews of a project that is found. -/
theorem Session.reviewsIn_eq {session : Session} {name : String} {project : Project}
    (found : session.store.projects.get? name = some project) :
    session.reviewsIn name = project.reviews := by
  simp [reviewsIn, found]

/-- The reviews after a project was set. -/
theorem Session.reviewsIn_of_insert {before after : Session} {name : String}
    {project : Project} (set : after.store.projects = before.store.projects.insert name project)
    (other : String) :
    after.reviewsIn other = if other = name then project.reviews else before.reviewsIn other := by
  by_cases same : other = name
  · subst same
    simp [reviewsIn, set]
  · simp [reviewsIn, set, SortedMap.get?_insert_of_ne _ _ same, same]

/-- Setting a project to one with the same reviews does not change the reviews. -/
theorem Session.reviewsIn_of_insert_eq {before after : Session} {name : String}
    {project : Project} (set : after.store.projects = before.store.projects.insert name project)
    (same : project.reviews = before.reviewsIn name) (other : String) :
    after.reviewsIn other = before.reviewsIn other := by
  rw [reviewsIn_of_insert set]
  split
  · rename_i equal
    rw [same, equal]
  · rfl

/-- The reviews of a project are numbered in the order in which they were opened. -/
structure Numbered (reviews : SortedMap String ReviewRecord) (opened : List Review) : Prop where
  count : reviews.size = opened.length
  /-- The ids are the numbers from one to the number of reviews. -/
  ids : ∀ id, reviews.contains id ↔ ∃ earlier < opened.length, id = toString (earlier + 1)
  /-- Every review that was opened has its number and is stored under it. -/
  stored : ∀ earlier review, opened[earlier]? = some review →
    review.id = toString (earlier + 1) ∧
      ∃ record, reviews.get? review.id = some record ∧ record.review = review

namespace Numbered

variable {reviews : SortedMap String ReviewRecord} {opened : List Review}

/-- Without reviews there are no numbers. -/
theorem empty : Numbered ∅ [] where
  count := rfl
  ids id := by
    have absent : (∅ : SortedMap String ReviewRecord).contains id = false := rfl
    simp [absent]
  stored earlier review opens := by simp at opens

/-- The next number is not in use. -/
theorem next_absent (numbered : Numbered reviews opened) :
    reviews.get? (toString (reviews.size + 1)) = none := by
  rw [← SortedMap.contains_eq_false_iff, Bool.eq_false_iff]
  intro contained
  obtain ⟨earlier, below, same⟩ := (numbered.ids _).1 contained
  have equal := Nat.repr_inj.1 same
  have count := numbered.count
  omega

/-- A review can be added under the next number. -/
theorem add (numbered : Numbered reviews opened) {record : ReviewRecord}
    (next : record.review.id = toString (reviews.size + 1)) :
    Numbered (reviews.insert record.review.id record) (opened ++ [record.review]) := by
  have absent : reviews.get? record.review.id = none := next ▸ numbered.next_absent
  refine ⟨?_, ?_, ?_⟩
  · rw [SortedMap.size_insert absent, numbered.count, List.length_append]
    rfl
  · intro id
    rw [SortedMap.contains_insert_iff, numbered.ids, next, numbered.count, List.length_append]
    constructor
    · rintro (rfl | ⟨earlier, below, rfl⟩)
      · exact ⟨opened.length, by simp, rfl⟩
      · exact ⟨earlier, Nat.lt_succ_of_lt below, rfl⟩
    · rintro ⟨earlier, below, rfl⟩
      rcases Nat.lt_succ_iff_lt_or_eq.1 below with below | rfl
      · exact .inr ⟨earlier, below, rfl⟩
      · exact .inl rfl
  · intro earlier review opens
    rw [List.getElem?_append] at opens
    split at opens
    · obtain ⟨hasNumber, kept, isKept, same⟩ := numbered.stored earlier review opens
      have differs : review.id ≠ record.review.id := by
        intro equal
        rw [equal, absent] at isKept
        cases isKept
      exact ⟨hasNumber, kept, (SortedMap.get?_insert_of_ne _ _ differs).trans isKept, same⟩
    · rename_i above
      obtain ⟨zero, rfl⟩ := List.getElem?_eq_some_iff.1 opens
      have last : earlier = opened.length := by
        simp only [List.length_singleton] at zero
        omega
      subst last
      simp only [Nat.sub_self, List.getElem_cons_zero]
      exact ⟨numbered.count ▸ next, record, SortedMap.get?_insert_self _ _ _, rfl⟩

end Numbered

/-- In every project the reviews are numbered in the order in which they were opened. -/
def Session.Numbered (past : List Exchange) (session : Session) : Prop :=
  ∀ name, Workstream.Numbered (session.reviewsIn name) (reviewsOpened name past)

namespace Session.Numbered

variable {past : List Exchange} {before after : Session}

/-- A session without projects has no reviews. -/
theorem start (currentUser : Option String) (structureVersion : Nat) :
    (Session.start currentUser structureVersion).Numbered [] :=
  fun _ => .empty

/-- The next number of a project is not in use. -/
theorem next_absent (numbered : before.Numbered past) {name : String} {project : Project}
    (found : before.store.projects.get? name = some project) :
    project.reviews.get? (toString (project.reviews.size + 1)) = none := by
  have numbered := numbered name
  rw [Session.reviewsIn_eq found] at numbered
  exact numbered.next_absent

/-- The numbers stay as they are when no review is opened. -/
theorem unopened (numbered : before.Numbered past) {exchange : Exchange}
    (silent : ∀ name, exchange.reviewIn? name = none)
    (same : ∀ name, after.reviewsIn name = before.reviewsIn name) :
    after.Numbered (past ++ [exchange]) := by
  intro name
  have opened : reviewsOpened name (past ++ [exchange]) = reviewsOpened name past := by
    simp [reviewsOpened, silent]
  rw [opened, same]
  exact numbered name

/-- The numbers stay as they are when a project is set to one with the same reviews. -/
theorem of_insert (numbered : before.Numbered past) {exchange : Exchange}
    (silent : ∀ name, exchange.reviewIn? name = none) {name : String} {project : Project}
    (set : after.store.projects = before.store.projects.insert name project)
    (same : project.reviews = before.reviewsIn name) : after.Numbered (past ++ [exchange]) :=
  numbered.unopened silent (Session.reviewsIn_of_insert_eq set same)

/-- A review that is opened is given the next number of its project. -/
theorem opened (numbered : before.Numbered past) {project : String}
    {specification : Specification} {review : Review}
    (opened : Reviews.Opened project specification before review after) :
    after.Numbered
      (past ++ [⟨before, .openReview project specification, .review review⟩]) := by
  cases opened with
  | intro named found stored isReview =>
    intro name
    rw [Session.reviewsIn_of_insert rfl]
    by_cases same : name = project
    · subst same
      have numbered := numbered name
      rw [Session.reviewsIn_eq found] at numbered
      simp only [reviewsOpened, List.filterMap_append, List.filterMap_cons, List.filterMap_nil,
        Exchange.reviewIn?, if_true]
      exact numbered.add (by rw [isReview])
    · have silent : reviewsOpened name (past ++
          [⟨before, .openReview project specification, .review review⟩]) =
            reviewsOpened name past := by
        simp [reviewsOpened, Exchange.reviewIn?, Ne.symm same]
      rw [if_neg same, silent]
      exact numbered name

end Session.Numbered

/-- A step keeps the reviews numbered. -/
theorem Step.numbered {past : List Exchange} {before after : Session} {request : Request}
    {answer : Answer} (step : Step before request answer after)
    (numbered : before.Numbered past) : after.Numbered (past ++ [⟨before, request, answer⟩]) := by
  have silent (unrecorded : request.isRecorded = false) (name : String) :
      Exchange.reviewIn? name ⟨before, request, answer⟩ = none :=
    Exchange.reviewIn?_of_unrecorded name unrecorded
  cases step.outline with
  | idle unrecorded set =>
    refine numbered.unopened (silent unrecorded) ?_
    simp [Session.reviewsIn, set]
  | rebranched unrecorded found set =>
    exact numbered.of_insert (silent unrecorded) set (Session.reviewsIn_eq found).symm
  | created unrecorded absent set =>
    refine numbered.of_insert (silent unrecorded) set ?_
    simp [Session.reviewsIn, absent, Project.start]
  | released unrecorded found absent set =>
    exact numbered.of_insert (silent unrecorded) set (Session.reviewsIn_eq found).symm
  | patchOpened unrecorded found absent set =>
    exact numbered.of_insert (silent unrecorded) set (Session.reviewsIn_eq found).symm
  | committed committed =>
    cases committed with
    | intro found isHead changed minted =>
      exact numbered.of_insert (fun _ => rfl) rfl (Session.reviewsIn_eq found).symm
  | reviewed opened => exact numbered.opened opened

/-- Steps keep the reviews numbered. -/
theorem Steps.numbered {past later : List Exchange} {before after : Session}
    (steps : Steps before later after) (numbered : before.Numbered past) :
    after.Numbered (past ++ later) :=
  steps.invariant (fun past session => session.Numbered past)
    (fun numbered step => step.numbered numbered) numbered

end Workstream
