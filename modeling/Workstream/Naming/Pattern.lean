/-!
# Patterns of characters

A pattern describes a set of texts: single characters of a class, one pattern after
another, one of two patterns, any number of repetitions. `Pattern.Denotes` is that
set; `Pattern.accepts` decides it by taking one character after another off the front
and keeping the pattern that the rest still has to fit.

A pattern describes whole texts: nothing may come before or after, not even a line
feed at the end.
-/

namespace Workstream.Naming

/-- A set of characters. -/
inductive CharacterClass where
  | exactly (character : Char)
  /-- An ASCII letter, an ASCII digit or the underscore. -/
  | word
  /-- A word character or the dollar sign. -/
  | name
deriving DecidableEq

namespace CharacterClass

/-- Whether a character is an ASCII letter, an ASCII digit or the underscore. -/
def isWord (character : Char) : Bool := character.isAlphanum || character = '_'

/-- Whether a class holds a character. -/
def holds : CharacterClass → Char → Bool
  | .exactly wanted, character => character = wanted
  | .word, character => isWord character
  | .name, character => isWord character || character = '$'

end CharacterClass

/-- A description of a set of texts. -/
inductive Pattern where
  /-- No text. -/
  | nothing
  /-- The empty text. -/
  | blank
  | one (characters : CharacterClass)
  | sequence (first second : Pattern)
  | either (left right : Pattern)
  | many (inner : Pattern)
deriving DecidableEq

namespace Pattern

/-- The texts that a pattern describes. -/
inductive Denotes : Pattern → List Char → Prop where
  | blank : Denotes .blank []
  | one {characters : CharacterClass} {character : Char} :
      characters.holds character = true → Denotes (.one characters) [character]
  | sequence {first second : Pattern} {front back : List Char} :
      Denotes first front → Denotes second back →
      Denotes (.sequence first second) (front ++ back)
  | left {left right : Pattern} {text : List Char} :
      Denotes left text → Denotes (.either left right) text
  | right {left right : Pattern} {text : List Char} :
      Denotes right text → Denotes (.either left right) text
  | stop {inner : Pattern} : Denotes (.many inner) []
  | more {inner : Pattern} {front back : List Char} :
      Denotes inner front → Denotes (.many inner) back → Denotes (.many inner) (front ++ back)

/-- One text of a pattern or more. -/
def oneOrMore (inner : Pattern) : Pattern := .sequence inner (.many inner)

/-- A text of a pattern, or the empty text. -/
def optional (inner : Pattern) : Pattern := .either inner .blank

/-- Exactly the given characters. -/
def literal : List Char → Pattern
  | [] => .blank
  | character :: rest => .sequence (.one (.exactly character)) (literal rest)

/-- A sequence, without parts that contribute nothing. -/
def sequenceOf (first second : Pattern) : Pattern :=
  match first with
  | .nothing => .nothing
  | .blank => second
  | _ => .sequence first second

/-- A choice, without a side that contributes nothing. -/
def eitherOf (left right : Pattern) : Pattern :=
  if left = .nothing then right
  else if right = .nothing ∨ left = right then left
  else .either left right

/-- Whether a pattern describes the empty text. -/
def acceptsEmpty : Pattern → Bool
  | .nothing => false
  | .blank => true
  | .one _ => false
  | .sequence first second => first.acceptsEmpty && second.acceptsEmpty
  | .either left right => left.acceptsEmpty || right.acceptsEmpty
  | .many _ => true

/-- The pattern that the rest of a text has to fit after a given first character. -/
def after (character : Char) : Pattern → Pattern
  | .nothing => .nothing
  | .blank => .nothing
  | .one characters => if characters.holds character then .blank else .nothing
  | .sequence first second =>
    let continued := sequenceOf (first.after character) second
    if first.acceptsEmpty then eitherOf continued (second.after character) else continued
  | .either left right => eitherOf (left.after character) (right.after character)
  | .many inner => sequenceOf (inner.after character) (.many inner)

/-- Whether a pattern describes a text. -/
def accepts (pattern : Pattern) : List Char → Bool
  | [] => pattern.acceptsEmpty
  | character :: rest => (pattern.after character).accepts rest

@[simp] theorem not_denotes_nothing (text : List Char) : ¬ Denotes .nothing text := nofun

@[simp] theorem denotes_blank_iff {text : List Char} : Denotes .blank text ↔ text = [] :=
  ⟨fun described => by cases described; rfl, fun equal => equal ▸ .blank⟩

@[simp] theorem denotes_one_iff {characters : CharacterClass} {text : List Char} :
    Denotes (.one characters) text ↔
      ∃ character, characters.holds character = true ∧ text = [character] := by
  constructor
  · intro described
    cases described with
    | one held => exact ⟨_, held, rfl⟩
  · rintro ⟨character, held, rfl⟩
    exact .one held

@[simp] theorem denotes_sequence_iff {first second : Pattern} {text : List Char} :
    Denotes (.sequence first second) text ↔
      ∃ front back, text = front ++ back ∧ Denotes first front ∧ Denotes second back := by
  constructor
  · intro described
    cases described with
    | sequence front back => exact ⟨_, _, rfl, front, back⟩
  · rintro ⟨front, back, rfl, first, second⟩
    exact .sequence first second

@[simp] theorem denotes_either_iff {left right : Pattern} {text : List Char} :
    Denotes (.either left right) text ↔ Denotes left text ∨ Denotes right text := by
  constructor
  · intro described
    cases described with
    | left described => exact .inl described
    | right described => exact .inr described
  · rintro (described | described)
    · exact .left described
    · exact .right described

/-- A repetition that is not empty begins with a repetition that is not empty. -/
theorem denotes_many_cons_iff {inner : Pattern} {character : Char} {text : List Char} :
    Denotes (.many inner) (character :: text) ↔
      ∃ front back, text = front ++ back ∧ Denotes inner (character :: front) ∧
        Denotes (.many inner) back := by
  constructor
  · intro described
    generalize shape : character :: text = whole at described
    generalize kind : Pattern.many inner = pattern at described
    induction described with
    | blank => cases kind
    | one _ => cases kind
    | sequence _ _ => cases kind
    | left _ => cases kind
    | right _ => cases kind
    | stop => cases shape
    | @more _ front back described rest _ again =>
      cases kind
      cases front with
      | nil => exact again shape rfl
      | cons head tail =>
        obtain ⟨rfl, rfl⟩ := List.cons.inj shape
        exact ⟨tail, back, rfl, described, rest⟩
  · rintro ⟨front, back, rfl, described, rest⟩
    exact Denotes.more described rest

@[simp] theorem denotes_sequenceOf_iff {first second : Pattern} {text : List Char} :
    Denotes (sequenceOf first second) text ↔ Denotes (.sequence first second) text := by
  unfold sequenceOf
  split
  · simp
  · rw [denotes_sequence_iff]
    constructor
    · intro described
      exact ⟨[], text, rfl, .blank, described⟩
    · rintro ⟨front, back, rfl, empty, described⟩
      cases denotes_blank_iff.1 empty
      exact described
  · rfl

@[simp] theorem denotes_eitherOf_iff {left right : Pattern} {text : List Char} :
    Denotes (eitherOf left right) text ↔ Denotes left text ∨ Denotes right text := by
  unfold eitherOf
  split
  · rename_i empty
    simp [empty]
  · split
    · rename_i redundant
      rcases redundant with empty | same
      · simp [empty]
      · simp [same]
    · exact denotes_either_iff

/-- `acceptsEmpty` decides whether the empty text is described. -/
theorem acceptsEmpty_iff (pattern : Pattern) : pattern.acceptsEmpty = true ↔ Denotes pattern [] := by
  induction pattern with
  | nothing => simp [acceptsEmpty]
  | blank => simp [acceptsEmpty]
  | one characters => simp [acceptsEmpty]
  | sequence first second first_ih second_ih =>
    simp only [acceptsEmpty, Bool.and_eq_true, first_ih, second_ih, denotes_sequence_iff]
    constructor
    · rintro ⟨front, back⟩
      exact ⟨[], [], rfl, front, back⟩
    · rintro ⟨front, back, equal, first, second⟩
      obtain ⟨rfl, rfl⟩ := List.append_eq_nil_iff.1 equal.symm
      exact ⟨first, second⟩
  | either left right left_ih right_ih =>
    simp [acceptsEmpty, left_ih, right_ih]
  | many inner _ => simp [acceptsEmpty, Denotes.stop]

/-- `after` describes exactly the rests of the described texts with the given first character. -/
theorem denotes_after_iff (pattern : Pattern) (character : Char) (text : List Char) :
    Denotes (pattern.after character) text ↔ Denotes pattern (character :: text) := by
  induction pattern generalizing text with
  | nothing => simp [after]
  | blank => simp [after]
  | one characters =>
    unfold after
    split
    · rename_i held
      simp only [denotes_blank_iff, denotes_one_iff]
      constructor
      · rintro rfl
        exact ⟨character, held, rfl⟩
      · rintro ⟨other, _, equal⟩
        exact (List.cons.inj equal).2
    · rename_i refused
      simp only [denotes_one_iff, not_denotes_nothing, false_iff]
      rintro ⟨other, held, equal⟩
      obtain ⟨rfl, _⟩ := List.cons.inj equal
      exact refused held
  | sequence first second first_ih second_ih =>
    have continued : Denotes (sequenceOf (first.after character) second) text ↔
        ∃ front back, text = front ++ back ∧ Denotes first (character :: front) ∧
          Denotes second back := by
      simp [first_ih]
    have split : Denotes (.sequence first second) (character :: text) ↔
        (∃ front back, text = front ++ back ∧ Denotes first (character :: front) ∧
          Denotes second back) ∨ (Denotes first [] ∧ Denotes second (character :: text)) := by
      rw [denotes_sequence_iff]
      constructor
      · rintro ⟨front, back, equal, described, rest⟩
        cases front with
        | nil => exact .inr ⟨described, by simpa [equal] using rest⟩
        | cons head tail =>
          obtain ⟨rfl, rfl⟩ := List.cons.inj equal
          exact .inl ⟨tail, back, rfl, described, rest⟩
      · rintro (⟨front, back, rfl, described, rest⟩ | ⟨described, rest⟩)
        · exact ⟨character :: front, back, rfl, described, rest⟩
        · exact ⟨[], character :: text, rfl, described, rest⟩
    rw [split]
    simp only [after]
    by_cases empty : first.acceptsEmpty = true
    · rw [if_pos empty, denotes_eitherOf_iff, continued, second_ih]
      simp [(acceptsEmpty_iff first).1 empty]
    · rw [if_neg empty, continued]
      simp [mt (acceptsEmpty_iff first).2 empty]
  | either left right left_ih right_ih =>
    simp [after, left_ih, right_ih]
  | many inner ih =>
    simp only [after, denotes_sequenceOf_iff, denotes_sequence_iff, ih, denotes_many_cons_iff]

/-- `accepts` decides what a pattern describes. -/
theorem accepts_iff (pattern : Pattern) (text : List Char) :
    pattern.accepts text = true ↔ Denotes pattern text := by
  induction text generalizing pattern with
  | nil => exact acceptsEmpty_iff pattern
  | cons character rest ih => rw [accepts, ih, denotes_after_iff]

end Pattern

end Workstream.Naming
