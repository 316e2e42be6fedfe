import Workstream.Toml.Value

/-!
# Between the words of a document

Blanks, comments and line ends. A line ends with a line feed, which may have a
carriage return before it. A comment must not hold control characters other than tabs.
-/

namespace Workstream.Toml

/-- Whether a character separates words on a line. -/
def isBlank (character : Char) : Bool := character = ' ' || character = '\t'

/-- Whether a character can stand in a comment. -/
def isComment (character : Char) : Bool :=
  character = '\t' || (0x20 ≤ character.toNat && character.toNat ≠ 0x7f)

/-- What follows the blanks at the front. -/
def skipBlanks (place : Place) : Place := place.dropWhile isBlank

/-- What follows the comment at the front, if there is one. -/
def skipComment (place : Place) : Place :=
  if place.head? = some '#' then place.dropWhile isComment else place

/-- What follows the line end at the front. -/
def lineEnd? : Place → Option Place
  | '\n' :: rest => some rest
  | '\r' :: '\n' :: rest => some rest
  | _ => none

/-- What follows a line on which nothing but a comment is left. -/
def finishLine (place : Place) : Except Error Place :=
  let stop := skipComment (skipBlanks place)
  match lineEnd? stop with
  | some rest => .ok rest
  | none => if stop = [] then .ok [] else unexpected stop

theorem length_dropWhile_le {Item : Type} (accepts : Item → Bool) (items : List Item) :
    (items.dropWhile accepts).length ≤ items.length :=
  (List.dropWhile_sublist accepts).length_le

theorem length_lineEnd {place rest : Place} (ends : lineEnd? place = some rest) :
    rest.length < place.length := by
  unfold lineEnd? at ends
  split at ends
  · obtain rfl := Option.some.inj ends
    exact Nat.lt_succ_self _
  · obtain rfl := Option.some.inj ends
    exact Nat.lt_of_lt_of_le (Nat.lt_succ_self _) (Nat.le_succ _)
  · exact absurd ends (by simp)

theorem length_skipComment_le (place : Place) :
    (skipComment place).length ≤ place.length := by
  unfold skipComment
  split
  · exact length_dropWhile_le _ _
  · exact Nat.le_refl _

/-- What follows the blanks, comments and line ends at the front. A comment has to have a
line end after it, and a carriage return has to belong to one. -/
def skipTrivia (place : Place) : Except Error Place :=
  let start := skipBlanks place
  match _ended : lineEnd? (skipComment start) with
  | some rest => skipTrivia rest
  | none =>
    if start.head? = some '#' || start.head? = some '\r' then unexpected (skipComment start)
    else .ok start
termination_by place.length
decreasing_by
  exact Nat.lt_of_lt_of_le (length_lineEnd _ended)
    (Nat.le_trans (length_skipComment_le _) (length_dropWhile_le _ _))

end Workstream.Toml
