/-!
# Similar words

Words are compared by the characters that they share at nearly the same place. With `m`
such characters, of which `2 t` are in another order, words of `a` and `b` characters
have the similarity `(m / a + m / b + (m - t) / m) / 3`. It is compared with seven tenths,
without division.
-/

namespace Workstream.Text

/-- How far apart two characters may be to count as shared. -/
def sharingDistance (first second : List Char) : Nat :=
  max first.length second.length / 2 - 1

/-- Mark the first character between two places that is equal to a given one and not
marked yet. Nothing when there is none. -/
def markShared (low high : Nat) (character : Char) (place : Nat) :
    List (Char × Bool) → Option (List (Char × Bool))
  | [] => none
  | (candidate, marked) :: rest =>
    if low ≤ place ∧ place ≤ high ∧ candidate = character ∧ !marked then
      some ((candidate, true) :: rest)
    else
      (markShared low high character (place + 1) rest).map ((candidate, marked) :: ·)

/-- The characters of a word, which begins at a place, that are shared with another one,
and those of the other one, each in their own order. -/
def sharedFrom (distance place : Nat) : List Char → List (Char × Bool) → List Char × List Char
  | [], second => ([], (second.filter (·.2)).map (·.1))
  | character :: rest, second =>
    match markShared (place - distance) (place + distance) character 0 second with
    | some second =>
      let (shared, others) := sharedFrom distance (place + 1) rest second
      (character :: shared, others)
    | none => sharedFrom distance (place + 1) rest second

/-- Whether the similarity of two words is at least seven tenths. -/
def isSimilar (first second : String) : Bool :=
  let a := first.length
  let b := second.length
  let (shared, others) :=
    sharedFrom (sharingDistance first.toList second.toList) 0 first.toList
      (second.toList.map fun character => (character, false))
  let m := shared.length
  let t := ((shared.zip others).filter fun (one, other) => one ≠ other).length / 2
  0 < m && 21 * (a * b * m) ≤ 10 * (m * m * b + m * m * a + (m - t) * a * b)

end Workstream.Text
