/-!
# Blank characters

A character is blank when it has the Unicode property White_Space. Text read from
outside (a line of names, the value of a setting) is used without the blank
characters at its ends; blank characters inside stay.
-/

namespace Workstream.Text

/-- The code points with the property White_Space, as inclusive ranges. -/
def blankRanges : List (Nat × Nat) :=
  [(0x9, 0xd), (0x20, 0x20), (0x85, 0x85), (0xa0, 0xa0), (0x1680, 0x1680), (0x2000, 0x200a),
   (0x2028, 0x2029), (0x202f, 0x202f), (0x205f, 0x205f), (0x3000, 0x3000)]

/-- Whether a character is blank. -/
def isBlank (character : Char) : Bool :=
  blankRanges.any fun (low, high) => low ≤ character.toNat && character.toNat ≤ high

/-- Characters without the blank ones at their end. -/
def trimEndChars (characters : List Char) : List Char :=
  (characters.reverse.dropWhile isBlank).reverse

/-- Characters without the blank ones at either end. -/
def trimChars (characters : List Char) : List Char :=
  trimEndChars (characters.dropWhile isBlank)

/-- A text without the blank characters at its end. -/
def trimEnd (text : String) : String := String.ofList (trimEndChars text.toList)

/-- A text without the blank characters at either end. -/
def trim (text : String) : String := String.ofList (trimChars text.toList)

/-- A text that neither begins nor ends with a blank character is left as it is. -/
theorem trimChars_of_not_blank {characters : List Char}
    (front : ∀ character ∈ characters.head?, isBlank character = false)
    (back : ∀ character ∈ characters.getLast?, isBlank character = false) :
    trimChars characters = characters := by
  have kept : characters.dropWhile isBlank = characters := by
    cases characters with
    | nil => rfl
    | cons head rest => simp [front head (by simp)]
  have keptEnd : characters.reverse.dropWhile isBlank = characters.reverse := by
    cases reversed : characters.reverse with
    | nil => rfl
    | cons last rest =>
      have final : characters.getLast? = some last := by
        rw [← List.head?_reverse, reversed]
        rfl
      simp [back last (by simp [final])]
  rw [trimChars, kept, trimEndChars, keptEnd, List.reverse_reverse]

end Workstream.Text
