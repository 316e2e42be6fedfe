/-!
# Segments of a text

A text is cut at every occurrence of a separator character, and segments are put
back together with the separator between them. Cutting never loses a character:
joining the segments of a text gives the text again, and cutting a joined list of
segments gives the list again when no segment holds the separator.
-/

namespace Workstream.Text.Segments

/-- The segments of a text, left to right. The empty text has one empty segment,
so the list is never empty. -/
def split (separator : Char) : List Char → List (List Char)
  | [] => [[]]
  | head :: rest =>
    if head = separator then
      [] :: split separator rest
    else
      match split separator rest with
      | [] => [[head]]
      | segment :: more => (head :: segment) :: more

/-- Segments written one after the other with the separator between them. -/
def join (separator : Char) : List (List Char) → List Char
  | [] => []
  | [segment] => segment
  | segment :: more => segment ++ separator :: join separator more

/-- The segments of a string, as strings. -/
def splitString (separator : Char) (text : String) : List String :=
  (split separator text.toList).map String.ofList

/-- Strings written one after the other with the separator between them. -/
def joinStrings (separator : Char) (segments : List String) : String :=
  String.ofList (join separator (segments.map String.toList))

/-- A text always has a first segment. -/
theorem split_ne_nil (separator : Char) (text : List Char) : split separator text ≠ [] := by
  cases text with
  | nil => simp [split]
  | cons head rest =>
    unfold split
    split
    · simp
    · split <;> simp

/-- Joining the segments of a text gives the text. -/
theorem join_split (separator : Char) (text : List Char) :
    join separator (split separator text) = text := by
  induction text with
  | nil => rfl
  | cons head rest ih =>
    unfold split
    split
    · rename_i equal
      subst equal
      cases segments : split head rest with
      | nil => exact absurd segments (split_ne_nil _ _)
      | cons segment more => rw [segments] at ih; simp [join, ih]
    · cases segments : split separator rest with
      | nil => exact absurd segments (split_ne_nil _ _)
      | cons segment more =>
        rw [segments] at ih
        cases more with
        | nil => simpa [join] using ih
        | cons next others => simpa [join] using ih

/-- No segment of a text holds the separator. -/
theorem separator_not_mem_split (separator : Char) (text : List Char) :
    ∀ segment ∈ split separator text, separator ∉ segment := by
  induction text with
  | nil => simp [split]
  | cons head rest ih =>
    unfold split
    split
    · intro segment member
      rcases List.mem_cons.1 member with rfl | member
      · simp
      · exact ih segment member
    · rename_i differs
      cases segments : split separator rest with
      | nil => exact absurd segments (split_ne_nil _ _)
      | cons first more =>
        intro segment member
        rcases List.mem_cons.1 member with rfl | member
        · have absent := ih first (by simp [segments])
          simp [absent, Ne.symm differs]
        · exact ih segment (by simp [segments, member])

/-- A text without the separator is its own only segment. -/
theorem split_of_not_mem {separator : Char} {text : List Char} (absent : separator ∉ text) :
    split separator text = [text] := by
  induction text with
  | nil => rfl
  | cons head rest ih =>
    simp only [List.mem_cons, not_or] at absent
    simp [split, Ne.symm absent.1, ih absent.2]

/-- A separator ends the first segment when that segment does not hold one itself. -/
theorem split_append_separator {separator : Char} {segment : List Char}
    (absent : separator ∉ segment) (rest : List Char) :
    split separator (segment ++ separator :: rest) = segment :: split separator rest := by
  induction segment with
  | nil => simp [split]
  | cons head tail ih =>
    simp only [List.mem_cons, not_or] at absent
    simp [split, Ne.symm absent.1, ih absent.2]

/-- Cutting joined segments gives the segments, when there is one and none holds the separator. -/
theorem split_join {separator : Char} {segments : List (List Char)} (nonempty : segments ≠ [])
    (absent : ∀ segment ∈ segments, separator ∉ segment) :
    split separator (join separator segments) = segments := by
  induction segments with
  | nil => exact absurd rfl nonempty
  | cons segment more ih =>
    cases more with
    | nil => simpa [join] using split_of_not_mem (absent segment (by simp))
    | cons next others =>
      have tail := ih (by simp) fun s member => absent s (by simp [List.mem_cons.1 member])
      simp only [join]
      rw [split_append_separator (absent segment (by simp))]
      rw [tail]

/-- Joining the segments of a string gives the string. -/
theorem joinStrings_splitString (separator : Char) (text : String) :
    joinStrings separator (splitString separator text) = text := by
  simp [joinStrings, splitString, Function.comp_def, join_split]

/-- Cutting joined strings gives the strings, when there is one and none holds the separator. -/
theorem splitString_joinStrings {separator : Char} {segments : List String}
    (nonempty : segments ≠ []) (absent : ∀ segment ∈ segments, separator ∉ segment.toList) :
    splitString separator (joinStrings separator segments) = segments := by
  have parts : split separator (join separator (segments.map String.toList)) =
      segments.map String.toList := split_join (by simpa using nonempty) (by simpa using absent)
  simp [joinStrings, splitString, parts, Function.comp_def]

end Workstream.Text.Segments
