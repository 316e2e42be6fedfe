import Mathlib.Data.List.TakeWhile
import Workstream.Proofs.Text.Utf8
import Workstream.Text.Blank

/-!
# Lines of a byte string

`Lines` says what the lines of a byte string are, apart from the cutting that `byteLines` does:
a line feed ends a line and is not part of it, and the last line may do without one. Every byte
string has lines, and those of a string that follows complete lines come after these. Cutting
leaves the line feeds where they are, which is all in which the two differ.

As text, a line is used without the blank characters around it, so the line feed at its end
makes no difference there. `Surrounds` says which text this is.
-/

namespace Workstream.Text

/-- The lines of a byte string, without the line feeds that end them. -/
inductive Lines : List UInt8 → List (List UInt8) → Prop where
  | none : Lines [] []
  /-- What follows the last line feed is a line when it is not empty. -/
  | last {line : List UInt8} (unbroken : 10 ∉ line) (nonempty : line ≠ []) : Lines line [line]
  | ended {line rest : List UInt8} {lines : List (List UInt8)} (unbroken : 10 ∉ line)
      (more : Lines rest lines) : Lines (line ++ 10 :: rest) (line :: lines)

/-- The byte string does not stop within a line. -/
def IsComplete (bytes : List UInt8) : Prop := bytes = [] ∨ bytes.getLast? = some 10

/-- Every byte string has lines. -/
theorem exists_lines (bytes : List UInt8) : ∃ lines, Lines bytes lines := by
  induction bytes with
  | nil => exact ⟨[], .none⟩
  | cons byte rest ih =>
    obtain ⟨lines, cut⟩ := ih
    by_cases isEnd : byte = 10
    · subst isEnd
      exact ⟨[] :: lines, .ended List.not_mem_nil cut⟩
    · have extended {line : List UInt8} (unbroken : 10 ∉ line) : 10 ∉ byte :: line :=
        List.not_mem_cons_of_ne_of_not_mem (Ne.symm isEnd) unbroken
      cases cut with
      | none => exact ⟨[[byte]], .last (extended List.not_mem_nil) (List.cons_ne_nil _ _)⟩
      | last unbroken _ =>
        exact ⟨[byte :: rest], .last (extended unbroken) (List.cons_ne_nil _ _)⟩
      | ended unbroken more => exact ⟨_, .ended (extended unbroken) more⟩

/-- What follows complete lines has its lines after these. -/
theorem Lines.append {front back : List UInt8} {lines more : List (List UInt8)}
    (cut : Lines front lines) (complete : IsComplete front) (cutMore : Lines back more) :
    Lines (front ++ back) (lines ++ more) := by
  induction cut with
  | none => exact cutMore
  | last unbroken nonempty =>
    rcases complete with empty | ends
    · exact absurd empty nonempty
    · exact absurd (List.mem_of_getLast? ends) unbroken
  | @ended line rest lines unbroken _ ih =>
    have completeRest : IsComplete rest := by
      rcases complete with empty | ends
      · simp at empty
      · cases rest with
        | nil => exact .inl rfl
        | cons byte rest => exact .inr (by simpa using ends)
    simpa using Lines.ended unbroken (ih completeRest)

/-- A line feed after a byte string completes its last line, or is an empty line of its own. -/
theorem Lines.append_lineFeed {bytes : List UInt8} {lines : List (List UInt8)}
    (cut : Lines bytes lines) :
    Lines (bytes ++ [10]) lines ∨ Lines (bytes ++ [10]) (lines ++ [[]]) := by
  induction cut with
  | none => exact .inr (.ended List.not_mem_nil .none)
  | last unbroken _ => exact .inl (.ended unbroken .none)
  | @ended line rest lines unbroken _ ih =>
    rw [List.append_assoc, List.cons_append]
    exact ih.imp (.ended unbroken) (.ended unbroken)

/-- A byte that is no line feed belongs to the first line. -/
theorem addByte_of_ne {byte : UInt8} (differs : byte ≠ 10) (line : List UInt8)
    (more : List (List UInt8)) : addByte byte (line :: more) = (byte :: line) :: more := by
  simp [addByte, differs]

/-- Bytes without a line feed are one line. -/
theorem byteLines_of_unbroken {line : List UInt8} (unbroken : 10 ∉ line)
    (nonempty : line ≠ []) : byteLines line = [line] := by
  induction line with
  | nil => exact absurd rfl nonempty
  | cons byte rest ih =>
    rw [List.mem_cons, not_or] at unbroken
    change addByte byte (byteLines rest) = _
    cases rest with
    | nil => simp [byteLines, addByte, Ne.symm unbroken.1]
    | cons next rest =>
      rw [ih unbroken.2 (List.cons_ne_nil _ _), addByte_of_ne (Ne.symm unbroken.1)]

/-- A line feed ends the first line and stays at its end. -/
theorem byteLines_append_lineFeed {line : List UInt8} (unbroken : 10 ∉ line)
    (rest : List UInt8) : byteLines (line ++ 10 :: rest) = (line ++ [10]) :: byteLines rest := by
  induction line with
  | nil => rfl
  | cons byte line ih =>
    rw [List.mem_cons, not_or] at unbroken
    change addByte byte (byteLines (line ++ 10 :: rest)) = _
    rw [ih unbroken.2, addByte_of_ne (Ne.symm unbroken.1)]
    rfl

/-- Where line feeds at the end of a line make no difference, lines can be taken with or without
them. -/
theorem filterMap_byteLines {Result : Type} {bytes : List UInt8} {lines : List (List UInt8)}
    {read : List UInt8 → Option Result} (cut : Lines bytes lines)
    (alike : ∀ line, read (line ++ [10]) = read line) :
    (byteLines bytes).filterMap read = lines.filterMap read := by
  induction cut with
  | none => rfl
  | last unbroken nonempty => rw [byteLines_of_unbroken unbroken nonempty]
  | ended unbroken _ ih =>
    rw [byteLines_append_lineFeed unbroken, List.filterMap_cons, List.filterMap_cons, alike, ih]

/-- Texts, each of them on a line of its own. -/
def onLines (texts : List String) : String := String.join (texts.map (· ++ "\n"))

/-- The lines of texts without line feeds are the texts. -/
theorem lines_onLines {texts : List String}
    (unbroken : ∀ text ∈ texts, '\n' ∉ text.toList) :
    Lines (encodeUtf8 (onLines texts)) (texts.map encodeUtf8) := by
  induction texts with
  | nil => exact .none
  | cons text rest ih =>
    obtain ⟨first, others⟩ := List.forall_mem_cons.1 unbroken
    have written : encodeUtf8 (onLines (text :: rest)) =
        encodeUtf8 text ++ 10 :: encodeUtf8 (onLines rest) := by
      have lineFeed : encodeUtf8 "\n" = [10] := by decide
      rw [onLines, List.map_cons, String.join_cons, encodeUtf8_append, encodeUtf8_append, lineFeed,
        List.append_assoc]
      rfl
    rw [written]
    exact .ended (mt lineFeed_mem_encodeUtf8_iff.1 first) (ih others)

/-- A text neither begins nor ends with a blank character. -/
def IsTrimmed (text : String) : Prop :=
  text.toList.head?.any isBlank = false ∧ text.toList.getLast?.any isBlank = false

instance (text : String) : Decidable (IsTrimmed text) :=
  inferInstanceAs (Decidable (_ ∧ _))

/-- A text that has no blank characters around it is left as it is. -/
theorem IsTrimmed.trim_eq {text : String} (trimmed : IsTrimmed text) : trim text = text := by
  have front := (Option.any_eq_false _ _).1 trimmed.1
  have back := (Option.any_eq_false _ _).1 trimmed.2
  rw [trim, trimChars_of_not_blank front back, String.ofList_toList]

/-- The text is the given one with blank characters around it. -/
inductive Surrounds (name : String) : String → Prop where
  | intro {before after : String} (trimmed : IsTrimmed name)
      (blankBefore : ∀ character ∈ before.toList, isBlank character)
      (blankAfter : ∀ character ∈ after.toList, isBlank character) :
      Surrounds name (before ++ name ++ after)

/-- Blank characters at the end are trimmed. -/
theorem trimChars_append_of_blank {after : List Char}
    (blank : ∀ character ∈ after, isBlank character) (characters : List Char) :
    trimChars (characters ++ after) = trimChars characters := by
  have atEnd (characters : List Char) :
      trimEndChars (characters ++ after) = trimEndChars characters := by
    have blankReverse : ∀ character ∈ after.reverse, isBlank character := by simpa using blank
    rw [trimEndChars, List.reverse_append, List.dropWhile_append_of_pos blankReverse, trimEndChars]
  rw [trimChars, trimChars, List.dropWhile_append]
  split
  case isTrue allBlank =>
    rw [List.isEmpty_iff.1 allBlank, List.dropWhile_eq_nil_iff.2 blank]
  case isFalse someLeft => rw [atEnd]

/-- What is left when blank characters are dropped does not begin with one. -/
theorem not_blank_of_head?_dropWhile {characters : List Char} {first : Char}
    (isFirst : first ∈ (characters.dropWhile isBlank).head?) : isBlank first = false := by
  have known := List.head?_dropWhile_not isBlank characters
  rwa [isFirst] at known

/-- Characters consist of what is left of them and of the blank ones at their end. -/
theorem exists_blank_after (characters : List Char) :
    ∃ after, (∀ character ∈ after, isBlank character) ∧
      characters = trimEndChars characters ++ after := by
  refine ⟨(characters.reverse.takeWhile isBlank).reverse, fun character member => ?_, ?_⟩
  · exact List.mem_takeWhile_imp (List.mem_reverse.1 member)
  · rw [trimEndChars, ← List.reverse_append, List.takeWhile_append_dropWhile,
      List.reverse_reverse]

/-- What is left of a text neither begins nor ends with a blank character. -/
theorem isTrimmed_trim (text : String) : IsTrimmed (trim text) := by
  obtain ⟨after, _, split⟩ := exists_blank_after (text.toList.dropWhile isBlank)
  constructor
  · refine (Option.any_eq_false _ _).2 fun first isFirst => ?_
    rw [trim, String.toList_ofList, trimChars] at isFirst
    refine @not_blank_of_head?_dropWhile text.toList first ?_
    rw [split, List.head?_append, isFirst]
    rfl
  · refine (Option.any_eq_false _ _).2 fun last isLast => ?_
    rw [trim, String.toList_ofList, trimChars, trimEndChars, List.getLast?_reverse] at isLast
    exact not_blank_of_head?_dropWhile isLast

/-- A text is trimmed to the one that blank characters surround in it. -/
theorem trim_eq_iff {text name : String} : trim text = name ↔ Surrounds name text := by
  constructor
  · rintro rfl
    obtain ⟨after, blankAfter, split⟩ := exists_blank_after (text.toList.dropWhile isBlank)
    let before := text.toList.takeWhile isBlank
    have whole : text = String.ofList before ++ trim text ++ String.ofList after := by
      apply String.toList_inj.1
      simp only [String.toList_append, String.toList_ofList, trim, trimChars]
      rw [List.append_assoc, ← split, List.takeWhile_append_dropWhile]
    have blankBefore : ∀ character ∈ before, isBlank character :=
      fun _ => List.mem_takeWhile_imp
    have surrounds : Surrounds (trim text)
        (String.ofList before ++ trim text ++ String.ofList after) :=
      .intro (isTrimmed_trim text) (by simpa using blankBefore) (by simpa using blankAfter)
    rwa [← whole] at surrounds
  · intro surrounds
    cases surrounds with
    | @intro before after trimmed blankBefore blankAfter =>
      have inner : trimChars (before ++ name ++ after).toList = trimChars name.toList := by
        rw [String.toList_append, trimChars_append_of_blank blankAfter, String.toList_append,
          trimChars, List.dropWhile_append_of_pos blankBefore, trimChars]
      rw [trim, inner, ← trim, trimmed.trim_eq]

/-- A line feed at the end of a text is trimmed. -/
theorem trim_append_lineFeed (text : String) : trim (text ++ "\n") = trim text := by
  have blank : ∀ character ∈ ['\n'], isBlank character :=
    List.forall_mem_singleton.2 (by decide)
  have characters : (text ++ "\n").toList = text.toList ++ ['\n'] := by simp
  rw [trim, characters, trimChars_append_of_blank blank, trim]

end Workstream.Text
