import Workstream.Naming.Grammar

/-!
# Paths segment by segment

The grammars of paths are patterns, which a text fits as a whole. Each of them can also be read
off the segments of the text, which are what the marks `::` leave between them: they say which
segments have to be words, which one may be the name of an element, and where the reserved
package stands. The two readings agree on every text, whatever colons and line feeds it holds,
because no word and no name holds a colon, so that segments are recovered from a text in one way
only.
-/

namespace Workstream.Naming

/-- The character is an ASCII letter, an ASCII digit or the underscore. -/
def IsWordCharacter (character : Char) : Prop :=
  ('A' ≤ character ∧ character ≤ 'Z') ∨ ('a' ≤ character ∧ character ≤ 'z') ∨
    ('0' ≤ character ∧ character ≤ '9') ∨ character = '_'

/-- The text is made of word characters and is not empty. -/
def IsWord (text : List Char) : Prop :=
  text ≠ [] ∧ ∀ character ∈ text, IsWordCharacter character

/-- The text is made of word characters and dollar signs and is not empty. -/
def IsName (text : List Char) : Prop :=
  text ≠ [] ∧ ∀ character ∈ text, IsWordCharacter character ∨ character = '$'

/-- The segments of a path, from left to right. Of two marks that overlap the first one counts,
and the empty path has one empty segment. -/
def segments : List Char → List (List Char)
  | [] => [[]]
  | ':' :: ':' :: rest => [] :: segments rest
  | character :: rest =>
    match segments rest with
    | [] => [[character]]
    | segment :: more => (character :: segment) :: more

/-- There are at least two segments, of which the last is a name and the others are words. -/
def IsElement (segments : List (List Char)) : Prop :=
  ∃ words name, segments = words ++ [name] ∧ words ≠ [] ∧ (∀ word ∈ words, IsWord word) ∧
    IsName name

/-- Texts with a mark before each of them. -/
def marked (texts : List (List Char)) : List Char :=
  texts.flatMap fun text => ':' :: ':' :: text

theorem marked_cons (text : List Char) (texts : List (List Char)) :
    marked (text :: texts) = ':' :: ':' :: (text ++ marked texts) := by
  simp [marked]

theorem marked_append (first second : List (List Char)) :
    marked (first ++ second) = marked first ++ marked second := by
  simp [marked]

/-- Word characters are letters, digits and the underscore. -/
theorem isWordCharacter_iff {character : Char} :
    IsWordCharacter character ↔ CharacterClass.word.holds character = true := by
  have spelled : CharacterClass.word.holds character =
      (((('A' ≤ character ∧ character ≤ 'Z' : Bool) || 'a' ≤ character && character ≤ 'z') ||
        '0' ≤ character && character ≤ '9') || character = '_') := rfl
  simp only [IsWordCharacter, spelled, Bool.or_eq_true, Bool.and_eq_true, decide_eq_true_eq,
    or_assoc]

/-- No word character is a colon. -/
theorem IsWordCharacter.ne_colon {character : Char} (isWord : IsWordCharacter character) :
    character ≠ ':' := by
  rintro rfl
  exact absurd (isWordCharacter_iff.1 isWord) (by decide)

theorem IsWord.isName {text : List Char} (isWord : IsWord text) : IsName text :=
  ⟨isWord.1, fun character member => .inl (isWord.2 character member)⟩

theorem IsName.colon_not_mem {text : List Char} (isName : IsName text) : ':' ∉ text := by
  intro member
  rcases isName.2 ':' member with isWord | isDollar
  · exact isWord.ne_colon rfl
  · cases isDollar

theorem IsWord.colon_not_mem {text : List Char} (isWord : IsWord text) : ':' ∉ text :=
  isWord.isName.colon_not_mem

/-- A character that does not begin a mark belongs to the first segment. -/
theorem segments_cons {character : Char} {rest : List Char} {first : List Char}
    {more : List (List Char)} (noMark : character = ':' → rest.head? ≠ some ':')
    (cut : segments rest = first :: more) :
    segments (character :: rest) = (character :: first) :: more := by
  rw [segments]
  · rw [cut]
  · rintro other rfl rfl
    exact noMark rfl rfl

/-- The segments with the marks between them are the path. -/
theorem exists_segments (text : List Char) :
    ∃ first more, segments text = first :: more ∧ text = first ++ marked more := by
  fun_induction segments text with
  | case1 => exact ⟨[], [], rfl, rfl⟩
  | case2 rest ih =>
    obtain ⟨first, more, cut, written⟩ := ih
    refine ⟨[], segments rest, rfl, ?_⟩
    rw [cut, marked_cons, ← written]
    rfl
  | case3 character rest noMark cut ih =>
    obtain ⟨first, more, other, _⟩ := ih
    rw [cut] at other
    cases other
  | case4 character rest noMark first more cut ih =>
    obtain ⟨other, others, same, written⟩ := ih
    obtain ⟨rfl, rfl⟩ := List.cons.inj (cut.symm.trans same)
    exact ⟨character :: first, more, rfl, by rw [written]; rfl⟩

/-- A text without colons is its own only segment. -/
theorem segments_of_colon_not_mem {text : List Char} (absent : ':' ∉ text) :
    segments text = [text] := by
  induction text with
  | nil => rfl
  | cons character rest ih =>
    rw [List.mem_cons, not_or] at absent
    exact segments_cons (fun colon => absurd colon.symm absent.1) (ih absent.2)

/-- A mark ends the first segment when that segment has no colon. -/
theorem segments_append_mark {front : List Char} (absent : ':' ∉ front) (rest : List Char) :
    segments (front ++ ':' :: ':' :: rest) = front :: segments rest := by
  induction front with
  | nil => rfl
  | cons character front ih =>
    rw [List.mem_cons, not_or] at absent
    exact segments_cons (fun colon => absurd colon.symm absent.1) (ih absent.2)

/-- Texts without colons are the segments of the path that is made of them. -/
theorem segments_append_marked {first : List Char} {more : List (List Char)}
    (absent : ':' ∉ first) (moreAbsent : ∀ segment ∈ more, ':' ∉ segment) :
    segments (first ++ marked more) = first :: more := by
  induction more generalizing first with
  | nil =>
    rw [marked, List.flatMap_nil, List.append_nil]
    exact segments_of_colon_not_mem absent
  | cons next later ih =>
    obtain ⟨nextAbsent, laterAbsent⟩ := List.forall_mem_cons.1 moreAbsent
    rw [marked_cons, segments_append_mark absent, ih nextAbsent laterAbsent]

/-- The first segment can be found on its own. -/
theorem head?_segments (text : List Char) :
    (segments text).head? = some (firstSegment text) := by
  fun_induction segments text with
  | case1 => rfl
  | case2 rest ih => rfl
  | case3 character rest noMark cut ih => rw [cut] at ih; cases ih
  | case4 character rest noMark first more cut ih =>
    rw [cut] at ih
    obtain rfl : first = firstSegment rest := Option.some.inj ih
    rw [firstSegment]
    · rfl
    · exact noMark

namespace Pattern

/-- A literal describes its own characters and nothing else. -/
theorem denotes_literal_iff {characters text : List Char} :
    Denotes (literal characters) text ↔ text = characters := by
  induction characters generalizing text with
  | nil => exact denotes_blank_iff
  | cons character rest ih =>
    simp only [literal, denotes_sequence_iff, denotes_one_iff, ih, CharacterClass.holds,
      decide_eq_true_eq]
    constructor
    · rintro ⟨_, _, rfl, ⟨_, rfl, rfl⟩, rfl⟩
      rfl
    · rintro rfl
      exact ⟨[character], rest, rfl, ⟨character, rfl, rfl⟩, rfl⟩

/-- A repetition describes what is made of texts of the repeated pattern. -/
theorem denotes_many_iff {inner : Pattern} {text : List Char} :
    Denotes (.many inner) text ↔
      ∃ parts : List (List Char), text = parts.flatten ∧ ∀ part ∈ parts, Denotes inner part := by
  constructor
  · intro described
    generalize kind : Pattern.many inner = pattern at described
    induction described with
    | blank => cases kind
    | one _ => cases kind
    | sequence _ _ => cases kind
    | left _ => cases kind
    | right _ => cases kind
    | stop => exact ⟨[], rfl, List.forall_mem_nil _⟩
    | @more _ front back described _ _ ih =>
      cases kind
      obtain ⟨parts, rfl, described'⟩ := ih rfl
      exact ⟨front :: parts, rfl, List.forall_mem_cons.2 ⟨described, described'⟩⟩
  · rintro ⟨parts, rfl, described⟩
    induction parts with
    | nil => exact .stop
    | cons front parts ih =>
      obtain ⟨first, rest⟩ := List.forall_mem_cons.1 described
      exact .more first (ih rest)

/-- A character class, once or more often, describes the texts over it that are not empty. -/
theorem denotes_oneOrMore_one_iff {characters : CharacterClass} {text : List Char} :
    Denotes (oneOrMore (.one characters)) text ↔
      text ≠ [] ∧ ∀ character ∈ text, characters.holds character = true := by
  have many (text : List Char) : Denotes (.many (.one characters)) text ↔
      ∀ character ∈ text, characters.holds character = true := by
    induction text with
    | nil => simp [Denotes.stop]
    | cons character rest ih =>
      simp only [denotes_many_cons_iff, denotes_one_iff, List.cons.injEq, List.forall_mem_cons]
      constructor
      · rintro ⟨_, back, rfl, ⟨_, held, rfl, rfl⟩, described⟩
        exact ⟨held, ih.1 described⟩
      · rintro ⟨held, described⟩
        exact ⟨[], rest, rfl, ⟨character, held, rfl, rfl⟩, ih.2 described⟩
  simp only [oneOrMore, denotes_sequence_iff, denotes_one_iff, many]
  constructor
  · rintro ⟨_, back, rfl, ⟨character, held, rfl⟩, described⟩
    exact ⟨by simp, List.forall_mem_cons.2 ⟨held, described⟩⟩
  · rintro ⟨nonempty, described⟩
    obtain ⟨character, back, rfl⟩ := List.exists_cons_of_ne_nil nonempty
    obtain ⟨held, rest⟩ := List.forall_mem_cons.1 described
    exact ⟨[character], back, rfl, ⟨character, held, rfl⟩, rest⟩

end Pattern

open Pattern

theorem denotes_word_iff {text : List Char} : Denotes word text ↔ IsWord text := by
  simp only [word, denotes_oneOrMore_one_iff, ← isWordCharacter_iff]
  rfl

theorem denotes_elementName_iff {text : List Char} : Denotes elementName text ↔ IsName text := by
  have held (character : Char) : CharacterClass.name.holds character = true ↔
      IsWordCharacter character ∨ character = '$' := by
    rw [isWordCharacter_iff]
    simp [CharacterClass.holds]
  simp only [elementName, denotes_oneOrMore_one_iff, held]
  rfl

/-- Further words stand behind their marks. -/
theorem denotes_moreWords_iff {text : List Char} :
    Denotes moreWords text ↔ ∃ words, text = marked words ∧ ∀ word ∈ words, IsWord word := by
  simp only [moreWords, pathMark, denotes_many_iff, denotes_sequence_iff, denotes_literal_iff,
    denotes_word_iff]
  constructor
  · rintro ⟨parts, rfl, described⟩
    induction parts with
    | nil => exact ⟨[], rfl, List.forall_mem_nil _⟩
    | cons part parts ih =>
      obtain ⟨⟨_, word, rfl, rfl, isWord⟩, rest⟩ := List.forall_mem_cons.1 described
      obtain ⟨words, written, areWords⟩ := ih rest
      refine ⟨word :: words, ?_, List.forall_mem_cons.2 ⟨isWord, areWords⟩⟩
      rw [List.flatten_cons, written, marked_cons]
      rfl
  · rintro ⟨words, rfl, areWords⟩
    refine ⟨words.map fun word => ':' :: ':' :: word, List.flatMap_def .., ?_⟩
    rw [List.forall_mem_map]
    exact fun word member => ⟨[':', ':'], word, rfl, rfl, areWords word member⟩

/-- The name of an element stands behind a mark. -/
theorem denotes_lastName_iff {text : List Char} :
    Denotes lastName text ↔ ∃ name, text = marked [name] ∧ IsName name := by
  simp only [lastName, pathMark, denotes_sequence_iff, denotes_literal_iff,
    denotes_elementName_iff]
  constructor
  · rintro ⟨_, name, rfl, rfl, isName⟩
    exact ⟨name, by simp [marked], isName⟩
  · rintro ⟨name, rfl, isName⟩
    exact ⟨[':', ':'], name, by simp [marked], rfl, isName⟩

/-- Further words and the name of an element stand behind their marks. -/
theorem denotes_moreWords_lastName_iff {text : List Char} :
    Denotes (.sequence moreWords lastName) text ↔ ∃ words name, text = marked (words ++ [name]) ∧
      (∀ word ∈ words, IsWord word) ∧ IsName name := by
  simp only [denotes_sequence_iff, denotes_moreWords_iff, denotes_lastName_iff]
  constructor
  · rintro ⟨_, _, rfl, ⟨words, rfl, areWords⟩, ⟨name, rfl, isName⟩⟩
    exact ⟨words, name, (marked_append _ _).symm, areWords, isName⟩
  · rintro ⟨words, name, rfl, areWords, isName⟩
    exact ⟨_, _, marked_append _ _, ⟨words, rfl, areWords⟩, ⟨name, rfl, isName⟩⟩

variable {text : String}

/-- A package path is made of words. -/
theorem isPackagePath_iff :
    isPackagePath text = true ↔ ∀ segment ∈ segments text.toList, IsWord segment := by
  simp only [isPackagePath, accepts_iff, packagePath, denotes_sequence_iff, denotes_word_iff,
    denotes_moreWords_iff]
  constructor
  · rintro ⟨first, _, written, isWord, words, rfl, areWords⟩
    rw [written, segments_append_marked isWord.colon_not_mem
      fun word member => (areWords word member).colon_not_mem]
    exact List.forall_mem_cons.2 ⟨isWord, areWords⟩
  · intro areWords
    obtain ⟨first, more, cut, written⟩ := exists_segments text.toList
    rw [cut] at areWords
    obtain ⟨isWord, areWords⟩ := List.forall_mem_cons.1 areWords
    exact ⟨first, marked more, written, isWord, more, rfl, areWords⟩

/-- The path of an element begins in a word, goes on with words and ends in a name. -/
theorem isElement_segments_iff {path first : List Char} :
    IsElement (segments path) ∧ (segments path).head? = some first ↔
      IsWord first ∧ ∃ words name, path = first ++ marked (words ++ [name]) ∧
        (∀ word ∈ words, IsWord word) ∧ IsName name := by
  constructor
  · rintro ⟨⟨words, name, cut, nonempty, areWords, isName⟩, isFirst⟩
    obtain ⟨other, words, rfl⟩ := List.exists_cons_of_ne_nil nonempty
    rw [cut] at isFirst
    obtain rfl : other = first := Option.some.inj isFirst
    obtain ⟨isWord, areWords⟩ := List.forall_mem_cons.1 areWords
    obtain ⟨start, more, same, written⟩ := exists_segments path
    obtain ⟨rfl, rfl⟩ := List.cons.inj (cut.symm.trans same)
    exact ⟨isWord, words, name, written, areWords, isName⟩
  · rintro ⟨isWord, words, name, rfl, areWords, isName⟩
    have absent : ∀ segment ∈ words ++ [name], ':' ∉ segment := by
      simp only [List.forall_mem_append, List.forall_mem_singleton]
      exact ⟨fun word member => (areWords word member).colon_not_mem, isName.colon_not_mem⟩
    rw [segments_append_marked isWord.colon_not_mem absent]
    exact ⟨⟨first :: words, name, rfl, List.cons_ne_nil _ _,
      List.forall_mem_cons.2 ⟨isWord, areWords⟩, isName⟩, rfl⟩

/-- The path of an element fits its pattern. -/
theorem denotes_elementPath_iff {path : List Char} :
    Denotes elementPath path ↔ IsElement (segments path) := by
  rw [elementPath, denotes_sequence_iff]
  simp only [denotes_word_iff, denotes_moreWords_lastName_iff]
  constructor
  · rintro ⟨first, _, rfl, isWord, words, name, rfl, areWords, isName⟩
    exact (isElement_segments_iff.2 ⟨isWord, words, name, rfl, areWords, isName⟩).1
  · intro isElement
    obtain ⟨isWord, words, name, written, areWords, isName⟩ :=
      isElement_segments_iff.1 ⟨isElement, head?_segments path⟩
    exact ⟨_, _, written, isWord, words, name, rfl, areWords, isName⟩

/-- The path of an entity is the path of an element outside the reserved package. -/
theorem isEntityPath_iff : isEntityPath text = true ↔
    IsElement (segments text.toList) ∧
      (segments text.toList).head? ≠ some reservedPackage := by
  simp [isEntityPath, accepts_iff, denotes_elementPath_iff, head?_segments]

theorem isWord_reservedPackage : IsWord reservedPackage := by
  have holdsAll : reservedPackage.all CharacterClass.word.holds = true := by decide
  exact ⟨List.cons_ne_nil _ _, fun character member =>
    isWordCharacter_iff.2 (List.all_eq_true.1 holdsAll character member)⟩

/-- The path of a classifier is the path of an element in the reserved package. -/
theorem isClassifierPath_iff : isClassifierPath text = true ↔
    IsElement (segments text.toList) ∧
      (segments text.toList).head? = some reservedPackage := by
  rw [isClassifierPath, accepts_iff, classifierPath, denotes_sequence_iff,
    isElement_segments_iff]
  simp only [denotes_literal_iff, denotes_moreWords_lastName_iff, isWord_reservedPackage,
    true_and]
  constructor
  · rintro ⟨_, _, written, rfl, words, name, rfl, areWords, isName⟩
    exact ⟨words, name, written, areWords, isName⟩
  · rintro ⟨words, name, written, areWords, isName⟩
    exact ⟨_, _, written, rfl, words, name, rfl, areWords, isName⟩

/-- What a package can hold is a package or an element. -/
theorem isPackageableElementPath_iff : isPackageableElementPath text = true ↔
    (∀ segment ∈ segments text.toList, IsWord segment) ∨ IsElement (segments text.toList) := by
  rw [← isPackagePath_iff, ← denotes_elementPath_iff]
  simp only [isPackageableElementPath, isPackagePath, accepts_iff, packageableElementPath,
    packagePath, elementPath, Pattern.optional, denotes_sequence_iff, denotes_either_iff,
    denotes_blank_iff]
  constructor
  · rintro ⟨first, _, written, isWord, front, back, rfl, isFront, isBack | rfl⟩
    · exact .inr ⟨first, _, written, isWord, front, back, rfl, isFront, isBack⟩
    · exact .inl ⟨first, front, by rw [written, List.append_nil], isWord, isFront⟩
  · rintro (⟨first, front, written, isWord, isFront⟩ |
      ⟨first, _, written, isWord, front, back, rfl, isFront, isBack⟩)
    · refine ⟨first, front, written, isWord, front, [], (List.append_nil _).symm, isFront, ?_⟩
      exact .inr rfl
    · exact ⟨first, _, written, isWord, front, back, rfl, isFront, .inl isBack⟩

/-- Words with a mark between them are a single word or the path of an element. -/
theorem isWord_or_isElement {path : List Char}
    (areWords : ∀ segment ∈ segments path, IsWord segment) :
    IsWord path ∨ IsElement (segments path) := by
  obtain ⟨first, more, cut, written⟩ := exists_segments path
  rw [cut] at areWords ⊢
  obtain ⟨isWord, areWords⟩ := List.forall_mem_cons.1 areWords
  rcases List.eq_nil_or_concat more with rfl | ⟨words, last, rfl⟩
  · left
    rwa [written, marked, List.flatMap_nil, List.append_nil]
  · right
    rw [List.concat_eq_append, List.forall_mem_append, List.forall_mem_singleton] at areWords
    exact ⟨first :: words, last, by simp, List.cons_ne_nil _ _,
      List.forall_mem_cons.2 ⟨isWord, areWords.1⟩, areWords.2.isName⟩

/-- A single word is not the path of an element. -/
theorem IsWord.not_isElement {path : List Char} (isWord : IsWord path) :
    ¬ IsElement (segments path) := by
  rintro ⟨words, name, cut, nonempty, _, _⟩
  rw [segments_of_colon_not_mem isWord.colon_not_mem] at cut
  have single : [] ++ [path] = words ++ [name] := cut
  exact nonempty (List.append_inj' single rfl).1.symm

/-- What a package can hold is a single word or an element. -/
theorem isPackageableElementPath_iff_isWord_or : isPackageableElementPath text = true ↔
    IsWord text.toList ∨ IsElement (segments text.toList) := by
  rw [isPackageableElementPath_iff]
  constructor
  · rintro (areWords | isElement)
    · exact isWord_or_isElement areWords
    · exact .inr isElement
  · rintro (isWord | isElement)
    · rw [segments_of_colon_not_mem isWord.colon_not_mem]
      exact .inl (List.forall_mem_singleton.2 isWord)
    · exact .inr isElement

/-- Every grammar of names and paths can be read off the segments of a text. The name of an
entity is a name, and the path of a package is made of words. The path of an entity is the path
of an element, words and then a name, outside the reserved package, and that of a classifier is
one inside it. What a package can hold is the path of a package or of an element, and so exactly
one of a single word, the path of an entity and the path of a classifier. -/
theorem grammars_by_segments (text : String) :
    (isEntityName text = true ↔ IsName text.toList) ∧
    (isPackagePath text = true ↔ ∀ segment ∈ segments text.toList, IsWord segment) ∧
    (isPackageableElementPath text = true ↔
      (∀ segment ∈ segments text.toList, IsWord segment) ∨
        IsElement (segments text.toList)) ∧
    (isEntityPath text = true ↔ IsElement (segments text.toList) ∧
      (segments text.toList).head? ≠ some reservedPackage) ∧
    (isClassifierPath text = true ↔ IsElement (segments text.toList) ∧
      (segments text.toList).head? = some reservedPackage) ∧
    (isPackageableElementPath text = true →
      (IsWord text.toList ∧ isEntityPath text = false ∧ isClassifierPath text = false) ∨
      (¬ IsWord text.toList ∧ isEntityPath text = true ∧ isClassifierPath text = false) ∨
      (¬ IsWord text.toList ∧ isEntityPath text = false ∧ isClassifierPath text = true)) := by
  refine ⟨?_, isPackagePath_iff, isPackageableElementPath_iff, isEntityPath_iff,
    isClassifierPath_iff, fun packageable => ?_⟩
  · rw [isEntityName, accepts_iff, denotes_elementName_iff]
  · simp only [← Bool.not_eq_true, isEntityPath_iff, isClassifierPath_iff]
    rcases isPackageableElementPath_iff_isWord_or.1 packageable with isWord | isElement
    · exact .inl ⟨isWord, fun entity => isWord.not_isElement entity.1,
        fun classifier => isWord.not_isElement classifier.1⟩
    · have notWord : ¬ IsWord text.toList := fun isWord => isWord.not_isElement isElement
      by_cases reserved : (segments text.toList).head? = some reservedPackage
      · exact .inr (.inr ⟨notWord, fun entity => entity.2 reserved, isElement, reserved⟩)
      · exact .inr (.inl ⟨notWord, ⟨isElement, reserved⟩,
          fun classifier => reserved classifier.2⟩)

/-- A package whose name only begins like that of the reserved one holds entities. -/
theorem grammars_by_segments_metadata :
    isPackageableElementPath "metadata::Person$" = true ∧
      IsElement (segments "metadata::Person$".toList) ∧
      ¬ IsWord "metadata::Person$".toList ∧ isEntityPath "metadata::Person$" = true ∧
      isClassifierPath "metadata::Person$" = false := by
  have packageable : isPackageableElementPath "metadata::Person$" = true := by decide +kernel
  have isEntity : isEntityPath "metadata::Person$" = true := by decide +kernel
  obtain ⟨_, _, _, entity, _, exactlyOne⟩ := grammars_by_segments "metadata::Person$"
  refine ⟨packageable, (entity.1 isEntity).1, ?_⟩
  rcases exactlyOne packageable with ⟨_, notEntity, _⟩ | kind | ⟨_, notEntity, _⟩
  · exact absurd (isEntity.symm.trans notEntity) (by decide)
  · exact kind
  · exact absurd (isEntity.symm.trans notEntity) (by decide)

end Workstream.Naming
