import Aggregation.Proofs.Naming.Algebra

/-
  Identifiers of conventional names.

  A conventional name has words with a separator between
  neighbours.  A word starts with a lower-case letter, and
  lower-case letters and digits follow.  So each capital of
  the identifier starts a word, and the words can be read
  back.  The identifier forgets the separators only.

  Key definitions include:
    * `isWord`
    * `Spells`
    * `IsConventional`
    * `AreSpellings`
    * `readWords`

  Key theorems include:
    * `isConventional_iff`
    * `readWords_flatMap`
    * `normalize_eq_iff`
    * `IsConventional.areSpellings_iff`
-/

------------------------------------------------------------
-- Conventional Names
------------------------------------------------------------

namespace Aggregation

/- Test for a character that can follow in a word. -/
def isWordCharacter (character : Char) : Bool :=
  character.isLower || character.isDigit

/- Test for a lower-case word. -/
def isWord : List Char → Bool
  | [] => false
  | first :: rest =>
      first.isLower && rest.all isWordCharacter

/- Characters that spell words, with separators between. -/
inductive SpellsChars : List (List Char) → List Char → Prop where
  | single
      {word : List Char}
      (hWord : isWord word = true) :
      SpellsChars [word] word
  | joined
      {word rest : List Char}
      {words : List (List Char)}
      {separator : Char}
      (hWord : isWord word = true)
      (hSeparator : isSeparator separator = true)
      (hRest : SpellsChars words rest) :
      SpellsChars (word :: words) (word ++ separator :: rest)

/- A name spells words. -/
def Spells (words : List (List Char)) (name : String) :
    Prop :=
  SpellsChars words name.toList

/- A name spells some words. -/
def IsConventional (name : String) : Prop :=
  ∃ words, Spells words name

/- Two names spell the same words. -/
def AreSpellings (left right : String) : Prop :=
  ∃ words, Spells words left ∧ Spells words right

/- No word has a separator. -/
theorem isSeparator_of_isWordCharacter
    {character : Char}
    (hWord : isWordCharacter character = true) :
    isSeparator character = false := by
  rw [Bool.eq_false_iff]
  intro hSeparator
  simp only [isSeparator, Bool.or_eq_true, beq_iff_eq]
    at hSeparator
  rcases hSeparator with hDash | hLine
  · rw [hDash] at hWord
    exact absurd hWord (by decide)
  · rw [hLine] at hWord
    exact absurd hWord (by decide)

theorem isWordCharacter_of_mem
    {word : List Char}
    (hWord : isWord word = true) :
    ∀ character ∈ word, isWordCharacter character = true := by
  cases word with
  | nil => exact List.forall_mem_nil _
  | cons first rest =>
      simp only [isWord, Bool.and_eq_true] at hWord
      refine List.forall_mem_cons.mpr
        ⟨?_, List.all_eq_true.mp hWord.2⟩
      unfold isWordCharacter
      rw [hWord.1]
      rfl

/- Words are the segments of the name that spells them. -/
theorem SpellsChars.splitOn_eq
    {words : List (List Char)}
    {chars : List Char}
    (hSpells : SpellsChars words chars) :
    Text.splitOn isSeparator chars = words ∧
      ∀ word ∈ words, isWord word = true := by
  have hSegment :
      ∀ {word : List Char}, isWord word = true →
        Text.splitOn isSeparator word = [word] := by
    intro word hWord
    apply Text.splitOn_eq_singleton
    intro character hMem
    exact isSeparator_of_isWordCharacter
      (isWordCharacter_of_mem hWord character hMem)
  induction hSpells with
  | single hWord =>
      exact ⟨hSegment hWord,
        List.forall_mem_singleton.mpr hWord⟩
  | joined hWord hSeparator hRest ih =>
      refine ⟨?_, List.forall_mem_cons.mpr ⟨hWord, ih.2⟩⟩
      rw [Text.splitOn_append hSeparator, hSegment hWord,
        ih.1]
      rfl

/- Segments that are words are what a name spells. -/
theorem spellsChars_of_splitOn
    {words : List (List Char)}
    {chars : List Char}
    (hSplit : Text.splitOn isSeparator chars = words)
    (hWords : ∀ word ∈ words, isWord word = true) :
    SpellsChars words chars := by
  induction words generalizing chars with
  | nil => exact absurd hSplit (Text.splitOn_ne_nil _ chars)
  | cons word words ih =>
      rcases List.forall_mem_cons.mp hWords with
        ⟨hWord, hOthers⟩
      rcases Text.splitOn_eq_cons hSplit with
        ⟨hNone, hAll⟩ | ⟨separator, rest, hMore⟩
      · rw [hNone, hAll]
        exact .single hWord
      · rw [hMore.2.1]
        exact .joined hWord hMore.1 (ih hMore.2.2 hOthers)

/- A name is conventional if its segments are words. -/
theorem isConventional_iff (name : String) :
    IsConventional name ↔
      ∀ word ∈ Text.splitOn isSeparator name.toList,
        isWord word = true := by
  constructor
  · rintro ⟨words, hSpells⟩
    rw [hSpells.splitOn_eq.1]
    exact hSpells.splitOn_eq.2
  · intro hWords
    exact ⟨_, spellsChars_of_splitOn rfl hWords⟩

instance (name : String) : Decidable (IsConventional name) :=
  decidable_of_iff _ (isConventional_iff name).symm

/- A name spells one list of words only. -/
theorem Spells.unique
    {words others : List (List Char)}
    {name : String}
    (hWords : Spells words name)
    (hOthers : Spells others name) :
    words = others :=
  hWords.splitOn_eq.1.symm.trans hOthers.splitOn_eq.1

/- An identifier has the capitalized words of its name. -/
theorem Spells.pascalChars_eq
    {words : List (List Char)}
    {name : String}
    (hSpells : Spells words name) :
    pascalChars name.toList = words.flatMap capitalize := by
  unfold pascalChars
  rw [hSpells.splitOn_eq.1]

------------------------------------------------------------
-- Reading Back
------------------------------------------------------------

/-
  Words that start at capitals, and what stands before the
  first of them.
-/
def readWords : List Char → List Char × List (List Char)
  | [] => ([], [])
  | character :: rest =>
      let (before, words) := readWords rest
      if character.isUpper then
        ([], (character.toLower :: before) :: words)
      else
        (character :: before, words)

theorem isLower_iff_toNat (character : Char) :
    character.isLower = true ↔
      97 ≤ character.toNat ∧ character.toNat ≤ 122 := by
  unfold Char.isLower
  simp only [Bool.and_eq_true, decide_eq_true_eq,
    UInt32.le_iff_toNat_le]
  exact Iff.rfl

theorem isUpper_iff_toNat (character : Char) :
    character.isUpper = true ↔
      65 ≤ character.toNat ∧ character.toNat ≤ 90 := by
  unfold Char.isUpper
  simp only [decide_eq_true_eq, UInt32.le_iff_toNat_le]
  exact Iff.rfl

/- Each lower-case letter has one capital of its own. -/
theorem upper_of_lowercase :
    ∀ index < 26,
      let letter := Char.ofNat (97 + index)
      let capital := Char.ofNat (65 + index)
      Text.upper letter = [capital] ∧
        capital.isUpper = true ∧
        capital.toLower = letter := by
  decide +kernel

/- A capital tells the letter that it stands for. -/
theorem exists_upper_of_isLower
    {letter : Char}
    (hLower : letter.isLower = true) :
    ∃ capital,
      Text.upper letter = [capital] ∧
        capital.isUpper = true ∧
        capital.toLower = letter := by
  rw [isLower_iff_toNat] at hLower
  have hLetter :
      Char.ofNat (97 + (letter.toNat - 97)) = letter := by
    rw [Nat.add_sub_cancel' hLower.1, Char.ofNat_toNat]
  have hUpper :=
    upper_of_lowercase (letter.toNat - 97) (by omega)
  simp only [hLetter] at hUpper
  exact ⟨_, hUpper⟩

/- No capital follows in a word. -/
theorem isUpper_of_isWordCharacter
    {character : Char}
    (hWord : isWordCharacter character = true) :
    character.isUpper = false := by
  have hNine : '9'.toNat = 57 := rfl
  rw [Bool.eq_false_iff]
  intro hUpper
  unfold isWordCharacter at hWord
  rw [Bool.or_eq_true, isLower_iff_toNat,
    Char.isDigit_iff_toNat] at hWord
  rw [isUpper_iff_toNat] at hUpper
  omega

/- What follows in a word starts no other word. -/
theorem readWords_append
    {chars : List Char}
    (hChars :
      ∀ character ∈ chars,
        isWordCharacter character = true)
    (rest : List Char) :
    readWords (chars ++ rest) =
      (chars ++ (readWords rest).1, (readWords rest).2) := by
  induction chars with
  | nil => rfl
  | cons first chars ih =>
      rcases List.forall_mem_cons.mp hChars with
        ⟨hFirst, hOthers⟩
      rw [List.cons_append, readWords, ih hOthers]
      simp only [isUpper_of_isWordCharacter hFirst,
        Bool.false_eq_true, if_false, List.cons_append]

/- Capitalized words are read back. -/
theorem readWords_flatMap
    {words : List (List Char)}
    (hWords : ∀ word ∈ words, isWord word = true) :
    readWords (words.flatMap capitalize) = ([], words) := by
  induction words with
  | nil => rfl
  | cons word words ih =>
      rcases List.forall_mem_cons.mp hWords with
        ⟨hWord, hOthers⟩
      rw [List.flatMap_cons]
      cases word with
      | nil => contradiction
      | cons first rest =>
          simp only [isWord, Bool.and_eq_true] at hWord
          rcases exists_upper_of_isLower hWord.1 with
            ⟨capital, hUpper, hCapital, hLetter⟩
          have hRest :=
            readWords_append (List.all_eq_true.mp hWord.2)
              (words.flatMap capitalize)
          rw [ih hOthers, List.append_nil] at hRest
          rw [capitalize, hUpper, List.singleton_append,
            List.cons_append, readWords, hRest]
          simp only [hCapital, if_true, hLetter]

/- An identifier tells the words that a name spells. -/
theorem normalize_eq_iff
    {left right : String}
    {words others : List (List Char)}
    (hLeft : Spells words left)
    (hRight : Spells others right) :
    normalize left = normalize right ↔ words = others := by
  unfold normalize
  rw [String.ofList_inj, hLeft.pascalChars_eq,
    hRight.pascalChars_eq]
  constructor
  · intro hSame
    have hRead := congrArg readWords hSame
    rw [readWords_flatMap hLeft.splitOn_eq.2,
      readWords_flatMap hRight.splitOn_eq.2] at hRead
    exact congrArg Prod.snd hRead
  · intro hSame
    rw [hSame]

/- Names that share an identifier spell the same words. -/
theorem IsConventional.areSpellings_iff
    {left right : String}
    (hLeft : IsConventional left)
    (hRight : IsConventional right) :
    AreSpellings left right ↔
      normalize left = normalize right := by
  rcases hLeft with ⟨words, hWords⟩
  rcases hRight with ⟨others, hOthers⟩
  rw [normalize_eq_iff hWords hOthers]
  constructor
  · rintro ⟨shared, hShared, hSharedToo⟩
    exact (hWords.unique hShared).trans
      (hSharedToo.unique hOthers)
  · intro hSame
    exact ⟨words, hWords, hSame ▸ hOthers⟩

/- A digit has no capital, so it cannot start a word. -/
example :
    normalize "a-2" = normalize "a2" ∧
      IsConventional "a2" ∧
      ¬IsConventional "a-2" := by
  decide +kernel

end Aggregation
