import Aggregation.Naming
import Aggregation.Proofs.Text.Uppercase

/-
  What identifiers are made of.

  A name is cut at its separators, and no other character
  has a separator in its upper case.  So no identifier holds
  a separator.

  Key definitions include:
    * `Text.CaseRun.avoids`
    * `Text.arisesAlone`

  Key theorems include:
    * `Text.splitOn_separated`
    * `Text.eq_of_mem_upper`
    * `isSeparator_of_mem_normalize`
    * `separator_not_mem_normalize`
    * `mem_of_mem_normalize`
-/

------------------------------------------------------------
-- Segments
------------------------------------------------------------

namespace Aggregation

namespace Text

/- No segment holds a separator. -/
theorem splitOn_separated {α : Type}
    (isSeparator : α → Bool)
    (items : List α) :
    ∀ segment ∈ splitOn isSeparator items,
      ∀ item ∈ segment, isSeparator item = false := by
  induction items with
  | nil => simp [splitOn]
  | cons first rest ih =>
      unfold splitOn
      split
      · exact List.forall_mem_cons.mpr
          ⟨List.forall_mem_nil _, ih⟩
      · rename_i hFirst
        have hPlain : isSeparator first = false := by
          simpa using hFirst
        split
        · refine List.forall_mem_singleton.mpr ?_
          exact List.forall_mem_singleton.mpr hPlain
        · rename_i segment segments hSegments
          rw [hSegments] at ih
          rcases List.forall_mem_cons.mp ih with
            ⟨hHead, hTail⟩
          exact List.forall_mem_cons.mpr
            ⟨List.forall_mem_cons.mpr ⟨hPlain, hHead⟩,
              hTail⟩

------------------------------------------------------------
-- Upper Case
------------------------------------------------------------

/- Test for a run that has a code point as no image. -/
def CaseRun.avoids (run : CaseRun) (code : Nat) : Bool :=
  run.last + run.offset < (code : Int) ||
    (code : Int) < run.first + run.offset

/- A run that avoids a code point does not map to it. -/
theorem CaseRun.image_ne
    {run : CaseRun}
    {code target : Nat}
    (hCovers : run.covers code = true)
    (hAvoids : run.avoids target = true)
    (hPositive : 0 < target) :
    run.image code ≠ target := by
  simp only [covers, Bool.and_eq_true,
    decide_eq_true_eq] at hCovers
  simp only [avoids, Bool.or_eq_true,
    decide_eq_true_eq] at hAvoids
  unfold image
  omega

/- Test for a code point that no other one maps to. -/
def arisesAlone (code : Nat) : Bool :=
  0 < code && upperRuns.all (fun run => run.avoids code) &&
    upperExpansions.all fun entry => !entry.2.contains code

/- Such a code point is in no upper case but its own. -/
theorem eq_of_mem_upperCodes
    {code image : Nat}
    (hAlone : arisesAlone image = true)
    (hImage : image ∈ upperCodes code) :
    image = code := by
  simp only [arisesAlone, Bool.and_eq_true,
    decide_eq_true_eq, List.all_eq_true, Bool.not_eq_true',
    List.contains_eq_mem, decide_eq_false_iff_not]
    at hAlone
  rcases hAlone with ⟨⟨hPositive, hRuns⟩, hExpansions⟩
  unfold upperCodes at hImage
  split at hImage
  · rename_i codes hLookup
    rcases List.lookup_eq_some_iff.mp hLookup with
      ⟨before, after, hTable, _⟩
    have hEntry : (code, codes) ∈ upperExpansions := by
      rw [hTable]
      exact List.mem_append_cons_self
    exact absurd hImage (hExpansions _ hEntry)
  · split at hImage
    · rename_i run hFound
      have hCovers := List.find?_some hFound
      have hAvoids :=
        hRuns run (List.mem_of_find?_eq_some hFound)
      exact absurd (List.mem_singleton.mp hImage).symm
        (CaseRun.image_ne hCovers hAvoids hPositive)
    · exact List.mem_singleton.mp hImage

theorem eq_of_mem_upper
    {character image : Char}
    (hAlone : arisesAlone image.toNat = true)
    (hImage : image ∈ upper character) :
    image = character := by
  rcases List.mem_map.mp hImage with ⟨code, hCode, rfl⟩
  rcases toNat_ofNat_eq_or code with hValid | hNull
  · rw [hValid] at hAlone
    rw [eq_of_mem_upperCodes hAlone hCode,
      Char.ofNat_toNat]
  · rw [hNull] at hAlone
    exact absurd hAlone (by decide)

end Text

/- Separators are in no upper case of other characters. -/
theorem separator_arisesAlone :
    Text.arisesAlone '-'.toNat = true ∧
      Text.arisesAlone '_'.toNat = true := by
  decide +kernel

theorem isSeparator_of_mem_upper
    {character image : Char}
    (hPlain : isSeparator character = false)
    (hImage : image ∈ Text.upper character) :
    isSeparator image = false := by
  rw [Bool.eq_false_iff]
  intro hSeparator
  have hMark : image = '-' ∨ image = '_' := by
    simpa [isSeparator] using hSeparator
  have hAlone : Text.arisesAlone image.toNat = true := by
    rcases hMark with rfl | rfl
    · exact separator_arisesAlone.1
    · exact separator_arisesAlone.2
  rw [Text.eq_of_mem_upper hAlone hImage, hPlain]
    at hSeparator
  contradiction

------------------------------------------------------------
-- Identifiers
------------------------------------------------------------

theorem isSeparator_of_mem_capitalize
    {segment : List Char}
    (hPlain :
      ∀ character ∈ segment, isSeparator character = false)
    {character : Char}
    (hCharacter : character ∈ capitalize segment) :
    isSeparator character = false := by
  cases segment with
  | nil => exact absurd hCharacter List.not_mem_nil
  | cons first rest =>
      rcases List.forall_mem_cons.mp hPlain with
        ⟨hFirst, hRest⟩
      rcases List.mem_append.mp hCharacter with
        hUpper | hKept
      · exact isSeparator_of_mem_upper hFirst hUpper
      · exact hRest character hKept

/- No identifier holds a separator. -/
theorem isSeparator_of_mem_normalize
    {name : String}
    {character : Char}
    (hCharacter : character ∈ (normalize name).toList) :
    isSeparator character = false := by
  unfold normalize at hCharacter
  rw [String.toList_ofList] at hCharacter
  rcases List.mem_flatMap.mp hCharacter with
    ⟨segment, hSegment, hHere⟩
  exact isSeparator_of_mem_capitalize
    (Text.splitOn_separated isSeparator name.toList segment
      hSegment)
    hHere

/- A separator is no character of any identifier. -/
theorem separator_not_mem_normalize
    {separator : Char}
    (hSeparator : isSeparator separator = true)
    (name : String) :
    separator ∉ (normalize name).toList := by
  intro hMem
  have hPlain := isSeparator_of_mem_normalize hMem
  exact Bool.false_ne_true (hPlain.symm.trans hSeparator)

theorem underscore_not_mem_normalize (name : String) :
    '_' ∉ (normalize name).toList :=
  separator_not_mem_normalize rfl name

/- A mark that arises alone comes from the name itself. -/
theorem mem_of_mem_normalize
    {mark : Char}
    (hAlone : Text.arisesAlone mark.toNat = true)
    {name : String}
    (hMark : mark ∈ (normalize name).toList) :
    mark ∈ name.toList := by
  unfold normalize at hMark
  rw [String.toList_ofList] at hMark
  rcases List.mem_flatMap.mp hMark with
    ⟨segment, hSegment, hHere⟩
  apply Text.mem_of_mem_splitOn hSegment
  cases segment with
  | nil => exact absurd hHere List.not_mem_nil
  | cons first rest =>
      rcases List.mem_append.mp hHere with hUpper | hKept
      · rw [Text.eq_of_mem_upper hAlone hUpper]
        exact List.mem_cons_self
      · exact List.mem_cons_of_mem first hKept

end Aggregation
