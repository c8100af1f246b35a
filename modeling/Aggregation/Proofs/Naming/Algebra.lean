import Aggregation.Proofs.Naming
import Aggregation.Proofs.Trail

/-
  The laws of identifiers.

  A separator only joins the identifiers of its two sides,
  whichever separator it is.  An identifier is its own
  identifier, since its first character has no other upper
  case, even where upper-casing makes several characters.

  Key theorems include:
    * `Text.splitOn_eq_cons`
    * `normalize_joined`
    * `normalize_normalize`
    * `normalize_laws`
-/

------------------------------------------------------------
-- Joined Names
------------------------------------------------------------

namespace Aggregation

/- The first segment is all, or a separator follows it. -/
theorem Text.splitOn_eq_cons {α : Type}
    {isSeparator : α → Bool}
    {items segment : List α}
    {segments : List (List α)}
    (hSplit :
      splitOn isSeparator items = segment :: segments) :
    segments = [] ∧ items = segment ∨
      ∃ separator rest,
        isSeparator separator = true ∧
          items = segment ++ separator :: rest ∧
          splitOn isSeparator rest = segments := by
  induction items generalizing segment with
  | nil =>
      injection hSplit with hSegment hSegments
      exact .inl ⟨hSegments.symm, hSegment⟩
  | cons item rest ih =>
      rw [splitOn] at hSplit
      by_cases hItem : isSeparator item = true
      · rw [if_pos hItem] at hSplit
        injection hSplit with hSegment hSegments
        rw [← hSegment]
        exact .inr ⟨item, rest, hItem, rfl, hSegments⟩
      · rw [if_neg hItem] at hSplit
        cases hRest : splitOn isSeparator rest with
        | nil =>
            exact absurd hRest
              (splitOn_ne_nil isSeparator rest)
        | cons first others =>
            rw [hRest] at hSplit
            injection hSplit with hSegment hSegments
            rw [hSegments] at hRest
            rw [← hSegment]
            rcases ih hRest with
              ⟨hNone, hAll⟩ | ⟨separator, after, hMore⟩
            · exact .inl ⟨hNone, congrArg _ hAll⟩
            · exact .inr ⟨separator, after, hMore.1,
                congrArg _ hMore.2.1, hMore.2.2⟩

/- Pascal case forgets the separator of two names. -/
theorem pascalChars_append
    {separator : Char}
    (hSeparator : isSeparator separator = true)
    (left right : List Char) :
    pascalChars (left ++ separator :: right) =
      pascalChars left ++ pascalChars right := by
  unfold pascalChars
  rw [Text.splitOn_append hSeparator, List.flatMap_append]

/- The identifier of joined names is that of the parts. -/
theorem normalize_joined
    {separator : Char}
    {mark : String}
    (hMark : mark.toList = [separator])
    (hSeparator : isSeparator separator = true)
    (left right : String) :
    normalize (left ++ mark ++ right) =
      normalize left ++ normalize right := by
  have hChars :
      (left ++ mark ++ right).toList =
        left.toList ++ separator :: right.toList := by
    simp [hMark]
  unfold normalize
  rw [hChars, pascalChars_append hSeparator,
    String.ofList_append]

------------------------------------------------------------
-- Identifiers of Identifiers
------------------------------------------------------------

/-
  Capitalized segments in a row start with a capital, so
  that capitalizing them again changes nothing.
-/
theorem capitalize_flatMap (segments : List (List Char)) :
    capitalize (segments.flatMap capitalize) =
      segments.flatMap capitalize := by
  induction segments with
  | nil => rfl
  | cons segment segments ih =>
      rw [List.flatMap_cons]
      cases segment with
      | nil => exact ih
      | cons character rest =>
          rcases Text.exists_upper character with
            ⟨first, others, hUpper, hFirst⟩
          simp only [capitalize, hUpper, List.cons_append,
            hFirst, List.nil_append]

/- An identifier is its own identifier. -/
theorem normalize_normalize (name : String) :
    normalize (normalize name) = normalize name := by
  have hSingle :
      Text.splitOn isSeparator (normalize name).toList =
        [(normalize name).toList] :=
    Text.splitOn_eq_singleton _
      fun _ hMem => isSeparator_of_mem_normalize hMem
  have hAgain :
      pascalChars (normalize name).toList =
        pascalChars name.toList := by
    unfold pascalChars
    rw [hSingle, List.flatMap_singleton]
    unfold normalize pascalChars
    rw [String.toList_ofList, capitalize_flatMap]
  exact congrArg String.ofList hAgain

------------------------------------------------------------
-- Laws
------------------------------------------------------------

/-
  Both separators join the identifiers of their sides and
  are in none, and identifiers are kept as they are.
-/
theorem normalize_laws (left right name : String) :
    normalize (left ++ "-" ++ right) =
        normalize left ++ normalize right ∧
      normalize (left ++ "_" ++ right) =
        normalize left ++ normalize right ∧
      '-' ∉ (normalize name).toList ∧
      '_' ∉ (normalize name).toList ∧
      normalize (normalize name) = normalize name := by
  have hDash : ("-" : String).toList = ['-'] := rfl
  have hLine : ("_" : String).toList = ['_'] := rfl
  exact
    ⟨normalize_joined hDash rfl left right,
      normalize_joined hLine rfl left right,
      separator_not_mem_normalize rfl name,
      separator_not_mem_normalize rfl name,
      normalize_normalize name⟩

/- A first character whose upper case is two characters. -/
example :
    normalize "\u00DF-\u0149" = "SS\u02BCN" ∧
      normalize "SS\u02BCN" = "SS\u02BCN" := by
  decide +kernel

end Aggregation
