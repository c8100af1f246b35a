/-
  Cutting a list at separators.

  Key definitions include:
    * `splitOn`
    * `joinWith`
-/

------------------------------------------------------------
-- Segments
------------------------------------------------------------

namespace Aggregation

namespace Text

/-
  Segments of a list between separators.  Two neighbouring
  separators enclose an empty segment, and a list without a
  separator is its own single segment.
-/
def splitOn {α : Type}
    (isSeparator : α → Bool) :
    List α → List (List α)
  | [] => [[]]
  | item :: rest =>
      if isSeparator item then
        [] :: splitOn isSeparator rest
      else
        match splitOn isSeparator rest with
        | [] => [[item]]
        | segment :: segments =>
            (item :: segment) :: segments

/- A list always has at least one segment. -/
theorem splitOn_ne_nil {α : Type}
    (isSeparator : α → Bool)
    (items : List α) :
    splitOn isSeparator items ≠ [] := by
  cases items with
  | nil => simp [splitOn]
  | cons item rest =>
      unfold splitOn
      split
      · simp
      · split <;> simp

/- Segments are made of what was cut into them. -/
theorem mem_of_mem_splitOn {α : Type}
    {isSeparator : α → Bool}
    {items segment : List α}
    {item : α}
    (hSegment : segment ∈ splitOn isSeparator items)
    (hItem : item ∈ segment) :
    item ∈ items := by
  induction items generalizing segment with
  | nil =>
      rw [List.mem_singleton.mp hSegment] at hItem
      exact absurd hItem List.not_mem_nil
  | cons first rest ih =>
      unfold splitOn at hSegment
      split at hSegment
      · rcases List.mem_cons.mp hSegment with hHere | hLater
        · rw [hHere] at hItem
          exact absurd hItem List.not_mem_nil
        · exact List.mem_cons_of_mem first (ih hLater hItem)
      · split at hSegment
        · rename_i hNone
          exact absurd hNone
            (splitOn_ne_nil isSeparator rest)
        · rename_i segments hSplit
          rw [hSplit] at ih
          rcases List.mem_cons.mp hSegment with
            hHere | hLater
          · rw [hHere] at hItem
            rcases List.mem_cons.mp hItem with hFirst | hRest
            · exact hFirst ▸ List.mem_cons_self
            · exact List.mem_cons_of_mem first
                (ih List.mem_cons_self hRest)
          · exact List.mem_cons_of_mem first
              (ih (List.mem_cons_of_mem _ hLater) hItem)

/- A list without separators is a single segment. -/
theorem splitOn_eq_singleton {α : Type}
    {isSeparator : α → Bool}
    (items : List α)
    (hNone : ∀ item ∈ items, isSeparator item = false) :
    splitOn isSeparator items = [items] := by
  induction items with
  | nil => rfl
  | cons item rest ih =>
      have hRest : splitOn isSeparator rest = [rest] :=
        ih fun other hOther =>
          hNone other (List.mem_cons_of_mem item hOther)
      simp [splitOn, hRest, hNone item]

/- A separator parts the segments of its two sides. -/
theorem splitOn_append {α : Type}
    {isSeparator : α → Bool}
    {separator : α}
    (hSeparator : isSeparator separator = true)
    (left right : List α) :
    splitOn isSeparator (left ++ separator :: right) =
      splitOn isSeparator left ++
        splitOn isSeparator right := by
  induction left with
  | nil => simp [splitOn, hSeparator]
  | cons item rest ih =>
      rw [List.cons_append, splitOn, splitOn, ih]
      by_cases hItem : isSeparator item = true
      · simp only [hItem, if_true, List.cons_append]
      · simp only [hItem, Bool.false_eq_true, if_false]
        cases hRest : splitOn isSeparator rest with
        | nil =>
            exact absurd hRest
              (splitOn_ne_nil isSeparator rest)
        | cons segment segments => rfl

------------------------------------------------------------
-- Joining
------------------------------------------------------------

/- Texts in order with one separator between neighbours. -/
def joinWith (separator : String) : List String → String
  | [] => ""
  | [text] => text
  | text :: rest =>
      text ++ separator ++ joinWith separator rest

end Text

end Aggregation
