import Aggregation.Console.Wrap

/-
  Texts that fit on a line.

  A line that is not longer than the width is not broken:
  its words go on one line, with the blanks between them.

  Key definitions include:
    * `IsPrintable`

  Key theorems include:
    * `flatten_wordsOf`
    * `fillLines_of_fits`
    * `breakLine_of_fits`
    * `Layout.lines_of_fits`
-/

------------------------------------------------------------
-- Cells
------------------------------------------------------------

namespace Aggregation

namespace Console

theorem cells_append (line others : Line) :
    cells (line ++ others) = cells line + cells others := by
  induction line with
  | nil => simp [cells]
  | cons character rest ih =>
      rw [List.cons_append, cells, cells, ih, Nat.add_assoc]

/- A line is not shorter than without its last blanks. -/
theorem cells_trimEnd_le
    (isTrimmed : Char → Bool)
    (line : Line) :
    cells (Text.trimEnd isTrimmed line) ≤ cells line := by
  have hParts :
      line =
        Text.trimEnd isTrimmed line ++
          (line.reverse.takeWhile isTrimmed).reverse := by
    unfold Text.trimEnd
    rw [← List.reverse_append, List.takeWhile_append_dropWhile,
      List.reverse_reverse]
  have hCells := congrArg cells hParts
  rw [cells_append] at hCells
  omega

------------------------------------------------------------
-- Words
------------------------------------------------------------

/- No character is lost between runs. -/
theorem flatten_runsOf (line : Line) :
    (runsOf line).flatten = line := by
  induction line with
  | nil => rfl
  | cons character rest ih =>
      unfold runsOf
      split
      · rename_i hRuns
        rw [hRuns] at ih
        rw [← ih]
        rfl
      · rename_i run others hRuns
        rw [hRuns] at ih
        simp only
        split <;> rw [← ih] <;> rfl

/- Only a line of blanks has no words. -/
theorem flatten_wordsOf
    {line : Line}
    (hWords : wordsOf line ≠ []) :
    (wordsOf line).flatten = line := by
  have hRuns := flatten_runsOf line
  unfold wordsOf at hWords ⊢
  split
  · rename_i hNone
    rw [hNone] at hRuns
    exact hRuns
  · rename_i first others hSome
    rw [hSome] at hRuns
    simp only [hSome] at hWords
    split
    · rename_i hBlank
      split
      · rw [if_pos hBlank] at hWords
        exact absurd rfl hWords
      · rw [← hRuns, List.flatten_cons, List.append_assoc]
        rfl
    · exact hRuns

------------------------------------------------------------
-- Lines
------------------------------------------------------------

/-
  Words that all fit go on the line that has been started.
  What counts for a word is its length without its blanks,
  which is even less.
-/
theorem fillLines_of_fits
    {width : Nat}
    (folds : Bool)
    {line : Line}
    {words : List Line}
    (hFits : cells (line ++ words.flatten) ≤ width) :
    fillLines width folds line words =
      [line ++ words.flatten] := by
  induction words generalizing line with
  | nil =>
      rw [fillLines, List.flatten_nil, List.append_nil]
  | cons word rest ih =>
      have hWord := cells_trimEnd_le Text.isBlank word
      rw [List.flatten_cons, ← List.append_assoc] at hFits ⊢
      have hStart := hFits
      rw [cells_append, cells_append] at hStart
      rw [fillLines, if_pos (by omega)]
      exact ih hFits

/- A line that fits is not broken. -/
theorem breakLine_of_fits
    {width : Nat}
    (folds : Bool)
    {line : Line}
    (hFits : cells line ≤ width) :
    breakLine width folds line = [line] := by
  unfold breakLine
  split
  · rfl
  · rename_i hWords
    have hLine := flatten_wordsOf hWords
    rw [fillLines_of_fits] <;> rw [List.nil_append, hLine]
    exact hFits

/- Blanks are cut off only past the width. -/
theorem trimPast_of_fits
    {width : Nat}
    {line : Line}
    (hFits : line.length ≤ width) :
    trimPast width line = line := by
  unfold trimPast
  rw [Nat.sub_eq_zero_of_le hFits]
  simp only [Nat.min_zero, Nat.sub_zero, List.take_length]

------------------------------------------------------------
-- Printable Characters
------------------------------------------------------------

/- A printable character of ASCII. -/
def IsPrintable (character : Char) : Prop :=
  32 ≤ character.toNat ∧ character.toNat ≤ 126

instance : DecidablePred IsPrintable :=
  fun character =>
    inferInstanceAs (Decidable
      (32 ≤ character.toNat ∧ character.toNat ≤ 126))

variable {line : Line}

/- A printable character fills one cell. -/
theorem cells_of_printable
    (hLine : ∀ character ∈ line, IsPrintable character) :
    cells line = line.length := by
  induction line with
  | nil => rfl
  | cons first rest ih =>
      rcases List.forall_mem_cons.mp hLine with
        ⟨⟨hLow, hHigh⟩, hRest⟩
      have hCell : cellWidth first = 1 := by
        unfold cellWidth
        simp only
        rw [if_pos (by omega), if_neg (by omega)]
      rw [cells, hCell, ih hRest, List.length_cons,
        Nat.add_comm]

/- There are no tabs to replace. -/
theorem expandTabs_of_printable
    (column : Nat)
    (hLine : ∀ character ∈ line, IsPrintable character) :
    expandTabs column line = line := by
  induction line generalizing column with
  | nil => rfl
  | cons character rest ih =>
      rcases List.forall_mem_cons.mp hLine with
        ⟨hFirst, hRest⟩
      have hTab : (character == '\t') = false := by
        apply beq_false_of_ne
        rintro rfl
        exact absurd hFirst (by decide)
      rw [expandTabs, if_neg (by simp [hTab]), ih _ hRest]

/- No character moves the cursor. -/
theorem clean_of_printable
    (hLine : ∀ character ∈ line, IsPrintable character) :
    clean line = line := by
  apply List.filter_eq_self.mpr
  intro character hCharacter
  rcases hLine character hCharacter with ⟨hLow, _⟩
  have hStays : character.toNat ∉ [7, 8, 11, 12, 13] := by
    simp only [List.mem_cons, List.not_mem_nil, or_false]
    omega
  simp only [movesCursor, List.contains_eq_mem, hStays,
    decide_false, Bool.not_false]

/- Printable characters that fit are one line. -/
theorem Layout.lines_of_fits
    {width : Nat}
    (hWidth : 0 < width)
    (hLine : ∀ character ∈ line, IsPrintable character)
    (hFits : line.length ≤ width) :
    (Layout.message width).lines line = [line] := by
  have hFeed :
      ∀ character ∈ line, (character == '\n') = false := by
    intro character hCharacter
    apply beq_false_of_ne
    rintro rfl
    exact absurd (hLine _ hCharacter) (by decide)
  have hCells : cells line ≤ width := by
    rw [cells_of_printable hLine]
    exact hFits
  have hOne :
      (Layout.message width).linesOfOne line = [line] := by
    unfold Layout.linesOfOne Layout.align Layout.cut
    simp only [Layout.message, if_true,
      expandTabs_of_printable 0 hLine,
      breakLine_of_fits _ hCells, List.map_cons,
      List.map_nil, trimPast_of_fits hFits, if_pos hCells]
  have hWide : (Layout.message width).width ≠ 0 :=
    Nat.ne_of_gt hWidth
  unfold Layout.lines
  rw [if_neg hWide,
    Text.splitOn_eq_singleton line hFeed,
    List.flatMap_singleton, hOne]

end Console

end Aggregation
