import Aggregation.Console.WidthTable

/-
  Texts measured in the cells of a console.

  A character fills one cell, or none if it is a control
  character or combines with another.

  Key definitions include:
    * `cellWidth`
    * `cells`
    * `takeCells`
    * `expandTabs`
    * `padEnd`
    * `centre`
-/

------------------------------------------------------------
-- Widths
------------------------------------------------------------

namespace Aggregation

namespace Console

/- Characters of one line. -/
abbrev Line := List Char

/- Number of cells that a character fills. -/
def cellWidth (character : Char) : Nat :=
  let code := character.toNat
  if code < 127 then
    if code < 32 then 0 else 1
  else if code < 160 then
    0
  else if zeroWidthRanges.any fun (first, last) =>
      first ≤ code && code ≤ last then
    0
  else
    1

/- Number of cells that a line fills. -/
def cells : Line → Nat
  | [] => 0
  | character :: rest => cellWidth character + cells rest

/- The longest start of a line within some cells. -/
def takeCells : (width : Nat) → Line → Line
  | _, [] => []
  | width, character :: rest =>
      if cellWidth character ≤ width then
        character ::
          takeCells (width - cellWidth character) rest
      else
        []

------------------------------------------------------------
-- Spaces
------------------------------------------------------------

/- A line of spaces. -/
def spaces (count : Nat) : Line :=
  List.replicate count ' '

/- A line with its tabs replaced, from a column on. -/
def expandTabs : (column : Nat) → Line → Line
  | _, [] => []
  | column, character :: rest =>
      if character == '\t' then
        spaces (8 - column % 8) ++
          expandTabs (column + (8 - column % 8)) rest
      else
        character ::
          expandTabs (column + cellWidth character) rest

/- A line with spaces at its end up to a width. -/
def padEnd (width : Nat) (line : Line) : Line :=
  line ++ spaces (width - cells line)

/-
  A line in the middle of a width.  An odd cell goes to the
  end.
-/
def centre (width : Nat) (line : Line) : Line :=
  padEnd width (spaces ((width - cells line) / 2) ++ line)

------------------------------------------------------------
-- Control Characters
------------------------------------------------------------

/-
  Test for a character that would move the cursor: the bell,
  a backspace, a vertical tab, a form feed or a carriage
  return.
-/
def movesCursor (character : Char) : Bool :=
  [7, 8, 11, 12, 13].contains character.toNat

/- A line without characters that would move the cursor. -/
def clean (line : Line) : Line :=
  line.filter fun character => !movesCursor character

end Console

end Aggregation
