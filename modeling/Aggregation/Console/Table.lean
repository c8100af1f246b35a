import Aggregation.Console.Wrap

/-
  Tables of items and their values under a title.

  The column of items gets the room that it needs, and the
  column of values gets what is left.  Items are cut short,
  and values are wrapped.

  Key definitions include:
    * `Table`
    * `Table.itemWidth`
    * `Table.valueWidth`
    * `Table.lines`
-/

------------------------------------------------------------
-- Tables
------------------------------------------------------------

namespace Aggregation

namespace Console

/- Rows of items and values, with a title if any. -/
structure Table where
  title : Option (List Char)
  rows : List (List Char × List Char)
  deriving DecidableEq, Repr

namespace Table

/- The heads of the columns. -/
def head : List Char × List Char :=
  ("Item".toList, "Value".toList)

------------------------------------------------------------
-- Widths
------------------------------------------------------------

/- Test for a character that ends a line. -/
def endsLine (character : Char) : Bool :=
  [0x0A, 0x1C, 0x1D, 0x1E, 0x85, 0x2028, 0x2029].contains
    character.toNat

/- Number of cells of the longest line of a text. -/
def textWidth (text : List Char) : Nat :=
  ((Text.splitOn endsLine text).map cells).foldl max 0

/-
  Width of a column with a space on each side, within the
  room that there is.
-/
def columnWidth
    (room : Nat)
    (texts : List (List Char)) :
    Nat :=
  min room ((texts.map textWidth).foldl max 0 + 2)

/- Room for both columns between three vertical edges. -/
def room (width : Nat) : Nat :=
  width - 3

/- Width of the column of items. -/
def itemWidth (table : Table) (width : Nat) : Nat :=
  columnWidth (room width)
    ((head :: table.rows).map (·.1))

/- Width of the column of values. -/
def valueWidth (table : Table) (width : Nat) : Nat :=
  min (room width - table.itemWidth width)
    (columnWidth (room width)
      ((head :: table.rows).map (·.2)))

------------------------------------------------------------
-- Cells
------------------------------------------------------------

/- Items stay on one line. -/
def itemLayout (width : Nat) : Layout :=
  ⟨width - 2, false, .ellipsis, .left⟩

/- Values are wrapped. -/
def valueLayout (width : Nat) : Layout :=
  ⟨width - 2, true, .ellipsis, .left⟩

/- Lines of a cell with a space on each side. -/
def cellLines (layout : Layout) (text : List Char) :
    List Line :=
  (layout.lines text).map fun line => ' ' :: line ++ [' ']

/- Lines of a row between edges of one kind. -/
def rowLines
    (bar : Char)
    (item value : Nat)
    (row : List Char × List Char) :
    List Line :=
  let items := cellLines (itemLayout item) row.1
  let values := cellLines (valueLayout value) row.2
  let height := max 1 (max items.length values.length)
  (List.range height).map fun index =>
    bar :: items.getD index (spaces item) ++
      bar :: values.getD index (spaces value) ++ [bar]

------------------------------------------------------------
-- Lines
------------------------------------------------------------

/- A horizontal edge of a table. -/
def edge
    (left bar middle right : Char)
    (item value : Nat) :
    Line :=
  left :: List.replicate item bar ++
    middle :: List.replicate value bar ++ [right]

/- The lines of a table on a console of some width. -/
def lines (table : Table) (width : Nat) : List Line :=
  let item := table.itemWidth width
  let value := table.valueWidth width
  let titleLines :=
    match table.title with
    | none => []
    | some title =>
        (Layout.title (item + value + 3)).lines title
  (titleLines ++
    edge '┏' '━' '┳' '┓' item value ::
      rowLines '┃' item value head ++
    edge '┡' '━' '╇' '┩' item value ::
      table.rows.flatMap (rowLines '│' item value) ++
    [edge '└' '─' '┴' '┘' item value]).map
      (takeCells width)

end Table

end Console

end Aggregation
