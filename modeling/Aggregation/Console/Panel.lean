import Aggregation.Console.Wrap

/-
  Panels: texts in a frame with a title.

  A panel is as wide as the console.  Its title stands in
  the middle of the upper edge and is cut if it is too long.

  Key definitions include:
    * `Panel`
    * `Panel.lines`
-/

------------------------------------------------------------
-- Panels
------------------------------------------------------------

namespace Aggregation

namespace Console

/- A text in a frame with a title. -/
structure Panel where
  title : List Char
  body : List Char
  deriving DecidableEq, Repr

namespace Panel

/- A horizontal edge. -/
def edge (length : Nat) : Line :=
  List.replicate length '─'

/- The title as it stands in the upper edge. -/
def titleLine (panel : Panel) : Line :=
  let flat := panel.title.map fun character =>
    if character == '\n' then ' ' else character
  ' ' :: expandTabs 0 flat ++ [' ']

/- The upper edge.  A narrow panel has no title. -/
def top (panel : Panel) (width : Nat) : Line :=
  if width ≤ 4 then
    '╭' :: edge (width - 2) ++ ['╮']
  else
    let title := takeCells (width - 4) panel.titleLine
    let free := width - 4 - cells title
    '╭' :: edge (1 + free / 2) ++ title ++
      edge (free - free / 2 + 1) ++ ['╮']

/- The lines of the body between the side edges. -/
def middle (panel : Panel) (width : Nat) : List Line :=
  ((Layout.message (width - 4)).lines panel.body).map
    fun line =>
      '│' :: ' ' :: padEnd (width - 4) line ++ [' ', '│']

/- The lower edge. -/
def bottom (width : Nat) : Line :=
  '╰' :: edge (width - 2) ++ ['╯']

/- The lines of a panel on a console of some width. -/
def lines (panel : Panel) (width : Nat) : List Line :=
  (panel.top width ::
    panel.middle width ++
      [bottom width]).map (takeCells width)

end Panel

end Console

end Aggregation
