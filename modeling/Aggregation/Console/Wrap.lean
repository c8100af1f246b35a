import Aggregation.Console.Cells
import Aggregation.Text.Blank
import Aggregation.Text.Split

/-
  Texts broken into lines of a given width.

  Words go on a line as long as they fit.  A word carries
  the spaces behind it, and those may stand past the end of
  a line.  A word that is too long for any line is folded,
  or it is cut short with an ellipsis.

  Key definitions include:
    * `wordsOf`
    * `chop`
    * `fillLines`
    * `Layout`
    * `Layout.lines`
-/

------------------------------------------------------------
-- Words
------------------------------------------------------------

namespace Aggregation

namespace Console

/- Runs of a line that end where blanks end. -/
def runsOf : Line → List Line
  | [] => []
  | character :: rest =>
      match runsOf rest with
      | [] => [[character]]
      | run :: others =>
          let endsHere :=
            Text.isBlank character &&
              !(run.head?.any Text.isBlank)
          if endsHere then
            [character] :: run :: others
          else
            (character :: run) :: others

/-
  The words of a line, each with the blanks behind it.  The
  first one also has the blanks in front of it.
-/
def wordsOf (line : Line) : List Line :=
  match runsOf line with
  | [] => []
  | first :: others =>
      if first.all Text.isBlank then
        match others with
        | [] => []
        | second :: rest => (first ++ second) :: rest
      else
        first :: others

------------------------------------------------------------
-- Lines
------------------------------------------------------------

/- A word cut into pieces, with the start of the first. -/
def chop (width : Nat) : (piece : Line) → Line → List Line
  | piece, [] => [piece]
  | piece, character :: rest =>
      if width < cells piece + cellWidth character then
        piece :: chop width [character] rest
      else
        chop width (piece ++ [character]) rest

/- Pieces of a word that starts a line. -/
def piecesOf
    (width : Nat)
    (folds : Bool)
    (word : Line) :
    List Line :=
  if folds && width < cells (Text.trimEnd Text.isBlank word)
  then
    chop width [] word
  else
    [word]

/- Lines of words, with the line that has been started. -/
def fillLines (width : Nat) (folds : Bool) :
    (line : Line) → (words : List Line) → List Line
  | line, [] => [line]
  | line, word :: rest =>
      if cells line +
          cells (Text.trimEnd Text.isBlank word) ≤ width then
        fillLines width folds (line ++ word) rest
      else
        let pieces := piecesOf width folds word
        (if line.isEmpty then [] else [line]) ++
          pieces.dropLast ++
            fillLines width folds (pieces.getLastD []) rest

/- A line broken at the ends of words. -/
def breakLine
    (width : Nat)
    (folds : Bool)
    (line : Line) :
    List Line :=
  match wordsOf line with
  | [] => [line]
  | words => fillLines width folds [] words

/- A line without the blanks that reach past a width. -/
def trimPast (width : Nat) (line : Line) : Line :=
  let blanks :=
    (line.reverse.takeWhile Text.isBlank).length
  line.take
    (line.length - min blanks (line.length - width))

------------------------------------------------------------
-- Layouts
------------------------------------------------------------

/- What happens to a word that is too long. -/
inductive Overflow where
  | fold
  | ellipsis
  deriving DecidableEq, Repr

/- Where a line stands within its width. -/
inductive Alignment where
  | unset
  | left
  | middle
  deriving DecidableEq, Repr

/- How a text is set. -/
structure Layout where
  width : Nat
  wraps : Bool
  overflow : Overflow
  alignment : Alignment
  deriving DecidableEq, Repr

namespace Layout

/- A line cut to the width. -/
def cut (layout : Layout) (line : Line) : Line :=
  if cells line ≤ layout.width then
    line
  else
    match layout.overflow with
    | .fold => takeCells layout.width line
    | .ellipsis =>
        takeCells (layout.width - 1) line ++ ['…']

/- A line in its place within the width. -/
def align (layout : Layout) (line : Line) : Line :=
  match layout.alignment with
  | .unset => layout.cut line
  | .left => padEnd layout.width (layout.cut line)
  | .middle =>
      centre layout.width
        (layout.cut (Text.trimEnd Text.isBlank line))

/- Lines for a text without line feeds. -/
def linesOfOne (layout : Layout) (line : Line) : List Line :=
  let expanded := expandTabs 0 line
  let broken :=
    if layout.wraps then
      breakLine layout.width (layout.overflow = .fold)
        expanded
    else
      [expanded]
  broken.map fun part =>
    layout.align (trimPast layout.width part)

/- Lines of a text.  Without any width there are none. -/
def lines (layout : Layout) (text : List Char) : List Line :=
  if layout.width = 0 then
    []
  else
    (Text.splitOn (· == '\n') text).flatMap layout.linesOfOne

end Layout

/- Messages are wrapped and folded. -/
def Layout.message (width : Nat) : Layout :=
  ⟨width, true, .fold, .unset⟩

/- Titles are wrapped, folded and set in the middle. -/
def Layout.title (width : Nat) : Layout :=
  ⟨width, true, .fold, .middle⟩

end Console

end Aggregation
