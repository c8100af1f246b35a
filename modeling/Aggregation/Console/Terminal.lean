import Aggregation.Console.Markup
import Aggregation.Console.Panel
import Aggregation.Console.Table
import Aggregation.Run.Event

/-
  Notices printed on a terminal.

  Messages are escaped, so that they show as they are.  The
  entries of a summary and all titles are markup.

  Key definitions include:
    * `Terminal`
    * `Terminal.print`
    * `Terminal.transcript`
-/

------------------------------------------------------------
-- Terminals
------------------------------------------------------------

namespace Aggregation

namespace Console

/- Where notices are printed. -/
structure Terminal where
  width : Nat := 80
  coloured : Bool := false
  deriving DecidableEq, Repr

/- Text of lines that all end in a line feed. -/
def textOfLines (lines : List Line) : String :=
  String.ofList (lines.flatMap fun line => line ++ ['\n'])

------------------------------------------------------------
-- Messages
------------------------------------------------------------

/- Manners in which a message is set off. -/
inductive Manner where
  | success
  | warning
  | error
  deriving DecidableEq, Repr

/- Name of the style of a manner. -/
def Manner.style : Manner → String
  | .success => "bold green"
  | .warning => "bold yellow"
  | .error => "bold red"

/- Number of the colour of a manner. -/
def Manner.colour : Manner → Nat
  | .success => 32
  | .warning => 33
  | .error => 31

/- A line in the style of a manner. -/
def Manner.paint (manner : Manner) (line : Line) : Line :=
  if line.isEmpty then
    line
  else
    ("\x1b[1;" ++ toString manner.colour ++ "m").toList ++
      line ++ "\x1b[0m".toList

/- Markup of a message in a manner. -/
def Manner.markup (manner : Manner) (message : String) :
    List Char :=
  ("[" ++ manner.style ++ "]").toList ++
    escape message.toList ++
      ("[/" ++ manner.style ++ "]").toList

namespace Terminal

/- Print markup, each line painted. -/
def printMarkup
    (terminal : Terminal)
    (paint : Line → Line)
    (markup : List Char) :
    Except MarkupError String :=
  match plainText markup with
  | .error error => .error error
  | .ok text =>
      .ok (textOfLines
        (((Layout.message terminal.width).lines text).map
          paint))

/- Print a message without style. -/
def printPlain (terminal : Terminal) (message : String) :
    Except MarkupError String :=
  terminal.printMarkup id (escape message.toList)

/- Print a message in a manner. -/
def printStyled
    (terminal : Terminal)
    (manner : Manner)
    (message : String) :
    Except MarkupError String :=
  terminal.printMarkup
    (if terminal.coloured then manner.paint else id)
    (manner.markup message)

------------------------------------------------------------
-- Banners
------------------------------------------------------------

/- Markup of the title of a banner. -/
def bannerTitle (title : String) : List Char :=
  ("[bold]" ++ title ++ "[/bold]").toList

/- Print a banner over the whole width. -/
def printBanner
    (terminal : Terminal)
    (body title : String) :
    Except MarkupError String :=
  match plainText (bannerTitle title),
      plainText (escape body.toList) with
  | .error error, _ => .error error
  | _, .error error => .error error
  | .ok title, .ok body =>
      .ok (textOfLines
        ((⟨title, body⟩ : Panel).lines terminal.width))

------------------------------------------------------------
-- Summaries
------------------------------------------------------------

/- Texts of several pieces of markup. -/
def plainTexts :
    List String → Except MarkupError (List (List Char))
  | [] => .ok []
  | markup :: rest =>
      match plainText markup.toList with
      | .error error => .error error
      | .ok text => (plainTexts rest).map (text :: ·)

/-
  Rows of a summary.  All items are read before any value,
  and a table without room for cells reads none.
-/
def summaryRows
    (terminal : Terminal)
    (entries : List (String × String)) :
    Except MarkupError (List (List Char × List Char)) :=
  if Table.room terminal.width ≤ 2 then
    .ok (entries.map fun _ => ([], []))
  else
    match plainTexts (entries.map (·.1)),
        plainTexts (entries.map (·.2)) with
    | .error error, _ => .error error
    | _, .error error => .error error
    | .ok items, .ok values => .ok (items.zip values)

/- Title of a summary.  An empty one is left out. -/
def summaryTitle (title : String) :
    Except MarkupError (Option (List Char)) :=
  if title.isEmpty then
    .ok none
  else
    (plainText title.toList).map some

/- Print a summary. -/
def printSummary
    (terminal : Terminal)
    (entries : List (String × String))
    (title : String) :
    Except MarkupError String :=
  match terminal.summaryRows entries, summaryTitle title with
  | .error error, _ => .error error
  | _, .error error => .error error
  | .ok rows, .ok title =>
      .ok (textOfLines
        ((⟨title, rows⟩ : Table).lines terminal.width))

------------------------------------------------------------
-- Notices
------------------------------------------------------------

/- Print a notice.  Without any width nothing is printed. -/
def print (terminal : Terminal) (notice : Notice) :
    Except MarkupError String :=
  if terminal.width = 0 then
    .ok ""
  else
    match notice with
    | .info text => terminal.printPlain text
    | .success text => terminal.printStyled .success text
    | .warning text => terminal.printStyled .warning text
    | .error text => terminal.printStyled .error text
    | .banner body title => terminal.printBanner body title
    | .summary entries title =>
        terminal.printSummary entries title

/- Print notices up to the first that cannot be shown. -/
def transcript (terminal : Terminal) :
    List Notice → String
  | [] => ""
  | notice :: rest =>
      match terminal.print notice with
      | .error _ => ""
      | .ok text => text ++ terminal.transcript rest

end Terminal

end Console

end Aggregation
