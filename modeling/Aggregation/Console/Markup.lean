import Aggregation.Console.Cells
import Aggregation.Console.StyleNames

/-
  Console markup.

  A tag stands between brackets and starts with a small
  letter, a hash, a slash or an at sign.  A backslash in
  front of a tag makes it plain text, and two backslashes in
  front of it stand for one.  Markup says how its text looks
  and does not change the text itself.

  Key definitions include:
    * `opensTag`
    * `escape`
    * `Chunk`
    * `chunks`
    * `MarkupError`
    * `plainText`
-/

------------------------------------------------------------
-- Tags
------------------------------------------------------------

namespace Aggregation

namespace Console

/- Test for a character that a tag can start with. -/
def startsTag (character : Char) : Bool :=
  ('a' ≤ character && character ≤ 'z') ||
    character == '#' || character == '/' ||
    character == '@'

/- Test for a closing bracket before any opening one. -/
def closesTag : List Char → Bool
  | [] => false
  | character :: rest =>
      if character == ']' then true
      else if character == '[' then false
      else closesTag rest

/- Test for the rest of a tag behind an opening bracket. -/
def opensTag : List Char → Bool
  | [] => false
  | character :: rest =>
      startsTag character && closesTag rest

------------------------------------------------------------
-- Escaping
------------------------------------------------------------

/- A line of backslashes. -/
def slashes (count : Nat) : List Char :=
  List.replicate count '\\'

/-
  Escape the tags of a text, given the number of backslashes
  just in front of it.
-/
def escapeFrom : (held : Nat) → List Char → List Char
  | held, [] => slashes held
  | held, character :: rest =>
      if character == '\\' then
        escapeFrom (held + 1) rest
      else if character == '[' && opensTag rest then
        slashes (2 * held + 1) ++ '[' :: escapeFrom 0 rest
      else
        slashes held ++ character :: escapeFrom 0 rest

/- Number of backslashes at the end of a text. -/
def slashesAtEnd (text : List Char) : Nat :=
  (text.reverse.takeWhile (· == '\\')).length

/-
  Markup that shows a text as it is.  A single backslash at
  the end is doubled, lest it escape what follows.
-/
def escape (text : List Char) : List Char :=
  let escaped := escapeFrom 0 text
  if slashesAtEnd escaped = 1 then
    escaped ++ ['\\']
  else
    escaped

------------------------------------------------------------
-- Reading
------------------------------------------------------------

/- A part of markup. -/
inductive Chunk where
  | text (characters : List Char)
  | tag (position : Nat) (content : List Char)
  deriving DecidableEq, Repr

/-
  Where a reader stands: outside of tags behind a number of
  backslashes, or inside a tag with the content so far.
-/
inductive Reader where
  | outside (held : Nat)
  | inside (start : Nat) (content : List Char)

/- Chunks of markup from a position on. -/
def chunksFrom :
    Reader → (position : Nat) → List Char → List Chunk
  | .outside held, _, [] => [.text (slashes held)]
  | .inside start content, _, [] => [.tag start content]
  | .inside start content, position, character :: rest =>
      if character == ']' then
        .tag start content ::
          chunksFrom (.outside 0) (position + 1) rest
      else
        chunksFrom (.inside start (content ++ [character]))
          (position + 1) rest
  | .outside held, position, character :: rest =>
      if character == '\\' then
        chunksFrom (.outside (held + 1)) (position + 1) rest
      else if character == '[' then
        if opensTag rest then
          if held % 2 = 0 then
            .text (slashes (held / 2)) ::
              chunksFrom (.inside position []) (position + 1)
                rest
          else
            .text (slashes (held / 2) ++ ['[']) ::
              chunksFrom (.outside 0) (position + 1) rest
        else
          .text (slashes (held - 1) ++ ['[']) ::
            chunksFrom (.outside 0) (position + 1) rest
      else
        .text (slashes held ++ [character]) ::
          chunksFrom (.outside 0) (position + 1) rest

/- Chunks of markup. -/
def chunks (markup : List Char) : List Chunk :=
  chunksFrom (.outside 0) 0 markup

------------------------------------------------------------
-- Rendering
------------------------------------------------------------

/- Reasons why markup cannot be shown. -/
inductive MarkupError where
  | unmatched (position : Nat) (content : List Char)
  | nothingToClose (position : Nat)
  deriving DecidableEq, Repr

/- Wording of a markup error. -/
def MarkupError.message : MarkupError → String
  | .unmatched position content =>
      "closing tag '[" ++ String.ofList content ++
        "]' at position " ++ toString position ++
        " doesn't match any open tag"
  | .nothingToClose position =>
      "closing tag '[/]' at position " ++
        toString position ++ " has nothing to close"

/- Name of a tag: its content without parameters. -/
def tagName (content : List Char) : List Char :=
  content.takeWhile (· != '=')

/- Close a tag among the open ones, the latest first. -/
def closeTag
    (openTags : List String)
    (position : Nat)
    (content : List Char) :
    Except MarkupError (List String) :=
  let name :=
    Text.trim Text.isBlank ((tagName content).drop 1)
  if name.isEmpty then
    match openTags with
    | [] => .error (.nothingToClose position)
    | _ :: others => .ok others
  else if openTags.contains (styleName name) then
    .ok (openTags.erase (styleName name))
  else
    .error (.unmatched position content)

/- Text of chunks, given the tags that are open. -/
def textOfChunks :
    (openTags : List String) → List Chunk →
      Except MarkupError (List Char)
  | _, [] => .ok []
  | openTags, .text characters :: rest =>
      match textOfChunks openTags rest with
      | .error error => .error error
      | .ok others => .ok (characters ++ others)
  | openTags, .tag position content :: rest =>
      if content.head? == some '/' then
        match closeTag openTags position content with
        | .error error => .error error
        | .ok others => textOfChunks others rest
      else
        textOfChunks
          (styleName (tagName content) :: openTags) rest

/- The text that markup shows. -/
def plainText (markup : List Char) :
    Except MarkupError (List Char) :=
  (textOfChunks [] (chunks markup)).map clean

end Console

end Aggregation
