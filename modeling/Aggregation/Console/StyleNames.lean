import Aggregation.Console.Palette
import Aggregation.Text.Blank
import Aggregation.Text.Split

/-
  Names of styles in markup.

  Two names mean the same style if they list the same
  attributes and colours.  Each style has one normal name,
  and a text that names no style stands for itself.

  Key definitions include:
    * `StyleParts`
    * `StyleParts.read`
    * `StyleParts.text`
    * `styleName`
-/

------------------------------------------------------------
-- Attributes and Colours
------------------------------------------------------------

namespace Aggregation

namespace Console

/- Attributes in normal order. -/
def attributes : List String :=
  ["bold", "dim", "italic", "underline", "blink", "blink2",
    "reverse", "conceal", "strike", "underline2", "frame",
    "encircle", "overline"]

/- Short words for attributes. -/
def shortAttributes : List (String × String) :=
  [("b", "bold"), ("d", "dim"), ("i", "italic"),
    ("u", "underline"), ("r", "reverse"), ("c", "conceal"),
    ("s", "strike"), ("uu", "underline2"),
    ("o", "overline")]

/- The attribute of a word. -/
def attributeOf (word : String) : Option String :=
  if attributes.contains word then
    some word
  else
    shortAttributes.lookup word

/- A text with its capital letters in lower case. -/
def lowered (text : String) : String :=
  String.ofList (text.toList.map Char.toLower)

/- The text between a start and an end. -/
def between (start finish : List Char) (text : List Char) :
    Option (List Char) :=
  if start.isPrefixOf text &&
      finish.isSuffixOf (text.drop start.length) then
    some ((text.drop start.length).take
      (text.length - start.length - finish.length))
  else
    none

/- Value of a text of decimal digits. -/
def levelOf (digits : List Char) : Option Nat :=
  if !digits.isEmpty && digits.all Char.isDigit then
    (String.ofList digits).toNat?
  else
    none

/- Test for the level of a colour. -/
def isLevel (digits : List Char) : Bool :=
  (levelOf digits).any (· ≤ 255)

/- Test for a digit of a lower-case hexadecimal number. -/
def isHexDigit (character : Char) : Bool :=
  character.isDigit ||
    ('a' ≤ character && character ≤ 'f')

/- Test for a word that means a colour. -/
def isColour (word : String) : Bool :=
  let text := word.toList
  paletteNames.contains word ||
    (match text with
      | '#' :: digits =>
          digits.length == 6 && digits.all isHexDigit
      | _ => false) ||
    (between "color(".toList ")".toList text).any
      (fun digits => digits.length ≤ 3 && isLevel digits) ||
    (between "rgb(".toList ")".toList text).any
      (fun levels =>
        let parts := Text.splitOn (· == ',') levels
        parts.length == 3 && parts.all isLevel)

------------------------------------------------------------
-- Styles
------------------------------------------------------------

/- The parts of a style. -/
structure StyleParts where
  attributes : List (String × Bool) := []
  colour : Option String := none
  background : Option String := none
  link : Option String := none

namespace StyleParts

/- Add an attribute or a colour to a style. -/
def addWord (parts : StyleParts) (word : String) :
    Option StyleParts :=
  match attributeOf (lowered word) with
  | some name =>
      some
        { parts with
          attributes := (name, true) :: parts.attributes }
  | none =>
      if isColour (lowered word) then
        some { parts with colour := some (lowered word) }
      else
        none

/- Add a background, a missing attribute or a link. -/
def addPair (parts : StyleParts) (word next : String) :
    Option StyleParts :=
  if lowered word = "on" then
    if isColour (lowered next) then
      some { parts with background := some (lowered next) }
    else
      none
  else if lowered word = "not" then
    (attributeOf next).map fun name =>
      { parts with
        attributes := (name, false) :: parts.attributes }
  else
    some { parts with link := some next }

/- Test for a word that says something about the next. -/
def takesNext (word : String) : Bool :=
  ["on", "not", "link"].contains (lowered word)

/- Add what some words say to a style. -/
def read (parts : StyleParts) :
    List String → Option StyleParts
  | [] => some parts
  | [word] => parts.addWord word
  | word :: next :: rest =>
      if takesNext word then
        match parts.addPair word next with
        | none => none
        | some more => more.read rest
      else
        match parts.addWord word with
        | none => none
        | some more => more.read (next :: rest)

/- Words of the attributes in normal order. -/
def attributeWords (parts : StyleParts) : List String :=
  Console.attributes.filterMap fun name =>
    (parts.attributes.lookup name).map fun isSet =>
      if isSet then name else "not " ++ name

/- The normal name of a style. -/
def text (parts : StyleParts) : String :=
  let words :=
    parts.attributeWords ++
      parts.colour.toList ++
      (parts.background.map ("on " ++ ·)).toList ++
      (parts.link.map ("link " ++ ·)).toList
  if words.isEmpty then "none"
  else Text.joinWith " " words

end StyleParts

/- Words of a text between blanks. -/
def blankSeparated (text : List Char) : List String :=
  ((Text.splitOn Text.isBlank text).filter
    fun word => !word.isEmpty).map String.ofList

/- The normal form of a name in markup. -/
def styleName (name : List Char) : String :=
  let trimmed := String.ofList (Text.trim Text.isBlank name)
  if trimmed = "none" then
    "none"
  else
    match ({} : StyleParts).read (blankSeparated name) with
    | some parts => parts.text
    | none => lowered trimmed

end Console

end Aggregation
