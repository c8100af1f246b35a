import Aggregation.Text.Split

/-
  Paths of files and directories.

  A path is a list of names with an anchor.  Empty names and
  dots vanish when a path is read, and double dots stay.  The
  names are kept innermost first, so that the parent of a
  path is the tail of its names.

  Key definitions include:
    * `Path`
    * `Path.ofString`
    * `Path.text`
    * `Path.steps`
    * `Path.join`
-/

------------------------------------------------------------
-- Paths
------------------------------------------------------------

namespace Aggregation

/- Name of one entry of a directory. -/
abbrev Name := String

/- Where a path starts. -/
inductive Anchor where
  | relative
  | root
  | doubleRoot
  deriving DecidableEq, Repr

/- A path, its innermost name first. -/
structure Path where
  anchor : Anchor
  names : List Name
  deriving DecidableEq, Repr

namespace Path

------------------------------------------------------------
-- Reading
------------------------------------------------------------

/- Names of a slash-separated text, outermost first. -/
def segments (text : List Char) : List Name :=
  ((Text.splitOn (· == '/') text).map String.ofList).filter
    fun name => name != "" && name != "."

/-
  Anchor of a text.  Exactly two slashes are an anchor of
  their own.
-/
def anchorOf : List Char → Anchor
  | '/' :: '/' :: '/' :: _ => .root
  | '/' :: '/' :: _ => .doubleRoot
  | '/' :: _ => .root
  | _ => .relative

/- The path that a text names. -/
def ofString (text : String) : Path :=
  ⟨anchorOf text.toList, (segments text.toList).reverse⟩

------------------------------------------------------------
-- Printing
------------------------------------------------------------

/- Text of an anchor. -/
def anchorText : Anchor → String
  | .relative => ""
  | .root => "/"
  | .doubleRoot => "//"

/- The text of a path. -/
def text (path : Path) : String :=
  if path.anchor = .relative ∧ path.names = [] then
    "."
  else
    anchorText path.anchor ++
      Text.joinWith "/" path.names.reverse

/-
  The names that are looked up one after the other.  A path
  of no names at all looks up a dot, as its text does.
-/
def steps (path : Path) : List Name :=
  if path.anchor = .relative ∧ path.names = [] then
    ["."]
  else
    path.names.reverse

------------------------------------------------------------
-- Relatives
------------------------------------------------------------

/- Innermost name of a path, or an empty text. -/
def name (path : Path) : Name :=
  path.names.headD ""

/- The path without its innermost name. -/
def parent (path : Path) : Path :=
  ⟨path.anchor, path.names.tail⟩

/- The path of an entry of a directory. -/
def child (path : Path) (name : Name) : Path :=
  ⟨path.anchor, name :: path.names⟩

/-
  A path continued by a text.  A text with an anchor of its
  own replaces the path.
-/
def join (path : Path) (text : String) : Path :=
  let continued := ofString text
  match continued.anchor with
  | .relative =>
      ⟨path.anchor, continued.names ++ path.names⟩
  | _ => continued

------------------------------------------------------------
-- Limits
------------------------------------------------------------

/- Test for a null character in any name. -/
def hasNull (path : Path) : Bool :=
  path.names.any fun name => name.toList.contains '\x00'

/- Number of bytes of a path. -/
def byteSize (path : Path) : Nat :=
  path.text.utf8ByteSize

end Path

end Aggregation
