import Aggregation.Failure
import Aggregation.Template.Shipped
import Aggregation.Text.Blank

/-
  Templates found in a directory.

  Such a template is a text in which a name between double
  braces stands for the value of a variable.

  Key definitions include:
    * `Template.ofText`
    * `Template.renderFile`
-/

------------------------------------------------------------
-- Texts
------------------------------------------------------------

namespace Aggregation

namespace Template

/- A text in which every line ends with a line feed only. -/
def unifyLines : List Char → List Char
  | [] => []
  | '\r' :: '\n' :: rest => '\n' :: unifyLines rest
  | '\r' :: rest => '\n' :: unifyLines rest
  | character :: rest => character :: unifyLines rest

/- Test for a character of a variable's name. -/
def isNameChar (character : Char) : Bool :=
  character.isAlphanum || character == '_' ||
    127 < character.toNat

/- A name up to the closing braces, and what follows. -/
def closeVariable (text : List Char) :
    Option (String × List Char) :=
  let start := text.dropWhile Text.isBlank
  let name := start.takeWhile isNameChar
  let rest :=
    (start.dropWhile isNameChar).dropWhile Text.isBlank
  match rest with
  | '}' :: '}' :: others =>
      if name.isEmpty then none
      else some (String.ofList name, others)
  | _ => none

/- Sections of a text, with the fixed text read so far. -/
def sectionsOf :
    (remaining : Nat) → (held : List Char) → List Char →
      List Section
  | 0, held, text =>
      [fixed (String.ofList (held.reverse ++ text))]
  | _ + 1, held, [] => [fixed (String.ofList held.reverse)]
  | remaining + 1, held, character :: rest =>
      match character, rest with
      | '{', '{' :: others =>
          match closeVariable others with
          | some (name, after) =>
              fixed (String.ofList held.reverse) ::
                shows name ::
                  sectionsOf remaining [] after
          | none =>
              sectionsOf remaining (character :: held) rest
      | _, _ => sectionsOf remaining (character :: held) rest

/- The template that a text stands for. -/
def ofText (text : String) : Template :=
  let unified := unifyLines text.toList
  sectionsOf unified.length [] unified

------------------------------------------------------------
-- Files
------------------------------------------------------------

open Disk

/- Render a template found in a directory. -/
def renderFile
    (tree : FileTree)
    (viewer : Viewer)
    (directory : Path)
    (name : String)
    (context : Fields) :
    Except Failure String :=
  match pieces name with
  | none => .error (.rendering (.missingTemplate name))
  | some names =>
      let path := names.foldl Path.child directory
      match tree.isFile? viewer path with
      | .ok true =>
          match tree.read viewer path with
          | .error fault => .error (.system path fault)
          | .ok bytes =>
              match String.fromUTF8? bytes with
              | none => .error (.rendering .notText)
              | some text =>
                  ((ofText text).render context).mapError
                    .rendering
      | _ => .error (.rendering (.missingTemplate name))

end Template

end Aggregation
