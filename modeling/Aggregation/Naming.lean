import Aggregation.Text.Split
import Aggregation.Text.Uppercase

/-
  Identifiers made from the names of folders and files.

  A name in kebab or snake case becomes one word in which
  each segment starts with a capital letter.

  Key definitions include:
    * `isSeparator`
    * `capitalize`
    * `normalize`
-/

------------------------------------------------------------
-- Pascal Case
------------------------------------------------------------

namespace Aggregation

/- Test for a character that separates the words of a name. -/
def isSeparator (character : Char) : Bool :=
  character == '-' || character == '_'

/-
  A segment with its first character in upper case.  The
  rest of the segment stays as written.
-/
def capitalize : List Char → List Char
  | [] => []
  | character :: rest => Text.upper character ++ rest

/- Characters of the Pascal-case word of a name. -/
def pascalChars (name : List Char) : List Char :=
  (Text.splitOn isSeparator name).flatMap capitalize

/- The identifier of a component or element name. -/
def normalize (name : String) : String :=
  String.ofList (pascalChars name.toList)

end Aggregation
