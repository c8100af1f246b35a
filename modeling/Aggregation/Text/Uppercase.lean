import Aggregation.Text.UppercaseTable

/-
  Full upper-casing of single characters.

  Key definitions include:
    * `upper`
-/

------------------------------------------------------------
-- Upper Case
------------------------------------------------------------

namespace Aggregation

namespace Text

/- Code points of the upper case of one code point. -/
def upperCodes (code : Nat) : List Nat :=
  match upperExpansions.lookup code with
  | some codes => codes
  | none =>
      match upperRuns.find? (fun run => run.covers code) with
      | some run => [run.image code]
      | none => [code]

/-
  Upper case of one character.  It may take several
  characters, and a character without an upper case is its
  own.
-/
def upper (character : Char) : List Char :=
  (upperCodes character.toNat).map Char.ofNat

end Text

end Aggregation
