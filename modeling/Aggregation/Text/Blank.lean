/-
  Classes of blank characters.

  Key definitions include:
    * `isWhiteSpace`
    * `isBlank`
    * `trimEnd`
-/

------------------------------------------------------------
-- Classes
------------------------------------------------------------

namespace Aggregation

namespace Text

/- The Unicode property of white space. -/
def isWhiteSpace (character : Char) : Bool :=
  let code := character.toNat
  (0x09 ≤ code && code ≤ 0x0D) || code == 0x20 ||
    code == 0x85 || code == 0xA0 || code == 0x1680 ||
    (0x2000 ≤ code && code ≤ 0x200A) ||
    code == 0x2028 || code == 0x2029 || code == 0x202F ||
    code == 0x205F || code == 0x3000

/-
  Characters that separate words: white space and the four
  information separators.
-/
def isBlank (character : Char) : Bool :=
  isWhiteSpace character ||
    (0x1C ≤ character.toNat && character.toNat ≤ 0x1F)

------------------------------------------------------------
-- Trimming
------------------------------------------------------------

/- A text without the characters of one class at its end. -/
def trimEnd
    (isTrimmed : Char → Bool)
    (text : List Char) :
    List Char :=
  (text.reverse.dropWhile isTrimmed).reverse

/- A text without the characters of one class at its ends. -/
def trim
    (isTrimmed : Char → Bool)
    (text : List Char) :
    List Char :=
  trimEnd isTrimmed (text.dropWhile isTrimmed)

end Text

end Aggregation
