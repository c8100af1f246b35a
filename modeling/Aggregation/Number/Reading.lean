import Aggregation.Number.Double
import Aggregation.Text.Blank

/-
  Numbers read from text.

  Key definitions include:
    * `readDecimal`
    * `readNumber`
-/

------------------------------------------------------------
-- Digits
------------------------------------------------------------

namespace Aggregation

namespace Number

/- Value of decimal digits in front of which others stand. -/
def digitsValue (start : Nat) (digits : List Char) : Nat :=
  digits.foldl
    (fun value digit => value * 10 + (digit.toNat - 48))
    start

/- The sign that opens a text, and the rest. -/
def readSign : List Char → Bool × List Char
  | '-' :: rest => (true, rest)
  | '+' :: rest => (false, rest)
  | text => (false, text)

/- The exponent that ends a decimal. -/
def readExponent : List Char → Option Int
  | [] => some 0
  | mark :: text =>
      if mark == 'e' || mark == 'E' then
        let (negative, digits) := readSign text
        if digits.isEmpty || !digits.all Char.isDigit then
          none
        else
          let value : Int := digitsValue 0 digits
          some (if negative then -value else value)
      else
        none

------------------------------------------------------------
-- Decimals
------------------------------------------------------------

/-
  An unsigned decimal: digits with at most one point among
  them, and an exponent if any.
-/
def readDecimal
    (negative : Bool)
    (text : List Char) :
    Option Double :=
  let whole := text.takeWhile Char.isDigit
  let rest := text.dropWhile Char.isDigit
  let (fraction, tail) :=
    match rest with
    | '.' :: more =>
        (more.takeWhile Char.isDigit,
          more.dropWhile Char.isDigit)
    | _ => ([], rest)
  if whole.isEmpty && fraction.isEmpty then
    none
  else
    (readExponent tail).map fun exponent =>
      Double.ofDecimal negative
        (digitsValue (digitsValue 0 whole) fraction)
        (exponent - fraction.length)

/- A signed decimal, or the name of an infinity or of nan. -/
def readSigned (text : List Char) : Option Double :=
  let (negative, rest) := readSign text
  let name := rest.map Char.toLower
  if name = "inf".toList || name = "infinity".toList then
    some (.infinite negative)
  else if name = "nan".toList then
    some .nan
  else
    readDecimal negative rest

/- Underscores are dropped when each stands between others. -/
def dropUnderscores (text : List Char) : Option (List Char) :=
  let doubled :=
    (text.zip text.tail).any fun (left, right) =>
      left == '_' && right == '_'
  if text.head? == some '_' || text.getLast? == some '_' ||
      !text.contains '_' || doubled then
    none
  else
    some (text.filter (· != '_'))

/-
  The number that a text names.  White space around it is
  ignored unless the text holds underscores.
-/
def readNumber (text : String) : Option Double :=
  match readSigned
      (Text.trim Text.isWhiteSpace text.toList) with
  | some value => some value
  | none =>
      (dropUnderscores text.toList).bind readSigned

end Number

end Aggregation
