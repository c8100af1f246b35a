import Aggregation.Number.Double

/-
  Numbers written with a fixed number of decimal places.

  The exact value is rounded once, and a tie goes to the
  even last digit.

  Key definitions include:
    * `fixedText`
    * `Double.fixed`
-/

------------------------------------------------------------
-- Digits
------------------------------------------------------------

namespace Aggregation

namespace Number

/- Decimal digits of a number, zeros filling up to a width. -/
def padDigits (width value : Nat) : String :=
  let digits := toString value
  String.ofList (List.replicate (width - digits.length) '0') ++
    digits

/- A whole number of units with some decimal places. -/
def fixedText (places units : Nat) : String :=
  let scaled := roundDiv (units * Nat.pow 10 places) unitsPerOne
  toString (scaled / Nat.pow 10 places) ++ "." ++
    padDigits places (scaled % Nat.pow 10 places)

------------------------------------------------------------
-- Numbers
------------------------------------------------------------

/- A number with a fixed number of decimal places. -/
def Double.fixed (places : Nat) : Double → String
  | .finite negative units _ =>
      (if negative then "-" else "") ++ fixedText places units
  | .infinite negative => if negative then "-inf" else "inf"
  | .nan => "nan"

end Number

end Aggregation
