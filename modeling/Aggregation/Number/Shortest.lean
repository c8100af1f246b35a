import Aggregation.Number.Fixed

/-
  The shortest decimal that reads back as a given number.

  Key definitions include:
    * `shortestDigits`
    * `DecimalFormat`
    * `DecimalFormat.text`
-/

------------------------------------------------------------
-- Decimal Grids
------------------------------------------------------------

namespace Aggregation

namespace Number

/- Test whether a quotient of units rounds to some units. -/
def readsBack
    (units numerator denominator : Nat) :
    Bool :=
  nearestUnits numerator denominator == units

/-
  Position of the leading digit of a quotient that is at
  least ten to the minus `start`.
-/
def leadingPlace
    (numerator denominator : Nat) :
    (remaining : Nat) → (start : Int) → Int
  | 0, place => place
  | remaining + 1, place =>
      let reached :=
        if 0 ≤ place then
          denominator * Nat.pow 10 place.toNat ≤ numerator
        else
          denominator ≤ numerator * Nat.pow 10 (-place).toNat
      if reached then
        place
      else
        leadingPlace numerator denominator remaining (place - 1)

/-
  Multiples of a power of ten next to a number of units, the
  nearer one first.  Each comes with its quotient of units.
-/
def gridNeighbours
    (units : Nat)
    (place : Int) :
    List (Nat × Nat × Nat) :=
  let numerator :=
    if 0 ≤ place then units
    else units * Nat.pow 10 (-place).toNat
  let denominator :=
    if 0 ≤ place then unitsPerOne * Nat.pow 10 place.toNat
    else unitsPerOne
  let spread := fun (digits : Nat) =>
    if 0 ≤ place then
      (digits, digits * unitsPerOne * Nat.pow 10 place.toNat, 1)
    else
      (digits, digits * unitsPerOne, Nat.pow 10 (-place).toNat)
  let near := roundDiv numerator denominator
  let floor := numerator / denominator
  if near = floor then
    [spread floor, spread (floor + 1)]
  else
    [spread (floor + 1), spread floor]

/-
  Digits and place of the last digit on the coarsest grid
  that holds a decimal reading back as the given units.
-/
def shortestOnGrid
    (units : Nat) :
    (remaining : Nat) → (place : Int) → Nat × Int
  | 0, place => (0, place)
  | remaining + 1, place =>
      match (gridNeighbours units place).find? fun
          (_, numerator, denominator) =>
            readsBack units numerator denominator with
      | some (digits, _, _) => (digits, place)
      | none => shortestOnGrid units remaining (place - 1)

/-
  Digits of the shortest decimal of a positive number of
  units, with the place of the last digit.  Seventeen digits
  always suffice.
-/
def shortestDigits (units : Nat) : Nat × Int :=
  let place := leadingPlace units unitsPerOne 700 330
  shortestOnGrid units 18 place

------------------------------------------------------------
-- Formats
------------------------------------------------------------

/- Choices that a decimal text leaves open. -/
structure DecimalFormat where
  leastPositional : Int
  mostPositional : Int
  exponentWidth : Nat

/- Digits without the zeros at their end. -/
def dropZeros : (digits : List Char) → List Char :=
  fun digits =>
    (digits.reverse.dropWhile (· == '0')).reverse

/- Decimal text of digits whose first has a given place. -/
def DecimalFormat.positive
    (format : DecimalFormat)
    (digits : List Char)
    (place : Int) :
    List Char :=
  if format.leastPositional ≤ place ∧
      place < format.mostPositional then
    if place < 0 then
      '0' :: '.' ::
        List.replicate (-place - 1).toNat '0' ++ digits
    else
      let whole := place.toNat + 1
      let zeros := List.replicate (whole - digits.length) '0'
      let fraction := digits.drop whole
      digits.take whole ++ zeros ++ '.' ::
        (if fraction.isEmpty then ['0'] else fraction)
  else
    let fraction := digits.drop 1
    digits.take 1 ++
      (if fraction.isEmpty then [] else '.' :: fraction) ++
      'e' :: (if place < 0 then '-' else '+') ::
      (padDigits format.exponentWidth place.natAbs).toList

/- Shortest text of a number. -/
def DecimalFormat.text
    (format : DecimalFormat) :
    Double → String
  | .finite negative units _ =>
      let sign := if negative then "-" else ""
      if units = 0 then
        sign ++ "0.0"
      else
        let (digits, lastPlace) := shortestDigits units
        let written := (toString digits).toList
        let place := lastPlace + written.length - 1
        sign ++ String.ofList
          (format.positive (dropZeros written) place)
  | .infinite negative => if negative then "-inf" else "inf"
  | .nan => "nan"

end Number

end Aggregation
