import Aggregation.Number.Rounding

/-
  Floating-point numbers of double precision.

  Every finite number is a whole number of units, one unit
  being the least positive number.  The units of a number
  have at most fifty-three significant bits.

  Key definitions include:
    * `Representable`
    * `Double`
    * `nearestUnits`
    * `Double.ofRatio`
    * `Double.ofDecimal`
-/

------------------------------------------------------------
-- Units
------------------------------------------------------------

namespace Aggregation

namespace Number

/- Number of units in one. -/
def unitsPerOne : Nat := Nat.pow 2 1074

/- Least number of units that is out of range. -/
def unitsBound : Nat := Nat.pow 2 2098

/- A whole number of units that a double can hold. -/
structure Representable (units : Nat) : Prop where
  significant :
    ∃ mantissa exponent,
      mantissa < Nat.pow 2 53 ∧
        units = mantissa * Nat.pow 2 exponent
  inRange : units < unitsBound

/- A number of double precision. -/
inductive Double where
  | finite
      (negative : Bool)
      (units : Nat)
      (representable : Representable units)
  | infinite (negative : Bool)
  | nan

------------------------------------------------------------
-- Rounding to Units
------------------------------------------------------------

/-
  Units nearest to a quotient of units.  The quotient is
  rounded at the place of its fifty-third significant bit,
  or at the last place of all if that is higher.
-/
def nearestUnits (numerator denominator : Nat) : Nat :=
  let exponent := Nat.log2 (numerator / denominator) - 52
  roundDiv numerator (denominator * Nat.pow 2 exponent) *
    Nat.pow 2 exponent

/- Rounding leaves at most fifty-three significant bits. -/
theorem nearestUnits_significant
    (numerator denominator : Nat) :
    ∃ mantissa exponent,
      mantissa < Nat.pow 2 53 ∧
        nearestUnits numerator denominator =
          mantissa * Nat.pow 2 exponent := by
  unfold nearestUnits
  generalize hExponent :
    Nat.log2 (numerator / denominator) - 52 = exponent
  have hBelow :
      numerator / (denominator * Nat.pow 2 exponent) <
        Nat.pow 2 53 := by
    simp only [Nat.pow_eq]
    rw [← Nat.div_div_eq_div_mul]
    apply Nat.div_lt_of_lt_mul
    rw [← Nat.pow_add]
    apply Nat.lt_of_lt_of_le Nat.lt_log2_self
    exact Nat.pow_le_pow_right (by decide) (by omega)
  have hRounded := roundDiv_le hBelow
  rcases Nat.lt_or_eq_of_le hRounded with hLess | hEqual
  · exact ⟨_, exponent, hLess, rfl⟩
  · refine ⟨Nat.pow 2 52, exponent + 1, by decide, ?_⟩
    show
      roundDiv numerator (denominator * Nat.pow 2 exponent) *
          Nat.pow 2 exponent =
        Nat.pow 2 52 * Nat.pow 2 (exponent + 1)
    rw [hEqual]
    simp only [Nat.pow_eq, Nat.pow_succ]
    omega

------------------------------------------------------------
-- Construction
------------------------------------------------------------

namespace Double

/- The number of a whole number of units, if in range. -/
def ofQuotient
    (negative : Bool)
    (numerator denominator : Nat) :
    Double :=
  if hRange :
      nearestUnits numerator denominator < unitsBound then
    .finite negative (nearestUnits numerator denominator)
      ⟨nearestUnits_significant numerator denominator, hRange⟩
  else
    .infinite negative

/- The number nearest to a quotient. -/
def ofRatio
    (negative : Bool)
    (numerator denominator : Nat) :
    Double :=
  ofQuotient negative (numerator * unitsPerOne) denominator

/- Zero with a sign. -/
def zero (negative : Bool) : Double :=
  ofQuotient negative 0 1

/- The number nearest to a whole number. -/
def ofInt (value : Int) : Double :=
  ofRatio (decide (value < 0)) value.natAbs 1

/-
  The number nearest to a decimal.  Exponents far outside
  the range decide the answer without any power of ten.
-/
def ofDecimal
    (negative : Bool)
    (digits : Nat)
    (exponent : Int) :
    Double :=
  if digits = 0 then
    zero negative
  else if 400 < exponent then
    .infinite negative
  else if exponent < -(400 + (Nat.log2 digits : Int)) then
    zero negative
  else if 0 ≤ exponent then
    ofRatio negative (digits * Nat.pow 10 exponent.toNat) 1
  else
    ofRatio negative digits (Nat.pow 10 (-exponent).toNat)

------------------------------------------------------------
-- Operations
------------------------------------------------------------

/- Test for a number below zero. -/
def isBelowZero : Double → Bool
  | .finite negative units _ => negative && units != 0
  | .infinite negative => negative
  | .nan => false

/- Test for a number below one. -/
def isBelowOne : Double → Bool
  | .finite negative units _ =>
      (negative && units != 0) || units < unitsPerOne
  | .infinite negative => negative
  | .nan => false

/- Product with a whole number, rounded to nearest. -/
def times (value : Double) (factor : Nat) : Double :=
  match value with
  | .finite negative units _ =>
      ofQuotient negative (units * factor) 1
  | other => other

/- Whole part of the magnitude of a finite number. -/
def wholePart : Double → Nat
  | .finite _ units _ => units / unitsPerOne
  | _ => 0

end Double

end Number

end Aggregation
