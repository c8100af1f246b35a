import Aggregation.Number.Double
import Mathlib.Data.Nat.Dist

/-
  Rounding to nearest.

  A rounded number is the nearest one of those that are
  allowed, and a tie goes to the even one.  That alone makes
  rounding monotone, and exact on what is allowed.

  Key definitions include:
    * `IsNearest`
    * `IsSignificant`

  Key theorems include:
    * `IsNearest.exact`
    * `IsNearest.unique`
    * `IsNearest.mono`
    * `roundDiv_isNearest`
    * `nearestUnits_isNearest`
-/

------------------------------------------------------------
-- Nearest Numbers
------------------------------------------------------------

namespace Aggregation

namespace Number

/-
  A number that is nearest to a target.  Of two allowed
  numbers that are equally near, the even one is a whole
  number of times twice their distance.
-/
structure IsNearest
    (Allowed : Nat → Prop)
    (target chosen : Nat) :
    Prop where
  allowed : Allowed chosen
  nearest :
    ∀ other, Allowed other →
      Nat.dist chosen target ≤ Nat.dist other target
  even :
    ∀ other, Allowed other → other ≠ chosen →
      Nat.dist other target = Nat.dist chosen target →
        2 * Nat.dist other chosen ∣ chosen

/- Different multiples are a multiple apart. -/
theorem le_dist_of_dvd
    {denominator left right : Nat}
    (hLeft : denominator ∣ left)
    (hRight : denominator ∣ right)
    (hApart : left ≠ right) :
    denominator ≤ Nat.dist left right :=
  Nat.le_of_dvd (Nat.dist_pos_of_ne hApart)
    (Nat.dvd_add (Nat.dvd_sub hLeft hRight)
      (Nat.dvd_sub hRight hLeft))

namespace IsNearest

variable {Allowed : Nat → Prop}
variable {target chosen : Nat}

/- An allowed number is nearest to itself. -/
theorem exact
    (hNearest : IsNearest Allowed target chosen)
    (hAllowed : Allowed target) :
    chosen = target := by
  have hSelf := hNearest.nearest target hAllowed
  rw [Nat.dist_self] at hSelf
  exact Nat.eq_of_dist_eq_zero (Nat.le_zero.mp hSelf)

/- Only one number is nearest: two cannot both be even. -/
theorem unique
    {other : Nat}
    (hNearest : IsNearest Allowed target chosen)
    (hOther : IsNearest Allowed target other) :
    chosen = other := by
  by_contra hApart
  have hTie :=
    Nat.le_antisymm (hNearest.nearest other hOther.allowed)
      (hOther.nearest chosen hNearest.allowed)
  have hEven :=
    hNearest.even other hOther.allowed (Ne.symm hApart)
      hTie.symm
  have hOtherEven :=
    hOther.even chosen hNearest.allowed hApart hTie
  rw [Nat.dist_comm other] at hEven
  have hGap := le_dist_of_dvd hEven hOtherEven hApart
  have hPositive := Nat.dist_pos_of_ne hApart
  omega

/-
  Rounding is monotone.  If it were not, one target would
  lie above and the other below the middle of the rounded
  numbers, so that the targets would be the same.
-/
theorem mono
    {larger other : Nat}
    (hNearest : IsNearest Allowed target chosen)
    (hOther : IsNearest Allowed larger other)
    (hLess : target ≤ larger) :
    chosen ≤ other := by
  rcases Nat.eq_or_lt_of_le hLess with hSame | hLess
  · rw [← hSame] at hOther
    exact Nat.le_of_eq (hNearest.unique hOther)
  · have hAbove := hNearest.nearest other hOther.allowed
    have hBelow := hOther.nearest chosen hNearest.allowed
    unfold Nat.dist at hAbove hBelow
    omega

end IsNearest

------------------------------------------------------------
-- Quotients
------------------------------------------------------------

variable {denominator : Nat}

/- A quotient is rounded by at most one half. -/
theorem roundDiv_near
    (numerator : Nat)
    (hPositive : 0 < denominator) :
    2 * Nat.dist (roundDiv numerator denominator *
        denominator) numerator ≤
      denominator := by
  have hRest := Nat.mod_lt numerator hPositive
  have hParts := Nat.div_add_mod' numerator denominator
  unfold roundDiv Nat.dist
  simp only
  split_ifs <;> (try rw [Nat.add_mul, Nat.one_mul]) <;> omega

/- A quotient that is rounded by one half becomes even. -/
theorem roundDiv_even
    {numerator : Nat}
    (hPositive : 0 < denominator)
    (hHalf :
      2 * Nat.dist (roundDiv numerator denominator *
          denominator) numerator =
        denominator) :
    2 ∣ roundDiv numerator denominator := by
  have hRest := Nat.mod_lt numerator hPositive
  have hParts := Nat.div_add_mod' numerator denominator
  unfold roundDiv Nat.dist at hHalf
  unfold roundDiv
  simp only at hHalf ⊢
  split_ifs at hHalf ⊢ <;>
    (try rw [Nat.add_mul, Nat.one_mul] at hHalf) <;> omega

/- The nearest multiple of a denominator. -/
theorem roundDiv_isNearest
    (numerator : Nat)
    (hPositive : 0 < denominator) :
    IsNearest (denominator ∣ ·) numerator
      (roundDiv numerator denominator * denominator) where
  allowed := Nat.dvd_mul_left _ _
  nearest other hOther := by
    have hNear := roundDiv_near numerator hPositive
    by_cases hSame :
        other = roundDiv numerator denominator * denominator
    · rw [hSame]
    · have hApart :=
        le_dist_of_dvd hOther (Nat.dvd_mul_left _ _) hSame
      have hAround :=
        Nat.dist.triangle_inequality other numerator
          (roundDiv numerator denominator * denominator)
      rw [Nat.dist_comm numerator] at hAround
      omega
  even other hOther hSame hTie := by
    have hNear := roundDiv_near numerator hPositive
    have hApart :=
      le_dist_of_dvd hOther (Nat.dvd_mul_left _ _) hSame
    have hAround :=
      Nat.dist.triangle_inequality other numerator
        (roundDiv numerator denominator * denominator)
    rw [Nat.dist_comm numerator] at hAround
    -- Both lie one half away, so they are neighbours.
    have hStep :
        Nat.dist other
            (roundDiv numerator denominator * denominator) =
          denominator := by
      omega
    rw [hStep]
    exact Nat.mul_dvd_mul_right
      (roundDiv_even hPositive (by omega)) denominator

------------------------------------------------------------
-- Numbers of Double Precision
------------------------------------------------------------

/- Units with at most fifty-three significant bits. -/
def IsSignificant (units : Nat) : Prop :=
  ∃ mantissa exponent,
    mantissa < Nat.pow 2 53 ∧
      units = mantissa * Nat.pow 2 exponent

/-
  Significant units are multiples of a power of two, or lie
  below what makes the power the last place.
-/
theorem IsSignificant.dvd_or_lt
    {units : Nat}
    (hUnits : IsSignificant units)
    (exponent : Nat) :
    2 ^ exponent ∣ units ∨
      0 < exponent ∧ units < 2 ^ (52 + exponent) := by
  rcases hUnits with ⟨mantissa, place, hMantissa, hUnits⟩
  rw [hUnits]
  rcases Nat.lt_or_ge place exponent with hLess | hWhole
  · refine .inr ⟨Nat.zero_lt_of_lt hLess, ?_⟩
    calc
      mantissa * 2 ^ place < 2 ^ 53 * 2 ^ place :=
        Nat.mul_lt_mul_of_pos_right hMantissa
          (Nat.two_pow_pos place)
      _ = 2 ^ (53 + place) := (Nat.pow_add 2 53 place).symm
      _ ≤ 2 ^ (52 + exponent) :=
        Nat.pow_le_pow_right (by decide) (by omega)
  · exact .inl (Nat.dvd_mul_left_of_dvd
      (Nat.pow_dvd_pow 2 hWhole) mantissa)

/-
  Units are rounded to the nearest significant ones.  Those
  that are no multiples of the last place are smaller than
  a multiple that is itself at most the target.
-/
theorem nearestUnits_isNearest (target : Nat) :
    IsNearest IsSignificant target
      (nearestUnits target 1) := by
  generalize hExponent : Nat.log2 target - 52 = exponent
  have hRounded :
      nearestUnits target 1 =
        roundDiv target (2 ^ exponent) * 2 ^ exponent := by
    unfold nearestUnits
    simp only [Nat.div_one, hExponent, Nat.one_mul,
      Nat.pow_eq]
  have hMultiple :=
    roundDiv_isNearest target (Nat.two_pow_pos exponent)
  rw [← hRounded] at hMultiple
  have hBelow :
      ∀ other, 0 < exponent → other < 2 ^ (52 + exponent) →
        Nat.dist (nearestUnits target 1) target <
          Nat.dist other target := by
    intro other hPositive hOther
    have hTop :=
      hMultiple.nearest (2 ^ (52 + exponent))
        (Nat.pow_dvd_pow 2 (Nat.le_add_left exponent 52))
    have hTarget : 2 ^ (52 + exponent) ≤ target := by
      have hLog : 52 + exponent = Nat.log2 target := by omega
      rw [hLog]
      exact Nat.log2_self_le (by rintro rfl; simp at hLog)
    unfold Nat.dist at hTop ⊢
    omega
  refine ⟨nearestUnits_significant target 1, ?_, ?_⟩
  · intro other hOther
    rcases hOther.dvd_or_lt exponent with
      hWhole | ⟨hPositive, hLess⟩
    · exact hMultiple.nearest other hWhole
    · exact Nat.le_of_lt (hBelow other hPositive hLess)
  · intro other hOther hSame hTie
    rcases hOther.dvd_or_lt exponent with
      hWhole | ⟨hPositive, hLess⟩
    · exact hMultiple.even other hWhole hSame hTie
    · have hFar := hBelow other hPositive hLess
      omega

end Number

end Aggregation
