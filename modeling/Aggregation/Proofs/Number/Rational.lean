import Aggregation.Proofs.Number.Nearest
import Mathlib.Algebra.Order.Field.Basic
import Mathlib.Algebra.Order.Ring.Rat
import Mathlib.Tactic.Ring

/-
  The rationals that numbers of double precision denote.

  A product is the nearest number to the exact product of
  the rationals, and a tie goes to the even number.

  Key definitions include:
    * `Double.rational?`
    * `IsNearestDouble`

  Key theorems include:
    * `Double.rational?_cases`
    * `isNearestDouble_of_units`
-/

------------------------------------------------------------
-- Rationals
------------------------------------------------------------

namespace Aggregation

namespace Number

/- The rational of a number of units. -/
def rationalOf (units : Nat) : ℚ :=
  units / unitsPerOne

/- The rational that a finite number denotes. -/
def Double.rational? : Double → Option ℚ
  | .finite negative units _ =>
      some (if negative then
        -rationalOf units
      else
        rationalOf units)
  | _ => none

theorem unitsPerOne_pos : 0 < unitsPerOne :=
  by decide +kernel

theorem cast_unitsPerOne_pos : (0 : ℚ) < unitsPerOne :=
  Nat.cast_pos.mpr unitsPerOne_pos

theorem rationalOf_nonneg (units : Nat) :
    0 ≤ rationalOf units :=
  div_nonneg (Nat.cast_nonneg units)
    cast_unitsPerOne_pos.le

theorem rationalOf_le_iff {units others : Nat} :
    rationalOf units ≤ rationalOf others ↔
      units ≤ others := by
  unfold rationalOf
  rw [div_le_div_iff_of_pos_right cast_unitsPerOne_pos,
    Nat.cast_le]

theorem rationalOf_inj {units others : Nat} :
    rationalOf units = rationalOf others ↔
      units = others := by
  rw [le_antisymm_iff, rationalOf_le_iff, rationalOf_le_iff,
    Nat.le_antisymm_iff]

/- Rationals are as far apart as their units. -/
theorem abs_rationalOf_sub (units others : Nat) :
    |rationalOf units - rationalOf others| =
      rationalOf (Nat.dist units others) := by
  unfold rationalOf
  rw [← sub_div, abs_div, abs_of_pos cast_unitsPerOne_pos]
  congr 1
  rcases Nat.le_total units others with hLess | hLess
  · rw [Nat.dist_eq_sub_of_le hLess, Nat.cast_sub hLess,
      abs_sub_comm, abs_of_nonneg
        (sub_nonneg.mpr (Nat.cast_le.mpr hLess))]
  · rw [Nat.dist_eq_sub_of_le_right hLess,
      Nat.cast_sub hLess, abs_of_nonneg
        (sub_nonneg.mpr (Nat.cast_le.mpr hLess))]

/- A number below zero is as far as its units reach. -/
theorem abs_neg_rationalOf_sub (units others : Nat) :
    |-rationalOf units - rationalOf others| =
      rationalOf (units + others) := by
  have hSum :
      -rationalOf units - rationalOf others =
        -rationalOf (units + others) := by
    unfold rationalOf
    rw [Nat.cast_add]
    ring
  rw [hSum, abs_neg, abs_of_nonneg (rationalOf_nonneg _)]

/-
  A number that denotes a rational is finite, and only a
  sign in front of more than zero counts.
-/
theorem Double.rational?_cases
    {number : Double}
    {value : ℚ}
    (hValue : number.rational? = some value) :
    ∃ negative units hUnits,
      number = .finite negative units hUnits ∧
        ((negative && units != 0) = false ∧
            value = rationalOf units ∨
          (negative && units != 0) = true ∧
            0 < units ∧
            value = -rationalOf units) := by
  cases number with
  | finite negative units hUnits =>
      refine ⟨negative, units, hUnits, rfl, ?_⟩
      injection hValue with hValue
      cases negative with
      | false => exact .inl ⟨rfl, hValue.symm⟩
      | true =>
          rcases Nat.eq_zero_or_pos units with
            hZero | hPositive
          · left
            rw [← hValue, hZero, if_pos rfl, rationalOf,
              Nat.cast_zero, zero_div, neg_zero]
            exact ⟨rfl, rfl⟩
          · right
            exact ⟨by simp; omega, hPositive, hValue.symm⟩
  | infinite negative => simp [Double.rational?] at hValue
  | nan => simp [Double.rational?] at hValue

------------------------------------------------------------
-- Nearest Numbers
------------------------------------------------------------

/-
  The rational of a number of double precision such that no
  other number is nearer to a target.  Of two numbers that
  are equally near, the even one is a whole number of times
  twice their distance.
-/
structure IsNearestDouble (target value : ℚ) : Prop where
  attained :
    ∃ number : Double, number.rational? = some value
  nearest :
    ∀ (number : Double) (other : ℚ),
      number.rational? = some other →
        |value - target| ≤ |other - target|
  even :
    ∀ (number : Double) (other : ℚ),
      number.rational? = some other →
      other ≠ value →
      |other - target| = |value - target| →
        ∃ count : Nat, value = count * (2 * |other - value|)

/- Units that are nearest make a nearest number. -/
theorem isNearestDouble_of_units
    {target units : Nat}
    (hNearest : IsNearest IsSignificant target units)
    (hRange : units < unitsBound) :
    IsNearestDouble (rationalOf target)
      (rationalOf units) := by
  have hUnits : Representable units :=
    ⟨hNearest.allowed, hRange⟩
  -- No number is nearer from the other side of zero.
  have hZero : Nat.dist units target ≤ target := by
    have hNear :=
      hNearest.nearest 0 ⟨0, 0, by decide, by decide⟩
    rw [Nat.dist_zero_left] at hNear
    exact hNear
  refine ⟨⟨.finite false units hUnits, rfl⟩, ?_, ?_⟩
  · intro number other hOther
    rw [abs_rationalOf_sub]
    rcases number.rational?_cases hOther with
      ⟨_, others, hOthers, _,
        ⟨_, hOther⟩ | ⟨_, _, hOther⟩⟩
    · rw [hOther, abs_rationalOf_sub, rationalOf_le_iff]
      exact hNearest.nearest others hOthers.significant
    · rw [hOther, abs_neg_rationalOf_sub, rationalOf_le_iff]
      omega
  · intro number other hOther hApart hTie
    rw [abs_rationalOf_sub] at hTie
    rcases number.rational?_cases hOther with
      ⟨_, others, hOthers, _,
        ⟨_, hOther⟩ | ⟨_, hPositive, hOther⟩⟩
    · rw [hOther, abs_rationalOf_sub, rationalOf_inj] at hTie
      rw [hOther, Ne, rationalOf_inj] at hApart
      rcases hNearest.even others hOthers.significant hApart
          hTie with
        ⟨count, hCount⟩
      refine ⟨count, ?_⟩
      rw [hOther, abs_rationalOf_sub]
      calc
        rationalOf units =
            rationalOf
              (2 * Nat.dist others units * count) := by
          rw [← hCount]
        _ = count * (2 * rationalOf
              (Nat.dist others units)) := by
          unfold rationalOf
          rw [Nat.cast_mul, Nat.cast_mul, Nat.cast_ofNat]
          ring
    · rw [hOther, abs_neg_rationalOf_sub, rationalOf_inj]
        at hTie
      omega

end Number

end Aggregation
