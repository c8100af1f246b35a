/-
  Quotients rounded to the nearest whole number.

  Key definitions include:
    * `roundDiv`

  Key theorems include:
    * `roundDiv_le`
-/

------------------------------------------------------------
-- Rounded Quotients
------------------------------------------------------------

namespace Aggregation

namespace Number

/-
  Nearest whole number to a quotient.  A quotient halfway
  between two whole numbers goes to the even one.
-/
def roundDiv (numerator denominator : Nat) : Nat :=
  let floor := numerator / denominator
  let rest := numerator % denominator
  if 2 * rest < denominator then
    floor
  else if denominator < 2 * rest then
    floor + 1
  else if floor % 2 = 0 then
    floor
  else
    floor + 1

/- A quotient below a whole number rounds to at most it. -/
theorem roundDiv_le
    {numerator denominator limit : Nat}
    (hBelow : numerator / denominator < limit) :
    roundDiv numerator denominator ≤ limit := by
  unfold roundDiv
  simp only
  split
  · omega
  · split
    · omega
    · split <;> omega

end Number

end Aggregation
