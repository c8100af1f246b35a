import Aggregation.Number.Fixed

/-
  Durations as short texts.

  Less than a second is shown in whole milliseconds, more in
  seconds with one decimal place.

  Key definitions include:
    * `durationText`
    * `wholeDurationText`
-/

------------------------------------------------------------
-- Durations
------------------------------------------------------------

namespace Aggregation

open Number (Double)

/- A duration given as a number of seconds. -/
def durationText (seconds : Double) : String :=
  if seconds.isBelowZero then
    "0ms"
  else if seconds.isBelowOne then
    toString (seconds.times 1000).wholePart ++ "ms"
  else
    seconds.fixed 1 ++ "s"

/- Reason why a duration has no text. -/
inductive DurationError where
  | tooLarge

/- Wording of a duration error. -/
def DurationError.message : DurationError → String
  | .tooLarge => "int too large to convert to float"

/-
  A duration given as an exact whole number of seconds.  It
  is shown through the nearest double, which must exist.
-/
def wholeDurationText
    (seconds : Int) :
    Except DurationError String :=
  if seconds < 1 then
    .ok "0ms"
  else
    match Double.ofInt seconds with
    | .infinite _ => .error .tooLarge
    | value => .ok (durationText value)

end Aggregation
