import Aggregation.Component
import Aggregation.Number.Double

/-
  What a run did.

  Key definitions include:
    * `Result`
    * `Report`
    * `Report.filesWritten`
    * `Report.count`
-/

------------------------------------------------------------
-- Results
------------------------------------------------------------

namespace Aggregation

open Number (Double)

/- What was done for one component. -/
structure Result where
  directory : Path
  strategy : Strategy
  markerCreated : Bool
  files : List Path
  deriving DecidableEq, Repr

------------------------------------------------------------
-- Reports
------------------------------------------------------------

/- What was done for a library, and how long it took. -/
structure Report where
  components : List Result
  failures : List String
  duration : Double

namespace Report

/- All generated files in order. -/
def filesWritten (report : Report) : List Path :=
  report.components.flatMap Result.files

/- Number of components that followed a strategy. -/
def count (report : Report) (strategy : Strategy) : Nat :=
  report.components.countP fun result =>
    result.strategy = strategy

end Report

end Aggregation
