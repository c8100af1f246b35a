import Aggregation.Input.Fields
import Aggregation.Run.Report

/-
  Reports read from named values.

  Key definitions include:
    * `readResult`
    * `readReport`
-/

------------------------------------------------------------
-- Results
------------------------------------------------------------

namespace Aggregation

namespace Input

/- A strategy by its word. -/
def readStrategy : Value → Checked Strategy
  | .text text =>
      match [Strategy.composed, Strategy.barrel].find?
          (·.text == text) with
      | some strategy => .valid strategy
      | none => .complain .notStrategy
  | _ => .complain .notStrategy

/- The result of a component from named values. -/
def readResult (fields : Fields) : Checked Result :=
  ((((Checked.valid Result.mk).apply
    (field fields "directory" none readPath)).apply
    (field fields "strategy" none readStrategy)).apply
    (field fields "marker_created" (some false)
      readBool)).apply
    (field fields "files" (some []) (readList readPath))

/- The result of a component from one value. -/
def readResultValue : Value → Checked Result
  | .object fields => readResult fields
  | _ => .complain .notResult

------------------------------------------------------------
-- Reports
------------------------------------------------------------

/- A report from named values. -/
def readReport (fields : Fields) : Checked Report :=
  (((Checked.valid Report.mk).apply
    (field fields "components" (some [])
      (readList readResultValue))).apply
    (field fields "failures" (some [])
      (readList readText))).apply
    (field fields "duration" (some (.zero false))
      readSeconds)

end Input

end Aggregation
