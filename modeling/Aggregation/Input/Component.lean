import Aggregation.Component
import Aggregation.Input.Fields

/-
  Components read from named values.

  Key definitions include:
    * `readComponent`
    * `assign`
-/

------------------------------------------------------------
-- Components
------------------------------------------------------------

namespace Aggregation

namespace Input

/- A component from named values. -/
def readComponent (fields : Fields) : Checked Component :=
  (((Checked.valid Component.mk).apply
    (field fields "directory" none readPath)).apply
    (field fields "sub_elements" (some [])
      (readItems .notTuple readText))).apply
    (field fields "root_file" (some none) readOptionalText)

/-
  Assign a field of a component.  Components cannot change,
  so this is always refused.
-/
def assign (_component : Component) (name : String) : Problem :=
  ⟨[.key name], .frozen⟩

end Input

end Aggregation
