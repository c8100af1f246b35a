import Aggregation.Naming
import Aggregation.Path

/-
  Component directories and how they are aggregated.

  Key definitions include:
    * `Component`
    * `Strategy`
    * `Component.strategy`
-/

------------------------------------------------------------
-- Components
------------------------------------------------------------

namespace Aggregation

/-
  A component directory: the base names of its elements and
  the file of its root element, if it has one.
-/
structure Component where
  directory : Path
  elements : List String
  rootFile : Option String
  deriving DecidableEq, Repr

namespace Component

/- Base name of the directory. -/
def name (component : Component) : String :=
  component.directory.name

/- Identifier of the component. -/
def identifier (component : Component) : String :=
  normalize component.name

end Component

------------------------------------------------------------
-- Strategies
------------------------------------------------------------

/-
  How a component is aggregated: the other elements become
  properties of the root, or all become named exports.
-/
inductive Strategy where
  | composed
  | barrel
  deriving DecidableEq, Repr

/- Word for a strategy. -/
def Strategy.text : Strategy → String
  | .composed => "root_composed"
  | .barrel => "barrel"

/- A component with a root file is composed around it. -/
def Component.strategy (component : Component) : Strategy :=
  match component.rootFile with
  | some _ => .composed
  | none => .barrel

end Aggregation
