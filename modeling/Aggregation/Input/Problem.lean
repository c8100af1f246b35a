import Aggregation.Text.Quoted

/-
  Problems found in values from outside.

  Key definitions include:
    * `Complaint`
    * `Problem`
    * `Checked`
-/

------------------------------------------------------------
-- Complaints
------------------------------------------------------------

namespace Aggregation

namespace Input

/- What can be wrong with one value. -/
inductive Complaint where
  | notText
  | emptyText
  | notExtension (text : String)
  | notBool
  | unclearBool
  | notPath
  | notTuple
  | notList
  | notStrategy
  | notResult
  | notNumber
  | unclearNumber
  | absent
  | frozen
  deriving DecidableEq, Repr

/- Short code of a complaint. -/
def Complaint.code : Complaint → String
  | .notText => "string_type"
  | .emptyText => "string_too_short"
  | .notExtension _ => "value_error"
  | .notBool => "bool_type"
  | .unclearBool => "bool_parsing"
  | .notPath => "path_type"
  | .notTuple => "tuple_type"
  | .notList => "list_type"
  | .notStrategy => "enum"
  | .notResult => "model_type"
  | .notNumber => "float_type"
  | .unclearNumber => "float_parsing"
  | .absent => "missing"
  | .frozen => "frozen_instance"

/- Wording of a complaint. -/
def Complaint.message : Complaint → String
  | .notText => "Input should be a valid string"
  | .emptyText => "String should have at least 1 character"
  | .notExtension text =>
      "Value error, extension must start with '.': " ++
        Text.quoted text
  | .notBool => "Input should be a valid boolean"
  | .unclearBool =>
      "Input should be a valid boolean, " ++
        "unable to interpret input"
  | .notPath =>
      "Input is not a valid path for " ++
        "<class 'pathlib.Path'>"
  | .notTuple => "Input should be a valid tuple"
  | .notList => "Input should be a valid list"
  | .notStrategy =>
      "Input should be 'root_composed' or 'barrel'"
  | .notResult =>
      "Input should be a valid dictionary " ++
        "or instance of ComponentResult"
  | .notNumber => "Input should be a valid number"
  | .unclearNumber =>
      "Input should be a valid number, " ++
        "unable to parse string as a number"
  | .absent => "Field required"
  | .frozen => "Instance is frozen"

------------------------------------------------------------
-- Problems
------------------------------------------------------------

/- One step into a value. -/
inductive Step where
  | key (name : String)
  | index (position : Nat)
  deriving DecidableEq, Repr

/- A complaint with the steps to its value. -/
structure Problem where
  place : List Step
  complaint : Complaint
  deriving DecidableEq, Repr

/- A problem seen from one step further out. -/
def Problem.under (step : Step) (problem : Problem) :
    Problem :=
  ⟨step :: problem.place, problem.complaint⟩

------------------------------------------------------------
-- Checked Values
------------------------------------------------------------

/- A value, or every problem that stands against it. -/
inductive Checked (α : Type) where
  | valid (value : α)
  | invalid (problems : List Problem)

namespace Checked

/- A single complaint about a value itself. -/
def complain {α : Type} (complaint : Complaint) :
    Checked α :=
  .invalid [⟨[], complaint⟩]

/- Change a valid value. -/
def map {α β : Type} (change : α → β) :
    Checked α → Checked β
  | .valid value => .valid (change value)
  | .invalid problems => .invalid problems

/- Combine two values, with the problems of both. -/
def both {α β : Type} :
    Checked α → Checked β → Checked (α × β)
  | .valid left, .valid right => .valid (left, right)
  | .valid _, .invalid problems => .invalid problems
  | .invalid problems, .valid _ => .invalid problems
  | .invalid first, .invalid second =>
      .invalid (first ++ second)

/- Apply one more argument, with the problems of both. -/
def apply {α β : Type}
    (function : Checked (α → β))
    (argument : Checked α) :
    Checked β :=
  (function.both argument).map fun (change, value) =>
    change value

/- Place the problems of a value one step further in. -/
def under {α : Type} (step : Step) :
    Checked α → Checked α
  | .valid value => .valid value
  | .invalid problems =>
      .invalid (problems.map (Problem.under step))

/- Combine a list of values, with the problems of all. -/
def all {α : Type} : List (Checked α) → Checked (List α)
  | [] => .valid []
  | item :: rest =>
      (item.both (all rest)).map fun (value, values) =>
        value :: values

end Checked

end Input

end Aggregation
