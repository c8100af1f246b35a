import Aggregation.Number.Shortest
import Aggregation.Text.Quoted
import Aggregation.Text.Split

/-
  Values of unknown shape, as configuration files and
  template contexts hold them.

  Key definitions include:
    * `Value`
    * `Fields`
    * `Value.kind`
    * `Value.shown`
-/

------------------------------------------------------------
-- Values
------------------------------------------------------------

namespace Aggregation

open Number (Double DecimalFormat)

/- A value of unknown shape. -/
inductive Value where
  | null
  | bool (value : Bool)
  | int (value : Int)
  | double (value : Double)
  | text (value : String)
  | list (items : List Value)
  | object (entries : List (String × Value))

/- Named values in order. -/
abbrev Fields := List (String × Value)

/- Word for the kind of a value. -/
def Value.kind : Value → String
  | .null => "NoneType"
  | .bool _ => "bool"
  | .int _ => "int"
  | .double _ => "float"
  | .text _ => "str"
  | .list _ => "list"
  | .object _ => "dict"

------------------------------------------------------------
-- Printing
------------------------------------------------------------

/-
  Numbers are written positionally from a ten-thousandth up
  to ten to the sixteenth, and exponents have two digits.
-/
def Value.numberFormat : DecimalFormat :=
  ⟨-4, 16, 2⟩

mutual

/- A value as it stands inside a list or an object. -/
def Value.inner : Value → String
  | .null => "None"
  | .bool value => if value then "True" else "False"
  | .int value => toString value
  | .double value => Value.numberFormat.text value
  | .text value => Text.quoted value
  | .list items =>
      "[" ++ Text.joinWith ", " (Value.innerAll items) ++ "]"
  | .object entries =>
      "\x7b" ++
        Text.joinWith ", " (Value.innerEntries entries) ++
          "\x7d"

/- The values of a list. -/
def Value.innerAll : List Value → List String
  | [] => []
  | value :: rest => value.inner :: Value.innerAll rest

/- The entries of an object. -/
def Value.innerEntries :
    List (String × Value) → List String
  | [] => []
  | (key, value) :: rest =>
      (Text.quoted key ++ ": " ++ value.inner) ::
        Value.innerEntries rest

end

/- A value as it is printed: a text stands for itself. -/
def Value.shown : Value → String
  | .text value => value
  | value => value.inner

end Aggregation
