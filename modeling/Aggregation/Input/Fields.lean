import Aggregation.Input.Problem
import Aggregation.Number.Reading
import Aggregation.Settings
import Aggregation.Value

/-
  Values of unknown shape read as values of known types.

  Key definitions include:
    * `readText`
    * `readBool`
    * `readPath`
    * `readSeconds`
    * `readList`
    * `field`
-/

------------------------------------------------------------
-- Texts
------------------------------------------------------------

namespace Aggregation

namespace Input

open Number (Double)

/- A text. -/
def readText : Value → Checked String
  | .text text => .valid text
  | _ => .complain .notText

/- A text or nothing. -/
def readOptionalText : Value → Checked (Option String)
  | .null => .valid none
  | value => (readText value).map some

/- A text with at least one character. -/
def readLabel : Value → Checked Label
  | .text text =>
      if hEmpty : text.toList = [] then
        .complain .emptyText
      else
        .valid ⟨text, hEmpty⟩
  | _ => .complain .notText

/- An extension of file names. -/
def readExtension : Value → Checked Extension
  | .text text =>
      if hDotted : isExtension text = true then
        .valid ⟨text, hDotted⟩
      else
        .complain (.notExtension text)
  | _ => .complain .notText

/- A path. -/
def readPath : Value → Checked Path
  | .text text => .valid (Path.ofString text)
  | _ => .complain .notPath

------------------------------------------------------------
-- Switches
------------------------------------------------------------

/- Words for yes. -/
def trueWords : List String :=
  ["1", "t", "y", "on", "yes", "true"]

/- Words for no. -/
def falseWords : List String :=
  ["0", "f", "n", "no", "off", "false"]

/- Test for an integer of sixty-four bits. -/
def fitsWord (value : Int) : Bool :=
  -(Nat.pow 2 63 : Nat) ≤ value &&
    value < (Nat.pow 2 63 : Nat)

/- A switch: a truth value, or a number or word for one. -/
def readBool : Value → Checked Bool
  | .bool value => .valid value
  | .int value =>
      if value = 0 then .valid false
      else if value = 1 then .valid true
      else if fitsWord value then .complain .unclearBool
      else .complain .notBool
  | .double (.finite negative units _) =>
      if units = 0 then .valid false
      else if units = Number.unitsPerOne && !negative then
        .valid true
      else .complain .notBool
  | .text text =>
      let word := String.ofList (text.toList.map Char.toLower)
      if trueWords.contains word then .valid true
      else if falseWords.contains word then .valid false
      else .complain .unclearBool
  | _ => .complain .notBool

------------------------------------------------------------
-- Numbers
------------------------------------------------------------

/- A number of seconds. -/
def readSeconds : Value → Checked Double
  | .double value => .valid value
  | .bool value => .valid (.ofInt (if value then 1 else 0))
  | .int value =>
      match Double.ofInt value with
      | .infinite _ => .complain .notNumber
      | number => .valid number
  | .text text =>
      match Number.readNumber text with
      | some value => .valid value
      | none => .complain .unclearNumber
  | _ => .complain .notNumber

------------------------------------------------------------
-- Lists
------------------------------------------------------------

/- A list whose items are read one by one. -/
def readItems {α : Type}
    (complaint : Complaint)
    (read : Value → Checked α) :
    Value → Checked (List α)
  | .list items =>
      .all ((items.zipIdx).map fun (item, position) =>
        (read item).under (.index position))
  | _ => .complain complaint

/- A list. -/
def readList {α : Type}
    (read : Value → Checked α) :
    Value → Checked (List α) :=
  readItems .notList read

------------------------------------------------------------
-- Fields
------------------------------------------------------------

/- A field, with a value for the case that it is absent. -/
def field {α : Type}
    (fields : Fields)
    (name : String)
    (preset : Option α)
    (read : Value → Checked α) :
    Checked α :=
  match fields.lookup name with
  | some value => (read value).under (.key name)
  | none =>
      match preset with
      | some value => .valid value
      | none => .under (.key name) (.complain .absent)

end Input

end Aggregation
