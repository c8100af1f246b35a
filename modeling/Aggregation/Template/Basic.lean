import Aggregation.Value

/-
  Templates of generated modules.

  A template prints values of a context between fixed texts.
  A section can be repeated for the items of a list, and it
  can have a substitute for the case that there are none.
  Rendering is strict: whatever is missing is an error.

  Key definitions include:
    * `Piece`
    * `Section`
    * `Template`
    * `RenderError`
    * `Template.render`
-/

------------------------------------------------------------
-- Templates
------------------------------------------------------------

namespace Aggregation

/- A part of a template without repetition. -/
inductive Piece where
  | fixed (text : String)
  | value (name : String)
  | attribute (name : String)
  deriving DecidableEq, Repr

/- A part of a template. -/
inductive Section where
  | single (piece : Piece)
  | repeated
      (list : String)
      (body : List Piece)
      (substitute : List Piece)
  deriving DecidableEq, Repr

/- The parts of a template in order. -/
abbrev Template := List Section

------------------------------------------------------------
-- Errors
------------------------------------------------------------

/- Reasons why a template cannot be rendered. -/
inductive RenderError where
  | missingVariable (name : String)
  | missingAttribute (owner : String) (name : String)
  | notIterable (kind : String)
  | missingTemplate (name : String)
  | reservedName
  | notText
  deriving DecidableEq, Repr

/- Wording of a rendering error. -/
def RenderError.message : RenderError → String
  | .missingVariable name =>
      Text.quoted name ++ " is undefined"
  | .missingAttribute owner name =>
      Text.quoted owner ++ " has no attribute " ++
        Text.quoted name
  | .notIterable kind =>
      Text.quoted kind ++ " object is not iterable"
  | .missingTemplate name => name
  | .reservedName =>
      "Template.render() got multiple values for " ++
        "argument 'self'"
  | .notText => "invalid start byte"

/- How an error names the owner of an attribute. -/
def ownerName : Value → String
  | .null => "None"
  | value => value.kind ++ " object"

------------------------------------------------------------
-- Values of a Context
------------------------------------------------------------

/- The value of a variable. -/
def lookVariable (context : Fields) (name : String) :
    Except RenderError Value :=
  match context.lookup name with
  | some value => .ok value
  | none => .error (.missingVariable name)

/- The value of an attribute of an item. -/
def lookAttribute (item : Value) (name : String) :
    Except RenderError Value :=
  match item with
  | .object entries =>
      match entries.lookup name with
      | some value => .ok value
      | none =>
          .error (.missingAttribute (ownerName item) name)
  | _ => .error (.missingAttribute (ownerName item) name)

/- The items that a value is repeated for. -/
def itemsOf : Value → Except RenderError (List Value)
  | .list items => .ok items
  | .text text =>
      .ok (text.toList.map fun character =>
        .text (String.ofList [character]))
  | .object entries =>
      .ok (entries.map fun (key, _) => .text key)
  | value => .error (.notIterable value.kind)

------------------------------------------------------------
-- Rendering
------------------------------------------------------------

/- Text of one piece, inside a repetition or outside. -/
def Piece.render (context : Fields) (item : Value) :
    Piece → Except RenderError String
  | .fixed text => .ok text
  | .value name =>
      (lookVariable context name).map Value.shown
  | .attribute name =>
      (lookAttribute item name).map Value.shown

/- Texts one after the other; the first error decides. -/
def renderAll {α : Type}
    (render : α → Except RenderError String) :
    List α → Except RenderError String
  | [] => .ok ""
  | part :: rest =>
      match render part with
      | .error error => .error error
      | .ok text =>
          (renderAll render rest).map fun others =>
            text ++ others

/- Text of one section. -/
def Section.render (context : Fields) :
    Section → Except RenderError String
  | .single piece => piece.render context .null
  | .repeated list body substitute =>
      match lookVariable context list with
      | .error error => .error error
      | .ok value =>
          match itemsOf value with
          | .error error => .error error
          | .ok [] =>
              renderAll (Piece.render context .null) substitute
          | .ok items =>
              renderAll
                (fun item =>
                  renderAll (Piece.render context item) body)
                items

/- Text of a template. -/
def Template.render (template : Template) (context : Fields) :
    Except RenderError String :=
  if context.any fun (name, _) => name == "self" then
    .error .reservedName
  else
    renderAll (Section.render context) template

end Aggregation
