import Aggregation.Proofs.Template.References
import Mathlib.Data.List.Forall2

/-
  Templates that ask the same of every context.

  A regular template repeats lines for elements only.  What
  such lines print is printed outside of them too, or it is
  an attribute of the element.  So a context is enough or
  not, whatever the number of its elements is.

  Key definitions include:
    * `Template.variableNames`
    * `Template.attributeNames`
    * `Template.IsRegular`
    * `HoldsElements`
    * `Template.IsFurnished`
    * `Template.Agrees`

  Key theorems include:
    * `Template.IsRegular.references_met_iff`
    * `Template.IsRegular.render_congr`
    * `Template.render_endsWith`
-/

------------------------------------------------------------
-- Names in Templates
------------------------------------------------------------

namespace Aggregation

/- Variables that a piece prints. -/
def Piece.variableNames : Piece → List String
  | .value name => [name]
  | _ => []

/- Attributes that a piece prints. -/
def Piece.attributeNames : Piece → List String
  | .attribute name => [name]
  | _ => []

namespace Section

/- Variables that a section prints without repetition. -/
def shown : Section → List String
  | .single piece => piece.variableNames
  | .repeated _ _ _ => []

/- Variables that a section refers to. -/
def variableNames : Section → List String
  | .single piece => piece.variableNames
  | .repeated list body substitute =>
      list :: (body ++ substitute).flatMap Piece.variableNames

/- Attributes that a section refers to. -/
def attributeNames : Section → List String
  | .single piece => piece.attributeNames
  | .repeated _ body substitute =>
      (body ++ substitute).flatMap Piece.attributeNames

/-
  A section that is repeated for elements or not at all, and
  prints nothing new of the context when it is repeated.
-/
def IsRegular (printed : List String) : Section → Prop
  | .single piece =>
      piece.attributeNames = [] ∧ "elements" ∉ piece.variableNames
  | .repeated list body substitute =>
      list = "elements" ∧
        (∀ piece ∈ body, ∀ name ∈ piece.variableNames,
          name ∈ printed ∧ name ≠ "elements") ∧
        ∀ piece ∈ substitute,
          piece.variableNames = [] ∧ piece.attributeNames = []

instance
    (printed : List String)
    (part : Section) :
    Decidable (part.IsRegular printed) := by
  cases part <;> unfold IsRegular <;> infer_instance

end Section

namespace Template

/- Variables that a template refers to. -/
def variableNames (template : Template) : List String :=
  template.flatMap Section.variableNames

/- Attributes of elements that a template refers to. -/
def attributeNames (template : Template) : List String :=
  template.flatMap Section.attributeNames

/- All sections are regular. -/
def IsRegular (template : Template) : Prop :=
  ∀ part ∈ template,
    part.IsRegular (template.flatMap Section.shown)

instance (template : Template) :
    Decidable template.IsRegular := by
  unfold IsRegular
  infer_instance

end Template

------------------------------------------------------------
-- Contexts
------------------------------------------------------------

/-
  A context in which no variable has the reserved name, and
  the elements, if there are any, are a list of objects.
-/
structure HoldsElements (context : Fields) : Prop where
  unreserved : "self" ∉ context.map Prod.fst
  elements :
    ∀ value,
      context.lookup "elements" = some value →
        ∃ objects : List Fields,
          value = .list (objects.map .object)

theorem holdsElements_of_lookup
    {context : Fields}
    (hUnreserved : "self" ∉ context.map Prod.fst)
    (objects : List Fields)
    (hElements :
      context.lookup "elements" =
        some (.list (objects.map .object))) :
    HoldsElements context := by
  refine ⟨hUnreserved, fun value hValue => ⟨objects, ?_⟩⟩
  rw [hElements] at hValue
  injection hValue with hSame
  exact hSame.symm

/-
  A context that has all that a template refers to: its
  variables, and its attributes in every element.
-/
structure Template.IsFurnished
    (template : Template)
    (context : Fields) :
    Prop where
  outside :
    ∀ name ∈ template.variableNames,
      ∃ value, context.lookup name = some value
  elements :
    ∀ objects : List Fields,
      context.lookup "elements" =
          some (.list (objects.map .object)) →
        ∀ object ∈ objects, ∀ name ∈ template.attributeNames,
          ∃ value, object.lookup name = some value

namespace Template

variable {template : Template}
variable {context : Fields}

theorem IsRegular.repeatsList
    (hRegular : template.IsRegular)
    (hHolds : HoldsElements context) :
    ∀ part ∈ template, part.RepeatsList context := by
  intro part hPart
  have hPartRegular := hRegular part hPart
  cases part with
  | single piece => exact trivial
  | repeated list body substitute =>
      intro value hValue
      rw [hPartRegular.1] at hValue
      rcases hHolds.elements value hValue with
        ⟨objects, hObjects⟩
      exact ⟨_, hObjects⟩

/- What a template prints outside of repetitions is met. -/
theorem isMet_of_mem_shown
    (hMet :
      ∀ reference ∈ template.references context,
        reference.IsMet context)
    {name : String}
    (hName : name ∈ template.flatMap Section.shown) :
    (Reference.entry name).IsMet context := by
  rcases List.mem_flatMap.mp hName with
    ⟨part, hPart, hShown⟩
  cases part with
  | repeated list body substitute =>
      exact absurd hShown List.not_mem_nil
  | single piece =>
      apply hMet
      refine List.mem_flatMap.mpr ⟨_, hPart, ?_⟩
      rcases piece with text | other | other
      · exact absurd hShown List.not_mem_nil
      · rw [List.mem_singleton.mp hShown]
        exact List.mem_singleton_self _
      · exact absurd hShown List.not_mem_nil

/- The references of a repetition that is not empty. -/
theorem references_repeated
    {list : String}
    {items : List Value}
    (hItems :
      context.lookup list = some (.list items))
    (hNonempty : items ≠ [])
    (body substitute : List Piece) :
    (Section.repeated list body substitute).references
        context =
      .entry list ::
        items.flatMap fun item =>
          body.flatMap (Piece.references item) := by
  cases items with
  | nil => contradiction
  | cons first rest =>
      simp only [Section.references, hItems]

/- If all references are met, so are all variables. -/
theorem IsRegular.isMet_variable
    (hRegular : template.IsRegular)
    (hMet :
      ∀ reference ∈ template.references context,
        reference.IsMet context)
    {name : String}
    (hName : name ∈ template.variableNames) :
    (Reference.entry name).IsMet context := by
  rcases List.mem_flatMap.mp hName with
    ⟨part, hPart, hVariable⟩
  have hPartRegular := hRegular part hPart
  cases part with
  | single piece =>
      exact isMet_of_mem_shown hMet
        (List.mem_flatMap.mpr ⟨_, hPart, hVariable⟩)
  | repeated list body substitute =>
      rcases List.mem_cons.mp hVariable with hList | hLine
      · rw [hList]
        refine hMet (.entry list)
          (List.mem_flatMap.mpr ⟨_, hPart, ?_⟩)
        exact List.mem_cons_self
      · rcases List.mem_flatMap.mp hLine with
          ⟨piece, hPiece, hHere⟩
        rcases List.mem_append.mp hPiece with
          hBody | hSubstitute
        · exact isMet_of_mem_shown hMet
            (hPartRegular.2.1 piece hBody name hHere).1
        · rw [(hPartRegular.2.2 piece hSubstitute).1]
            at hHere
          exact absurd hHere List.not_mem_nil

/- If all references are met, elements have all attributes. -/
theorem IsRegular.isMet_member
    (hRegular : template.IsRegular)
    (hMet :
      ∀ reference ∈ template.references context,
        reference.IsMet context)
    {objects : List Fields}
    (hObjects :
      context.lookup "elements" =
        some (.list (objects.map .object)))
    {object : Fields}
    (hObject : object ∈ objects)
    {name : String}
    (hName : name ∈ template.attributeNames) :
    (Reference.member (.object object) name).IsMet
      context := by
  have hItem :
      Value.object object ∈ objects.map Value.object :=
    List.mem_map_of_mem hObject
  rcases List.mem_flatMap.mp hName with
    ⟨part, hPart, hAttribute⟩
  have hPartRegular := hRegular part hPart
  cases part with
  | single piece =>
      have hOutside : name ∈ piece.attributeNames :=
        hAttribute
      rw [hPartRegular.1] at hOutside
      exact absurd hOutside List.not_mem_nil
  | repeated list body substitute =>
      rcases hPartRegular with ⟨rfl, _, hSubstitute⟩
      rcases List.mem_flatMap.mp hAttribute with
        ⟨piece, hPiece, hHere⟩
      rcases List.mem_append.mp hPiece with hBody | hOther
      · refine hMet (.member (.object object) name)
          (List.mem_flatMap.mpr ⟨_, hPart, ?_⟩)
        rw [references_repeated hObjects
          (List.ne_nil_of_mem hItem)]
        refine List.mem_cons_of_mem _
          (List.mem_flatMap.mpr ⟨_, hItem, ?_⟩)
        refine List.mem_flatMap.mpr ⟨piece, hBody, ?_⟩
        rcases piece with text | other | other
        · exact absurd hHere List.not_mem_nil
        · exact absurd hHere List.not_mem_nil
        · rw [List.mem_singleton.mp hHere]
          exact List.mem_singleton_self _
      · rw [(hSubstitute piece hOther).2] at hHere
        exact absurd hHere List.not_mem_nil

/- Every reference of some pieces is a name in them. -/
theorem isMet_of_mem_pieces
    {pieces : List Piece}
    {item : Value}
    (hVariables :
      ∀ piece ∈ pieces, ∀ name ∈ piece.variableNames,
        (Reference.entry name).IsMet context)
    (hAttributes :
      ∀ piece ∈ pieces, ∀ name ∈ piece.attributeNames,
        (Reference.member item name).IsMet context) :
    ∀ reference ∈ pieces.flatMap (Piece.references item),
      reference.IsMet context := by
  intro reference hReference
  rcases List.mem_flatMap.mp hReference with
    ⟨piece, hPiece, hHere⟩
  have hNames := hVariables piece hPiece
  have hMembers := hAttributes piece hPiece
  rcases piece with text | name | name
  · exact absurd hHere List.not_mem_nil
  · rw [List.mem_singleton.mp hHere]
    exact hNames name (List.mem_singleton_self name)
  · rw [List.mem_singleton.mp hHere]
    exact hMembers name (List.mem_singleton_self name)

/- In a furnished context all references are met. -/
theorem IsFurnished.references_met
    (hFurnished : template.IsFurnished context)
    (hRegular : template.IsRegular)
    (hHolds : HoldsElements context) :
    ∀ reference ∈ template.references context,
      reference.IsMet context := by
  refine List.forall_mem_flatMap.mpr fun part hPart => ?_
  have hPartRegular := hRegular part hPart
  have hVariables :
      ∀ name ∈ part.variableNames,
        (Reference.entry name).IsMet context :=
    fun name hName => hFurnished.outside name
      (List.mem_flatMap.mpr ⟨part, hPart, hName⟩)
  have hAttributes :
      ∀ name ∈ part.attributeNames,
        name ∈ template.attributeNames :=
    fun name hName =>
      List.mem_flatMap.mpr ⟨part, hPart, hName⟩
  cases part with
  | single piece =>
      rw [Section.references,
        ← List.flatMap_singleton (Piece.references .null)]
      refine isMet_of_mem_pieces
        (List.forall_mem_singleton.mpr hVariables)
        (List.forall_mem_singleton.mpr ?_)
      rw [hPartRegular.1]
      exact List.forall_mem_nil _
  | repeated list body substitute =>
      rcases hPartRegular with ⟨rfl, _, hSubstitute⟩
      have hElements :=
        hVariables _ List.mem_cons_self
      have hInside :
          ∀ piece ∈ body ++ substitute,
            ∀ name ∈ piece.variableNames,
              (Reference.entry name).IsMet context :=
        fun piece hPiece name hName =>
          hVariables name (List.mem_cons_of_mem _
            (List.mem_flatMap.mpr ⟨piece, hPiece, hName⟩))
      rcases List.forall_mem_append.mp hInside with
        ⟨hBody, hOther⟩
      rcases hElements with ⟨value, hValue⟩
      rcases hHolds.elements value hValue with
        ⟨objects, rfl⟩
      have hObjects :
          context.lookup "elements" =
            some (.list (objects.map .object)) :=
        hValue
      cases objects with
      | nil =>
          rw [Section.references, hObjects]
          refine List.forall_mem_cons.mpr ⟨⟨_, hValue⟩, ?_⟩
          refine isMet_of_mem_pieces hOther
            fun piece hPiece => ?_
          rw [(hSubstitute piece hPiece).2]
          exact List.forall_mem_nil _
      | cons first rest =>
          rw [references_repeated hObjects
            (List.cons_ne_nil _ _)]
          refine List.forall_mem_cons.mpr ⟨⟨_, hValue⟩, ?_⟩
          refine List.forall_mem_flatMap.mpr
            fun item hItem => ?_
          rcases List.mem_map.mp hItem with
            ⟨object, hObject, rfl⟩
          refine isMet_of_mem_pieces hBody
            fun piece hPiece name hName => ?_
          exact hFurnished.elements _ hObjects object
            hObject name (hAttributes name
              (List.mem_flatMap.mpr ⟨piece,
                List.mem_append_left substitute hPiece,
                hName⟩))

/-
  The references of a regular template are met exactly in
  the contexts that have all it refers to.
-/
theorem IsRegular.references_met_iff
    (hRegular : template.IsRegular)
    (hHolds : HoldsElements context) :
    (∀ reference ∈ template.references context,
        reference.IsMet context) ↔
      template.IsFurnished context :=
  ⟨fun hMet =>
      ⟨fun _ hName => hRegular.isMet_variable hMet hName,
        fun _ hObjects _ hObject _ hName =>
          hRegular.isMet_member hMet hObjects hObject hName⟩,
    fun hFurnished =>
      hFurnished.references_met hRegular hHolds⟩

/- A piece looks up its own attributes in its item. -/
theorem owner_eq_of_mem_references
    {piece : Piece}
    {item owner : Value}
    {name : String}
    (hMember :
      Reference.member owner name ∈
        piece.references item) :
    owner = item ∧ name ∈ piece.attributeNames := by
  rcases piece with text | other | other
  · exact absurd hMember List.not_mem_nil
  · have hSame := List.mem_singleton.mp hMember
    contradiction
  · have hSame := List.mem_singleton.mp hMember
    injection hSame with hOwner hName
    rw [hName]
    exact ⟨hOwner, List.mem_singleton_self other⟩

/- Attributes are looked up in elements only. -/
theorem IsRegular.exists_owner
    (hRegular : template.IsRegular)
    (hHolds : HoldsElements context)
    {owner : Value}
    {name : String}
    (hMember :
      Reference.member owner name ∈
        template.references context) :
    ∃ object : Fields, owner = .object object := by
  rcases List.mem_flatMap.mp hMember with
    ⟨part, hPart, hHere⟩
  have hPartRegular := hRegular part hPart
  cases part with
  | single piece =>
      have hName := (owner_eq_of_mem_references hHere).2
      rw [hPartRegular.1] at hName
      exact absurd hName List.not_mem_nil
  | repeated list body substitute =>
      rcases hPartRegular with ⟨rfl, _, hSubstitute⟩
      rcases List.mem_cons.mp hHere with hList | hLine
      · contradiction
      · cases hValue : context.lookup "elements" with
        | none => simp [hValue] at hLine
        | some value =>
            rcases hHolds.elements value hValue with
              ⟨objects, rfl⟩
            rw [hValue] at hLine
            cases objects with
            | nil =>
                rcases List.mem_flatMap.mp hLine with
                  ⟨piece, hPiece, hNamed⟩
                have hName :=
                  (owner_eq_of_mem_references hNamed).2
                rw [(hSubstitute piece hPiece).2] at hName
                exact absurd hName List.not_mem_nil
            | cons first rest =>
                rcases List.mem_flatMap.mp hLine with
                  ⟨item, hItem, hPieces⟩
                rcases List.mem_map.mp hItem with
                  ⟨object, _, rfl⟩
                rcases List.mem_flatMap.mp hPieces with
                  ⟨piece, _, hNamed⟩
                exact ⟨object,
                  (owner_eq_of_mem_references hNamed).1⟩

------------------------------------------------------------
-- Agreement
------------------------------------------------------------

/-
  Elements that are alike in some attributes: none on either
  side, or two lists of objects that agree one by one.
-/
inductive SameElements (attributes : List String) :
    Option Value → Option Value → Prop where
  | absent : SameElements attributes none none
  | present
      {left right : List Fields}
      (hSame :
        List.Forall₂
          (fun first second =>
            ∀ name ∈ attributes,
              first.lookup name = second.lookup name)
          left right) :
      SameElements attributes
        (some (.list (left.map .object)))
        (some (.list (right.map .object)))

/- Contexts that are alike in all a template refers to. -/
structure Agrees
    (template : Template)
    (left right : Fields) :
    Prop where
  outside :
    ∀ name ∈ template.variableNames,
      name ≠ "elements" →
        left.lookup name = right.lookup name
  elements :
    "elements" ∈ template.variableNames →
      SameElements template.attributeNames
        (left.lookup "elements") (right.lookup "elements")

/- Parts that are rendered alike make one text. -/
theorem renderAll_congr
    {α β : Type}
    {first : α → Except RenderError String}
    {second : β → Except RenderError String}
    {left : List α}
    {right : List β}
    (hSame :
      List.Forall₂
        (fun here there => first here = second there)
        left right) :
    renderAll first left = renderAll second right := by
  induction hSame with
  | nil => rfl
  | cons hPart hRest ih =>
      rw [renderAll, renderAll, hPart, ih]

variable {left right : Fields}

/- A piece prints its variable or its attribute only. -/
theorem Piece.render_congr
    {piece : Piece}
    {first second : Value}
    (hVariables :
      ∀ name ∈ piece.variableNames,
        left.lookup name = right.lookup name)
    (hAttributes :
      ∀ name ∈ piece.attributeNames,
        lookAttribute first name =
          lookAttribute second name) :
    piece.render left first = piece.render right second := by
  rcases piece with text | name | name
  · rfl
  · unfold Piece.render lookVariable
    simp only [hVariables name
      (List.mem_singleton_self name)]
  · unfold Piece.render
    simp only [hAttributes name
      (List.mem_singleton_self name)]

theorem lookAttribute_congr
    {first second : Fields}
    {name : String}
    (hSame : first.lookup name = second.lookup name) :
    lookAttribute (.object first) name =
      lookAttribute (.object second) name := by
  unfold lookAttribute
  simp only [hSame]
  rfl

/- A line for elements is the same for elements alike. -/
theorem renderAll_elements_congr
    {body : List Piece}
    {attributes : List String}
    {first second : List Fields}
    (hVariables :
      ∀ piece ∈ body, ∀ name ∈ piece.variableNames,
        left.lookup name = right.lookup name)
    (hAttributes :
      ∀ piece ∈ body, ∀ name ∈ piece.attributeNames,
        name ∈ attributes)
    (hSame :
      List.Forall₂
        (fun here there =>
          ∀ name ∈ attributes,
            here.lookup name = there.lookup name)
        first second) :
    renderAll
        (fun item => renderAll (Piece.render left item) body)
        (first.map Value.object) =
      renderAll
        (fun item => renderAll (Piece.render right item) body)
        (second.map Value.object) := by
  apply renderAll_congr
  rw [List.forall₂_map_left_iff, List.forall₂_map_right_iff]
  refine hSame.imp fun here there hAlike => ?_
  apply renderAll_congr
  refine List.forall₂_same.mpr fun piece hPiece => ?_
  refine Piece.render_congr (hVariables piece hPiece)
    fun name hName => ?_
  exact lookAttribute_congr
    (hAlike name (hAttributes piece hPiece name hName))

/-
  A regular template is rendered alike in contexts that
  agree on what it refers to.
-/
theorem IsRegular.render_congr
    (hRegular : template.IsRegular)
    (hLeft : "self" ∉ left.map Prod.fst)
    (hRight : "self" ∉ right.map Prod.fst)
    (hAgrees : template.Agrees left right) :
    template.render left = template.render right := by
  rw [render_eq_renderAll hLeft, render_eq_renderAll hRight]
  apply renderAll_congr
  refine List.forall₂_same.mpr fun part hPart => ?_
  have hPartRegular := hRegular part hPart
  have hNames :
      ∀ name ∈ part.variableNames,
        name ≠ "elements" →
          left.lookup name = right.lookup name :=
    fun name hName => hAgrees.outside name
      (List.mem_flatMap.mpr ⟨part, hPart, hName⟩)
  cases part with
  | single piece =>
      refine Piece.render_congr (fun name hName => ?_) ?_
      · refine hNames name hName ?_
        rintro rfl
        exact hPartRegular.2 hName
      · rw [hPartRegular.1]
        exact List.forall_mem_nil _
  | repeated list body substitute =>
      rcases hPartRegular with ⟨rfl, hBody, hSubstitute⟩
      have hSame := hAgrees.elements
        (List.mem_flatMap.mpr
          ⟨_, hPart, List.mem_cons_self⟩)
      have hInside :
          ∀ piece ∈ body, ∀ name ∈ piece.variableNames,
            left.lookup name = right.lookup name :=
        fun piece hPiece name hName =>
          hNames name
            (List.mem_cons_of_mem _ (List.mem_flatMap.mpr
              ⟨piece, List.mem_append_left _ hPiece,
                hName⟩))
            (hBody piece hPiece name hName).2
      have hAttributes :
          ∀ piece ∈ body, ∀ name ∈ piece.attributeNames,
            name ∈ template.attributeNames :=
        fun piece hPiece name hName =>
          List.mem_flatMap.mpr ⟨_, hPart,
            List.mem_flatMap.mpr
              ⟨piece, List.mem_append_left _ hPiece,
                hName⟩⟩
      simp only [Section.render, lookVariable]
      generalize left.lookup "elements" = first at hSame ⊢
      generalize right.lookup "elements" = second
        at hSame ⊢
      cases hSame with
      | absent => rfl
      | present hAlike =>
          have hLines :=
            renderAll_elements_congr hInside hAttributes
              hAlike
          cases hAlike with
          | cons hFirst hRest => exact hLines
          | nil =>
              apply renderAll_congr
              refine List.forall₂_same.mpr
                fun piece hPiece => ?_
              rcases hSubstitute piece hPiece with
                ⟨hNoVariables, hNoAttributes⟩
              refine Piece.render_congr ?_ ?_
              · rw [hNoVariables]
                exact List.forall_mem_nil _
              · rw [hNoAttributes]
                exact List.forall_mem_nil _

end Template

end Aggregation
