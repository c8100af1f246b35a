import Aggregation.Template.Shipped

/-
  What a template looks up while it is rendered.

  The references of a template are listed in the order of
  evaluation, with repetitions written out for the items at
  hand.  Rendering follows them one by one.  It ends with a
  text if all of them lead to a value, and otherwise with
  the error that names the first one that does not.

  Key definitions include:
    * `Reference`
    * `Template.references`
    * `Reports`

  Key theorems include:
    * `renderAll_reports`
    * `Template.render_reports`
-/

------------------------------------------------------------
-- References
------------------------------------------------------------

namespace Aggregation

/- Something that a template looks up. -/
inductive Reference where
  | entry (name : String)
  | member (owner : Value) (name : String)

namespace Reference

/- The value that a reference leads to. -/
def value? (context : Fields) : Reference → Option Value
  | .entry name => context.lookup name
  | .member (.object entries) name => entries.lookup name
  | .member _ _ => none

/- A reference leads to some value. -/
def IsMet (context : Fields) (reference : Reference) : Prop :=
  ∃ value, reference.value? context = some value

instance (context : Fields) (reference : Reference) :
    Decidable (reference.IsMet context) :=
  decidable_of_iff
    ((reference.value? context).isSome = true)
    Option.isSome_iff_exists

/- The error that names a reference. -/
def error : Reference → RenderError
  | .entry name => .missingVariable name
  | .member owner name =>
      .missingAttribute (ownerName owner) name

/- The value of a reference, or the error that names it. -/
def look (context : Fields) (reference : Reference) :
    Except RenderError Value :=
  match reference.value? context with
  | some value => .ok value
  | none => .error reference.error

end Reference

/- A variable is looked up in the context. -/
theorem lookVariable_eq_look
    (context : Fields)
    (name : String) :
    lookVariable context name =
      (Reference.entry name).look context :=
  rfl

/- An attribute is looked up in its owner. -/
theorem lookAttribute_eq_look
    (context : Fields)
    (owner : Value)
    (name : String) :
    lookAttribute owner name =
      (Reference.member owner name).look context := by
  cases owner with
  | object entries => rfl
  | null => rfl
  | bool value => rfl
  | int value => rfl
  | double value => rfl
  | text value => rfl
  | list items => rfl

/- References of a piece that is printed for an item. -/
def Piece.references (item : Value) : Piece → List Reference
  | .fixed _ => []
  | .value name => [.entry name]
  | .attribute name => [.member item name]

/- References of a section, with its repetition unrolled. -/
def Section.references (context : Fields) :
    Section → List Reference
  | .single piece => piece.references .null
  | .repeated list body substitute =>
      .entry list ::
        match context.lookup list with
        | some (.list []) =>
            substitute.flatMap (Piece.references .null)
        | some (.list items) =>
            items.flatMap fun item =>
              body.flatMap (Piece.references item)
        | _ => []

/- References of a template in the order of evaluation. -/
def Template.references
    (template : Template)
    (context : Fields) :
    List Reference :=
  template.flatMap (Section.references context)

------------------------------------------------------------
-- Reports
------------------------------------------------------------

/-
  An outcome that reports on references in their order: a
  text if all are met, or the error of the first that is
  not.
-/
inductive Reports
    (context : Fields)
    (references : List Reference) :
    Except RenderError String → Prop where
  | rendered
      {text : String}
      (hMet :
        ∀ reference ∈ references, reference.IsMet context) :
      Reports context references (.ok text)
  | missing
      {before after : List Reference}
      {reference : Reference}
      (hReferences :
        references = before ++ reference :: after)
      (hBefore :
        ∀ earlier ∈ before, earlier.IsMet context)
      (hMissing : ¬ reference.IsMet context) :
      Reports context references (.error reference.error)

namespace Reports

variable {context : Fields}
variable {references others : List Reference}
variable {text : String}
variable {error : RenderError}

/- A text is an answer to references that are all met. -/
theorem all_isMet
    (hReports : Reports context references (.ok text)) :
    ∀ reference ∈ references, reference.IsMet context := by
  cases hReports with
  | rendered hMet => exact hMet

/- An error names the first reference that is not met. -/
theorem exists_first
    (hReports : Reports context references (.error error)) :
    ∃ before reference after,
      references = before ++ reference :: after ∧
        (∀ earlier ∈ before, earlier.IsMet context) ∧
        ¬ reference.IsMet context ∧
        error = reference.error := by
  cases hReports with
  | missing hReferences hBefore hMissing =>
      exact ⟨_, _, _, hReferences, hBefore, hMissing, rfl⟩

/- The first reference that is not met decides. -/
theorem eq_error
    {outcome : Except RenderError String}
    (hReports : Reports context references outcome)
    {before after : List Reference}
    {reference : Reference}
    (hReferences :
      references = before ++ reference :: after)
    (hBefore : ∀ earlier ∈ before, earlier.IsMet context)
    (hMissing : ¬ reference.IsMet context) :
    outcome = .error reference.error := by
  subst hReferences
  cases hReports with
  | rendered hMet =>
      exact absurd
        (hMet reference List.mem_append_cons_self) hMissing
  | @missing first rest found hSame hFirst hFound =>
      rcases List.append_eq_append_iff.mp hSame with
        ⟨between, hLonger, hTail⟩ |
          ⟨between, hLonger, hTail⟩
      · cases between with
        | nil =>
            injection hTail with hReference
            rw [hReference]
        | cons next more =>
            injection hTail with hNext
            refine absurd (hFirst reference ?_) hMissing
            rw [hLonger, hNext]
            exact List.mem_append_cons_self
      · cases between with
        | nil =>
            injection hTail with hReference
            rw [hReference]
        | cons next more =>
            injection hTail with hNext
            refine absurd (hBefore found ?_) hFound
            rw [hLonger, hNext]
            exact List.mem_append_cons_self

/- What comes after a missing reference does not matter. -/
theorem append_error
    (hReports : Reports context references (.error error))
    (others : List Reference) :
    Reports context (references ++ others)
      (.error error) := by
  cases hReports with
  | @missing before after reference hSame hBefore hMissing =>
      have hLonger :
          references ++ others =
            before ++ reference :: (after ++ others) := by
        rw [hSame, List.append_assoc, List.cons_append]
      exact .missing hLonger hBefore hMissing

/- References that are met go before others. -/
theorem append_met
    (hMet :
      ∀ reference ∈ references, reference.IsMet context)
    {outcome : Except RenderError String}
    (hReports : Reports context others outcome) :
    Reports context (references ++ others) outcome := by
  cases hReports with
  | rendered hOthers =>
      exact .rendered (List.forall_mem_append.mpr
        ⟨hMet, hOthers⟩)
  | @missing before after reference hSame hBefore hMissing =>
      have hLonger :
          references ++ others =
            (references ++ before) ++ reference :: after := by
        rw [hSame, List.append_assoc]
      exact .missing hLonger
        (List.forall_mem_append.mpr ⟨hMet, hBefore⟩)
        hMissing

/- A text can be worked on. -/
theorem map
    {outcome : Except RenderError String}
    (hReports : Reports context references outcome)
    (change : String → String) :
    Reports context references (outcome.map change) := by
  cases hReports with
  | rendered hMet => exact .rendered hMet
  | missing hSame hBefore hMissing =>
      exact .missing hSame hBefore hMissing

/- The text of one value reports on its reference. -/
theorem ofLook
    (context : Fields)
    (reference : Reference)
    (text : Value → String) :
    Reports context [reference]
      ((reference.look context).map text) := by
  unfold Reference.look
  cases hValue : reference.value? context with
  | some value =>
      exact .rendered
        (List.forall_mem_singleton.mpr ⟨value, hValue⟩)
  | none =>
      have hOnly : [reference] = [] ++ reference :: [] := rfl
      refine .missing hOnly (List.forall_mem_nil _) ?_
      rintro ⟨value, hSome⟩
      rw [hValue] at hSome
      contradiction

end Reports

------------------------------------------------------------
-- Rendering
------------------------------------------------------------

variable {context : Fields}

/- Parts report one after the other. -/
theorem renderAll_reports
    {α : Type}
    {render : α → Except RenderError String}
    {references : α → List Reference}
    {parts : List α}
    (hParts :
      ∀ part ∈ parts,
        Reports context (references part) (render part)) :
    Reports context (parts.flatMap references)
      (renderAll render parts) := by
  induction parts with
  | nil => exact .rendered (List.forall_mem_nil _)
  | cons part rest ih =>
      rcases List.forall_mem_cons.mp hParts with
        ⟨hPart, hRest⟩
      rw [List.flatMap_cons, renderAll]
      cases hRender : render part with
      | error error =>
          rw [hRender] at hPart
          exact hPart.append_error _
      | ok text =>
          rw [hRender] at hPart
          exact .append_met hPart.all_isMet
            ((ih hRest).map _)

/- A piece reports on its reference, if it has one. -/
theorem Piece.render_reports
    (context : Fields)
    (item : Value)
    (piece : Piece) :
    Reports context (piece.references item)
      (piece.render context item) := by
  rcases piece with text | name | name
  · exact .rendered (List.forall_mem_nil _)
  · unfold Piece.render
    simp only [lookVariable_eq_look]
    exact .ofLook context (.entry name) Value.shown
  · unfold Piece.render
    simp only [lookAttribute_eq_look context]
    exact .ofLook context (.member item name) Value.shown

/-
  A repetition is over a list, if its variable is there at
  all.
-/
def Section.RepeatsList (context : Fields) : Section → Prop
  | .single _ => True
  | .repeated list _ _ =>
      ∀ value,
        context.lookup list = some value →
          ∃ items, value = .list items

/- A section reports on its variable and on its items. -/
theorem Section.render_reports
    {part : Section}
    (hList : part.RepeatsList context) :
    Reports context (part.references context)
      (part.render context) := by
  cases part with
  | single piece =>
      exact Piece.render_reports context .null piece
  | repeated list body substitute =>
      have hVariable :=
        Reports.ofLook context (.entry list) Value.shown
      simp only [Section.render, Section.references,
        lookVariable_eq_look]
      unfold Reference.look at hVariable ⊢
      cases hValue : context.lookup list with
      | none =>
          simp only [Reference.value?, hValue]
            at hVariable ⊢
          exact hVariable
      | some value =>
          rcases hList value hValue with ⟨items, rfl⟩
          simp only [Reference.value?, hValue]
            at hVariable ⊢
          refine Reports.append_met hVariable.all_isMet ?_
          cases items with
          | nil =>
              exact renderAll_reports fun piece _ =>
                Piece.render_reports context .null piece
          | cons first rest =>
              exact renderAll_reports fun item _ =>
                renderAll_reports fun piece _ =>
                  Piece.render_reports context item piece

/- A template is rendered section by section. -/
theorem Template.render_eq_renderAll
    (hUnreserved : "self" ∉ context.map Prod.fst)
    (template : Template) :
    template.render context =
      renderAll (Section.render context) template := by
  unfold Template.render
  apply if_neg
  rw [Bool.not_eq_true, List.any_eq_false]
  intro entry hEntry hName
  apply hUnreserved
  rw [← beq_iff_eq.mp hName]
  exact List.mem_map_of_mem hEntry

/-
  A template reports on its references, as long as no
  variable has the reserved name and its repetitions are
  over lists.
-/
theorem Template.render_reports
    {template : Template}
    (hUnreserved : "self" ∉ context.map Prod.fst)
    (hLists :
      ∀ part ∈ template, part.RepeatsList context) :
    Reports context (template.references context)
      (template.render context) := by
  rw [Template.render_eq_renderAll hUnreserved]
  exact renderAll_reports fun part hPart =>
    Section.render_reports (hLists part hPart)

end Aggregation
