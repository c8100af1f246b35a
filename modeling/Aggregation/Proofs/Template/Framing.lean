import Aggregation.Proofs.Template.References

/-
  How rendered texts start and end.

  A template that opens with a variable and ends with a
  fixed text passes both on, whatever it is rendered with.
  A repetition ends like its lines, or like its substitute
  if there are none.

  Key definitions include:
    * `EndsInFixed`
    * `Section.EndsWith`

  Key theorems include:
    * `Template.render_opening`
    * `Template.render_endsWith`
-/

------------------------------------------------------------
-- Parts
------------------------------------------------------------

namespace Aggregation

variable {α : Type}
variable {render : α → Except RenderError String}
variable {text : String}

/- A text of several parts starts with that of the first. -/
theorem renderAll_cons_eq_ok
    {part : α}
    {rest : List α}
    (hRender : renderAll render (part :: rest) = .ok text) :
    ∃ first others,
      render part = .ok first ∧
        renderAll render rest = .ok others ∧
        text = first ++ others := by
  rw [renderAll] at hRender
  cases hPart : render part with
  | error error => simp [hPart] at hRender
  | ok first =>
      simp only [hPart] at hRender
      cases hRest : renderAll render rest with
      | error error => simp [hRest, Except.map] at hRender
      | ok others =>
          simp only [hRest, Except.map] at hRender
          injection hRender with hText
          exact ⟨first, others, rfl, rfl, hText.symm⟩

/- A text of several parts ends with that of the last. -/
theorem renderAll_concat_eq_ok
    {front : List α}
    {last : α}
    (hRender :
      renderAll render (front ++ [last]) = .ok text) :
    ∃ before final,
      render last = .ok final ∧ text = before ++ final := by
  induction front generalizing text with
  | nil =>
      rcases renderAll_cons_eq_ok hRender with
        ⟨final, others, hLast, hNone, hText⟩
      injection hNone with hEmpty
      refine ⟨"", final, hLast, ?_⟩
      rw [hText, ← hEmpty, String.append_empty,
        String.empty_append]
  | cons part rest ih =>
      rcases renderAll_cons_eq_ok hRender with
        ⟨first, others, _, hOthers, hText⟩
      rcases ih hOthers with
        ⟨before, final, hLast, hRest⟩
      refine ⟨first ++ before, final, hLast, ?_⟩
      rw [hText, hRest, String.append_assoc]

------------------------------------------------------------
-- Ends
------------------------------------------------------------

/- The last of some pieces is a fixed text with an end. -/
def EndsInFixed
    (finish : String)
    (pieces : List Piece) :
    Prop :=
  ∃ front start,
    pieces = front ++ [.fixed (start ++ finish)]

/- All texts of a section have an end. -/
def Section.EndsWith (finish : String) : Section → Prop
  | .single piece =>
      ∃ start, piece = .fixed (start ++ finish)
  | .repeated _ body substitute =>
      EndsInFixed finish body ∧
        EndsInFixed finish substitute

variable {context : Fields}
variable {finish : String}

theorem EndsInFixed.renderAll_eq
    {pieces : List Piece}
    (hEnds : EndsInFixed finish pieces)
    {item : Value}
    (hRender :
      renderAll (Piece.render context item) pieces =
        .ok text) :
    ∃ before, text = before ++ finish := by
  rcases hEnds with ⟨front, start, rfl⟩
  rcases renderAll_concat_eq_ok hRender with
    ⟨before, final, hFinal, hText⟩
  injection hFinal with hStart
  refine ⟨before ++ start, ?_⟩
  rw [hText, ← hStart, String.append_assoc]

/- What a section prints ends like its fixed texts. -/
theorem Section.EndsWith.render_eq
    {part : Section}
    (hEnds : part.EndsWith finish)
    (hRender : part.render context = .ok text) :
    ∃ before, text = before ++ finish := by
  cases part with
  | single piece =>
      rcases hEnds with ⟨start, rfl⟩
      injection hRender with hText
      exact ⟨start, hText.symm⟩
  | repeated list body substitute =>
      rcases hEnds with ⟨hBody, hSubstitute⟩
      rw [Section.render] at hRender
      cases hValue : lookVariable context list with
      | error error => simp [hValue] at hRender
      | ok value =>
          simp only [hValue] at hRender
          cases hItems : itemsOf value with
          | error error => simp [hItems] at hRender
          | ok items =>
              simp only [hItems] at hRender
              cases items with
              | nil => exact hSubstitute.renderAll_eq hRender
              | cons item rest =>
                  have hLines :
                      renderAll
                          (fun item =>
                            renderAll
                              (Piece.render context item)
                              body)
                          (item :: rest) =
                        .ok text :=
                    hRender
                  -- Only the line of the last item matters.
                  rw [← List.dropLast_concat_getLast
                    (List.cons_ne_nil item rest)] at hLines
                  rcases renderAll_concat_eq_ok hLines with
                    ⟨before, line, hLine, hText⟩
                  rcases hBody.renderAll_eq hLine with
                    ⟨start, hStart⟩
                  refine ⟨before ++ start, ?_⟩
                  rw [hText, hStart, String.append_assoc]

------------------------------------------------------------
-- Templates
------------------------------------------------------------

namespace Template

/- A template that is rendered is rendered by sections. -/
theorem renderAll_of_render
    {template : Template}
    (hRender : template.render context = .ok text) :
    renderAll (Section.render context) template =
      .ok text := by
  unfold Template.render at hRender
  split at hRender
  · contradiction
  · exact hRender

/- What a template prints ends like its last section. -/
theorem render_endsWith
    {front : Template}
    {last : Section}
    (hEnds : last.EndsWith finish)
    (hRender :
      Template.render (front ++ [last]) context = .ok text) :
    ∃ before, text = before ++ finish := by
  rcases renderAll_concat_eq_ok
      (renderAll_of_render hRender) with
    ⟨before, final, hFinal, hText⟩
  rcases hEnds.render_eq hFinal with ⟨start, hStart⟩
  refine ⟨before ++ start, ?_⟩
  rw [hText, hStart, String.append_assoc]

/- A variable that opens a template opens its text. -/
theorem render_opening
    {name start more : String}
    {rest : Template}
    (hRender :
      Template.render
          (shows name :: fixed (start ++ more) :: rest)
          context =
        .ok text) :
    ∃ value after,
      context.lookup name = some value ∧
        text = value.shown ++ start ++ after := by
  rcases renderAll_cons_eq_ok
      (renderAll_of_render hRender) with
    ⟨opening, others, hOpening, hOthers, hText⟩
  rcases renderAll_cons_eq_ok hOthers with
    ⟨second, later, hSecond, _, hMore⟩
  injection hSecond with hStart
  cases hValue : context.lookup name with
  | none =>
      simp [shows, Section.render, Piece.render,
        lookVariable, hValue, Except.map] at hOpening
  | some value =>
      simp only [shows, Section.render, Piece.render,
        lookVariable, hValue, Except.map] at hOpening
      injection hOpening with hShown
      refine ⟨value, more ++ later, rfl, ?_⟩
      rw [hText, hMore, ← hShown, ← hStart]
      simp only [String.append_assoc]

end Template

end Aggregation
