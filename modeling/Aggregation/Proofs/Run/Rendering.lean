import Aggregation.Proofs.Emission.Furnishing
import Aggregation.Proofs.Run.Site

/-
  Rendering in the course of a run.

  The shipped templates are strict, and no file that is
  generated for a component ever trips them.  So whatever
  fails when files are written, it is not their rendering.

  Key theorems include:
    * `Output.IsFramed.emit_ne_rendering`
    * `emitAll_ne_rendering`
    * `ensureMarker_ne_rendering`
    * `shipped_isStrict`
-/

------------------------------------------------------------
-- Writing Files
------------------------------------------------------------

namespace Aggregation

open Disk (Store Viewer)

variable {viewer : Viewer}
variable {store : Store}
variable {skipUnchanged : Bool}
variable {header : String}

/- A file that is rendered meets no rendering error. -/
theorem Output.IsFramed.emit_ne_rendering
    {output : Output}
    (hFramed : output.IsFramed header)
    (error : RenderError) :
    (output.emit viewer skipUnchanged store).2 ≠
      .error (.rendering error) := by
  rcases hFramed.rendered with ⟨text, hText, _⟩
  unfold Output.emit
  simp only [hText]
  split
  · intro hSame
    injection hSame with hFailure
    unfold Failure.ofWriting at hFailure
    split at hFailure
    · contradiction
    · contradiction
  · intro hSame
    contradiction

/- Files that are rendered meet no rendering error. -/
theorem emitAll_ne_rendering
    {outputs : List Output}
    (hFramed :
      ∀ output ∈ outputs, output.IsFramed header)
    (error : RenderError) :
    (emitAll viewer skipUnchanged store outputs).2 ≠
      .error (.rendering error) := by
  induction outputs generalizing store with
  | nil => exact nofun
  | cons output rest ih =>
      rcases List.forall_mem_cons.mp hFramed with
        ⟨hOutput, hRest⟩
      intro hError
      rcases emitAll_cons_eq_error hError with
        hFirst | hLater
      · exact hOutput.emit_ne_rendering error hFirst
      · exact ih hRest hLater

/- A marker meets no rendering error. -/
theorem ensureMarker_ne_rendering
    (settings : Settings)
    (directory : Path)
    (error : RenderError) :
    (ensureMarker store viewer settings directory).2 ≠
      .error (.rendering error) := by
  intro hError
  rcases ensureMarker_missed hError with hTest | hEmit
  · simp only [hasMarker] at hTest
    split at hTest
    · injection hTest with hFailure
      contradiction
    · contradiction
  · have hFramed :=
      (placeholderOutput_isGiven settings
        directory).isFramed rfl
    exact hFramed.emit_ne_rendering error hEmit

------------------------------------------------------------
-- Strictness
------------------------------------------------------------

/-
  Each shipped template is rendered if and only if the
  context has all its variables and every element has its
  attributes; otherwise the error names the first that is
  missing, in the order of evaluation.  Nothing else in the
  context matters.  The contexts of all generated files have
  everything, so no file fails to be rendered, and each text
  has the header in front and one line feed at its end.
-/
theorem shipped_isStrict :
    (∀ entry ∈ Template.shipped,
      (∀ context,
        HoldsElements context →
          entry.2.IsStrict context
            (Template.renderNamed entry.1 context)) ∧
      ∀ left right,
        HoldsElements left →
        HoldsElements right →
        entry.2.Agrees left right →
          Template.renderNamed entry.1 left =
            Template.renderNamed entry.1 right) ∧
    ∀ settings directory names rootFile,
      (∀ output ∈
          generatedOutputs settings directory names
            rootFile,
          output.IsFramed settings.header) ∧
      ∀ viewer store error,
        (ensureMarker store viewer settings directory).2 ≠
            .error (.rendering error) ∧
          ((composedOutput settings directory names
              rootFile).emit viewer settings.skipUnchanged
              store).2 ≠
            .error (.rendering error) ∧
          (emitAll viewer settings.skipUnchanged store
              (barrelOutputs settings directory names)).2 ≠
            .error (.rendering error) := by
  constructor
  · intro entry hEntry
    have hRegular := Template.shipped_isRegular entry hEntry
    constructor
    · intro context hHolds
      rw [Template.renderNamed_shipped hEntry]
      exact hRegular.isStrict hHolds
    · intro left right hLeft hRight hAgrees
      rw [Template.renderNamed_shipped hEntry,
        Template.renderNamed_shipped hEntry]
      exact hRegular.render_congr hLeft.unreserved
        hRight.unreserved hAgrees
  · intro settings directory names rootFile
    have hFramed :=
      generatedOutputs_isFramed settings directory names
        rootFile
    refine ⟨hFramed, fun viewer store error => ?_⟩
    unfold generatedOutputs at hFramed
    simp only [List.forall_mem_cons] at hFramed
    rcases hFramed with
      ⟨_, hComposed, hIndex, hWrapper, _⟩
    refine ⟨ensureMarker_ne_rendering settings directory
        error, hComposed.emit_ne_rendering error, ?_⟩
    have hBarrel :
        ∀ output ∈ barrelOutputs settings directory names,
          output.IsFramed settings.header :=
      List.forall_mem_cons.mpr
        ⟨hIndex, List.forall_mem_singleton.mpr hWrapper⟩
    exact emitAll_ne_rendering hBarrel error

/-
  A context without the name of the component, in which the
  second element has no file.
-/
def gappedContext : Fields :=
  [("header", .text "// Generated."),
    ("type_name", .text "Part"),
    ("type_module", .text "./types"),
    ("root_alias", .text "Root"),
    ("elements_dir", .text "elements"),
    ("root_file", .text "button.svelte"),
    ("elements",
      .list
        [.object
          [("identifier", .text "Group"),
            ("file", .text "group.svelte")],
        .object [("identifier", .text "Item")]])]

/- A context with one element and no more than is needed. -/
def leanContext : Fields :=
  [("header", .text "// Generated."),
    ("elements",
      .list
        [.object
          [("identifier", .text "Group"),
            ("file", .text "group.svelte")]])]

/- The same context with more about it and its element. -/
def spareContext : Fields :=
  [("author", .null),
    ("elements",
      .list
        [.object
          [("file", .text "group.svelte"),
            ("size", .int 3),
            ("identifier", .text "Group")]]),
    ("header", .text "// Generated.")]

theorem shipped_isStrict_gappedContext :
    HoldsElements gappedContext ∧
      HoldsElements leanContext ∧
      HoldsElements spareContext ∧
      Template.barrelIndex.Agrees leanContext
        spareContext ∧
      Template.renderNamed "composed.ts.j2" gappedContext =
        .error (.missingAttribute "dict object" "file") ∧
      (∃ text,
        Template.renderNamed "barrel_index.ts.j2"
            leanContext =
          .ok text) ∧
      Template.renderNamed "barrel_index.ts.j2"
          leanContext =
        Template.renderNamed "barrel_index.ts.j2"
          spareContext := by
  have hGapped : HoldsElements gappedContext :=
    holdsElements_of_lookup (by decide)
      [[("identifier", .text "Group"),
          ("file", .text "group.svelte")],
        [("identifier", .text "Item")]]
      rfl
  have hLean : HoldsElements leanContext :=
    holdsElements_of_lookup (by decide)
      [[("identifier", .text "Group"),
        ("file", .text "group.svelte")]]
      rfl
  have hSpare : HoldsElements spareContext :=
    holdsElements_of_lookup (by decide)
      [[("file", .text "group.svelte"),
        ("size", .int 3),
        ("identifier", .text "Group")]]
      rfl
  have hFurnished :
      Template.barrelIndex.IsFurnished leanContext := by
    have hRegular : Template.barrelIndex.IsRegular := by
      decide
    exact (hRegular.references_met_iff hLean).mp
      (by decide +kernel)
  have hAgrees :
      Template.barrelIndex.Agrees leanContext
        spareContext := by
    constructor
    · intro name hName hOther
      have hNames : name ∈ ["header", "elements"] := hName
      simp only [List.mem_cons, List.not_mem_nil, or_false,
        hOther] at hNames
      rw [hNames]
      rfl
    · intro _
      refine .present (.cons (fun name hName => ?_) .nil)
      have hNames : name ∈ ["identifier", "file"] := hName
      simp only [List.mem_cons, List.not_mem_nil, or_false]
        at hNames
      rcases hNames with rfl | rfl
      · rfl
      · rfl
  have hComposed :=
    shipped_isStrict.1
      ("composed.ts.j2", Template.composed) (by decide)
  have hIndex :=
    shipped_isStrict.1
      ("barrel_index.ts.j2", Template.barrelIndex)
      (by decide)
  refine ⟨hGapped, hLean, hSpare, hAgrees, ?_,
    (hIndex.1 leanContext hLean).rendered_iff.mpr
      hFurnished,
    hIndex.2 leanContext spareContext hLean hSpare
      hAgrees⟩
  refine ((hComposed.1 gappedContext
    hGapped).missing_iff _).mpr ?_
  -- Twelve lookups succeed before the one that does not.
  refine
    ⟨(Template.composed.references gappedContext).take 12,
      .member (.object [("identifier", .text "Item")])
        "file",
      (Template.composed.references gappedContext).drop 13,
      rfl, ?_, ?_, .member _ _⟩
  · decide +kernel
  · decide

end Aggregation
