import Aggregation.Proofs.Run.Steps

/-
  What the work on one component depends on.

  The work on a site reads and writes the entries of its own
  files only.  Where these are the same, it has the same
  outcome and leaves the same entries.

  Key definitions include:
    * `AgreeAt`
    * `Stage.IsOf`

  Key theorems include:
    * `emitAll_agreeAt`
    * `Stage.step_writtenAt`
    * `Stage.finish_agreeAt`
-/

------------------------------------------------------------
-- Files
------------------------------------------------------------

namespace Aggregation

open Disk (FileTree Location Slot Store Viewer)

/- Two trees have the same entries at the slots of files. -/
def AgreeAt
    (files : List Placed)
    (left right : FileTree) :
    Prop :=
  ∀ placed ∈ files,
    right.node? placed.slot.place =
      left.node? placed.slot.place

variable {viewer : Viewer}
variable {skipUnchanged : Bool}
variable {placed : Placed}
variable {files others : List Placed}
variable {left right : Store}

/- Saving at a slot depends on its entry only. -/
theorem save_of_entry_eq
    {slot : Slot}
    {content : String}
    (hFreeLeft : left.tree.IsLinkFree)
    (hFreeRight : right.tree.IsLinkFree)
    (hLeft : slot.IsIn left.tree viewer)
    (hRight : slot.IsIn right.tree viewer)
    (hEntry :
      right.tree.node? slot.place =
        left.tree.node? slot.place) :
    let first :=
      left.save viewer skipUnchanged slot.path content
    let second :=
      right.save viewer skipUnchanged slot.path content
    second.2 = first.2 ∧
      second.1.tree.node? slot.place =
        first.1.tree.node? slot.place := by
  rcases Slot.save_path hFreeLeft hLeft skipUnchanged
      content with
    ⟨hFirst, hFirstChanged⟩
  rcases Slot.save_path hFreeRight hRight skipUnchanged
      content with
    ⟨hSecond, hSecondChanged⟩
  rw [hEntry] at hSecond hSecondChanged
  exact ⟨hSecond.trans hFirst.symm,
    hSecondChanged.here.trans hFirstChanged.here.symm⟩

/- Generating a file depends on its entry only. -/
theorem emit_of_entry_eq
    (hFreeLeft : left.tree.IsLinkFree)
    (hFreeRight : right.tree.IsLinkFree)
    (hLeft : placed.slot.IsIn left.tree viewer)
    (hRight : placed.slot.IsIn right.tree viewer)
    (hEntry :
      right.tree.node? placed.slot.place =
        left.tree.node? placed.slot.place) :
    let first :=
      placed.output.emit viewer skipUnchanged left
    let second :=
      placed.output.emit viewer skipUnchanged right
    second.2 = first.2 ∧
      second.1.tree.node? placed.slot.place =
        first.1.tree.node? placed.slot.place := by
  cases hText : placed.output.template.render
      placed.output.context with
  | error error =>
      rw [Placed.emit_of_error hText,
        Placed.emit_of_error hText]
      exact ⟨rfl, hEntry⟩
  | ok text =>
      rw [Placed.emit_of_render hText,
        Placed.emit_of_render hText]
      rcases save_of_entry_eq hFreeLeft hFreeRight hLeft
          hRight hEntry with
        ⟨hAnswer, hAfter⟩
      exact ⟨congrArg placed.output.answer hAnswer, hAfter⟩

/- Generating one of several files keeps their agreement. -/
theorem emit_agreeAt
    (hLeft : Ready viewer files left.tree)
    (hRight : Ready viewer files right.tree)
    (hAgree : AgreeAt files left.tree right.tree)
    (hPlaced : placed ∈ files) :
    let first :=
      placed.output.emit viewer skipUnchanged left
    let second :=
      placed.output.emit viewer skipUnchanged right
    second.2 = first.2 ∧
      AgreeAt files first.1.tree second.1.tree := by
  have hSlotLeft := hLeft.inside placed hPlaced
  have hSlotRight := hRight.inside placed hPlaced
  rcases emit_of_entry_eq hLeft.linkFree hRight.linkFree
      hSlotLeft hSlotRight (hAgree placed hPlaced) with
    ⟨hAnswer, hEntry⟩
  refine ⟨hAnswer, ?_⟩
  intro other hOther
  by_cases hPlace : other.slot.place = placed.slot.place
  · rw [hPlace]
    exact hEntry
  · have hElsewhere :
        ¬placed.slot.IsPlace viewer other.slot.place :=
      fun hHere => hPlace hHere.2
    rw [(Placed.emit_writtenAt hLeft.linkFree hSlotLeft
        skipUnchanged).node?_eq hElsewhere,
      (Placed.emit_writtenAt hRight.linkFree hSlotRight
        skipUnchanged).node?_eq hElsewhere]
    exact hAgree other hOther

/- Files in turn are generated as where entries agree. -/
theorem emitAll_agreeAt
    (hLeft : Ready viewer files left.tree)
    (hRight : Ready viewer files right.tree)
    (hAgree : AgreeAt files left.tree right.tree)
    (hOthers : ∀ placed ∈ others, placed ∈ files) :
    let first :=
      emitAll viewer skipUnchanged left
        (others.map Placed.output)
    let second :=
      emitAll viewer skipUnchanged right
        (others.map Placed.output)
    second.2 = first.2 ∧
      AgreeAt files first.1.tree second.1.tree := by
  induction others generalizing left right with
  | nil => exact ⟨rfl, hAgree⟩
  | cons placed others ih =>
      have hPlaced := hOthers placed List.mem_cons_self
      rcases emit_agreeAt hLeft hRight hAgree hPlaced with
        ⟨hAnswer, hAfter⟩
      have hGrowsLeft :=
        (Placed.emit_writtenAt hLeft.linkFree
          (hLeft.inside placed hPlaced) skipUnchanged).grows
      have hGrowsRight :=
        (Placed.emit_writtenAt hRight.linkFree
          (hRight.inside placed hPlaced)
          skipUnchanged).grows
      rcases ih (hLeft.grows hGrowsLeft)
          (hRight.grows hGrowsRight) hAfter
          (fun other hOther =>
            hOthers other
              (List.mem_cons_of_mem placed hOther)) with
        ⟨hAnswers, hFinal⟩
      simp only [List.map_cons, emitAll_cons, hAnswer,
        hAnswers]
      cases (placed.output.emit viewer skipUnchanged
          left).2 with
      | error failure => exact ⟨rfl, hAfter⟩
      | ok path => exact ⟨rfl, hFinal⟩

------------------------------------------------------------
-- Stages of a Site
------------------------------------------------------------

variable {settings : Settings}
variable {site : Site settings}
variable {store : Store}

/-
  A stage of the work on a site.  The files that are left
  are those after the files that are done.
-/
def Stage.IsOf (site : Site settings) : Stage → Prop
  | .writing _ done output left =>
      output :: left =
        (site.files.drop done.length).map Placed.output
  | _ => True

namespace Stage

theorem isOf_ofLeft
    {created : Bool}
    {done : List Path}
    {left : List Output}
    (hLeft :
      left =
        (site.files.drop done.length).map Placed.output) :
    (ofLeft created done left).IsOf site := by
  cases left with
  | nil => trivial
  | cons output left => exact hLeft

/- The next file that is left, with its slot. -/
theorem IsOf.exists_placed
    {created : Bool}
    {done : List Path}
    {output : Output}
    {left : List Output}
    (hOf : (writing created done output left).IsOf site) :
    ∃ placed ∈ site.files,
      placed.output = output ∧
        site.files.take (done.length + 1) =
          site.files.take done.length ++ [placed] ∧
        left =
          (site.files.drop (done.length + 1)).map
            Placed.output := by
  have hLeft :
      output :: left =
        (site.files.drop done.length).map Placed.output :=
    hOf
  cases hDrop : site.files.drop done.length with
  | nil => simp [hDrop] at hLeft
  | cons placed rest =>
      rw [hDrop, List.map_cons] at hLeft
      injection hLeft with hOutput hRest
      have hTail :
          site.files.drop (done.length + 1) = rest := by
        rw [← List.drop_drop, hDrop]
        rfl
      have hMem : placed ∈ site.files :=
        List.mem_of_mem_drop
          (hDrop ▸ List.mem_cons_self)
      refine ⟨placed, hMem, hOutput.symm, ?_, ?_⟩
      · rw [List.take_add, hDrop]
        rfl
      · rw [hTail]
        exact hRest

/- A step leads to a stage of the same site. -/
theorem step_isOf
    {stage : Stage}
    (hOf : stage.IsOf site) :
    (stage.step viewer settings site.component
        store).2.IsOf site := by
  have hFiles :
      site.component.outputs settings =
        (site.files.drop 0).map Placed.output :=
    site.outputs_files.symm
  cases stage with
  | checking =>
      unfold step
      cases hasMarker store viewer settings
          site.component.directory with
      | error failure => trivial
      | ok marked =>
          cases marked with
          | true => exact isOf_ofLeft hFiles
          | false => trivial
  | marking =>
      unfold step
      simp only
      cases ((placeholderOutput settings
          site.component.directory).emit viewer
            settings.skipUnchanged store).2 with
      | error failure => trivial
      | ok path => exact isOf_ofLeft hFiles
  | writing created done output left =>
      rcases hOf.exists_placed with ⟨_, _, _, _, hLeft⟩
      unfold step
      simp only
      cases (output.emit viewer settings.skipUnchanged
          store).2 with
      | error failure => trivial
      | ok path =>
          apply isOf_ofLeft
          rw [List.length_append]
          exact hLeft
  | ended outcome => trivial

/- A step changes nothing but the entries of its site. -/
theorem step_writtenAt
    (hSite : site.IsIn viewer store.tree)
    {stage : Stage}
    (hOf : stage.IsOf site) :
    store.WrittenAt
      (stage.step viewer settings site.component store).1
      (IsPlaceOf viewer site.placed) := by
  cases stage with
  | checking => exact .refl store _
  | marking =>
      exact (site.marker.emit_writtenAt hSite.linkFree
        hSite.aggregation settings.skipUnchanged).mono
          fun _ => IsPlaceOf.head
  | writing created done output left =>
      rcases hOf.exists_placed with
        ⟨placed, hPlaced, rfl, _, _⟩
      exact (placed.emit_writtenAt hSite.linkFree
        (hSite.tail.inside placed hPlaced)
        settings.skipUnchanged).mono
          fun _ hPlace =>
            IsPlaceOf.tail ⟨placed, hPlaced, hPlace⟩
  | ended outcome => exact .refl store _

------------------------------------------------------------
-- Work on a Site
------------------------------------------------------------

/- Whether there is a marker shows in its entry. -/
theorem hasMarker_eq
    (hSite : site.IsIn viewer store.tree) :
    hasMarker store viewer settings
        site.component.directory =
      match site.isMarked viewer store.tree with
      | .error fault =>
          .error (.system site.aggregation.path fault)
      | .ok marked => .ok marked := by
  unfold hasMarker FileTree.exists?
  simp only [site.path_aggregation,
    Slot.test_path hSite.linkFree hSite.aggregation]
  rfl

/- What is left is written as where entries agree. -/
theorem finishFiles_agreeAt
    (hLeft : site.IsIn viewer left.tree)
    (hRight : site.IsIn viewer right.tree)
    (hAgree : AgreeAt site.placed left.tree right.tree)
    (created : Bool)
    (done : List Path)
    (hOthers : ∀ placed ∈ others, placed ∈ site.files) :
    let first :=
      finishFiles viewer settings created done left
        (others.map Placed.output)
    let second :=
      finishFiles viewer settings created done right
        (others.map Placed.output)
    second.2 = first.2 ∧
      AgreeAt site.placed first.1.tree second.1.tree := by
  rcases emitAll_agreeAt hLeft hRight hAgree
      (fun placed hPlaced =>
        List.mem_cons_of_mem site.marker
          (hOthers placed hPlaced)) with
    ⟨hAnswers, hAfter⟩
  exact ⟨congrArg (outcomeOf created done) hAnswers, hAfter⟩

/- Past the first test, work is as where entries agree. -/
theorem finish_agreeAt_of_ne_checking
    (hLeft : site.IsIn viewer left.tree)
    (hRight : site.IsIn viewer right.tree)
    (hAgree : AgreeAt site.placed left.tree right.tree)
    {stage : Stage}
    (hOf : stage.IsOf site)
    (hLater : stage ≠ .checking) :
    let first :=
      stage.finish viewer settings site.component left
    let second :=
      stage.finish viewer settings site.component right
    second.2 = first.2 ∧
      AgreeAt site.placed first.1.tree second.1.tree := by
  have hMarker : site.marker ∈ site.placed :=
    List.mem_cons_self
  cases stage with
  | checking => exact absurd rfl hLater
  | marking =>
      rcases emit_agreeAt hLeft hRight hAgree hMarker with
        ⟨hAnswer, hAfter⟩
      have hGrowsLeft :=
        (site.marker.emit_writtenAt hLeft.linkFree
          hLeft.aggregation settings.skipUnchanged).grows
      have hGrowsRight :=
        (site.marker.emit_writtenAt hRight.linkFree
          hRight.aggregation settings.skipUnchanged).grows
      have hFiles :=
        finishFiles_agreeAt (hLeft.grows hGrowsLeft)
          (hRight.grows hGrowsRight) hAfter true []
          (fun _ hPlaced => hPlaced)
      rw [site.outputs_files] at hFiles
      have hOutput :
          placeholderOutput settings
              site.component.directory =
            site.marker.output :=
        rfl
      unfold finish
      simp only [hOutput, hAnswer]
      cases (site.marker.output.emit viewer
          settings.skipUnchanged left).2 with
      | error failure => exact ⟨rfl, hAfter⟩
      | ok path => exact hFiles
  | writing created done output rest =>
      have hFiles :
          output :: rest =
            (site.files.drop done.length).map
              Placed.output :=
        hOf
      simp only [finish, hFiles]
      exact finishFiles_agreeAt hLeft hRight hAgree created
        done fun _ => List.mem_of_mem_drop
  | ended outcome => exact ⟨rfl, hAgree⟩

/- Work is finished as it is where the entries agree. -/
theorem finish_agreeAt
    (hLeft : site.IsIn viewer left.tree)
    (hRight : site.IsIn viewer right.tree)
    (hAgree : AgreeAt site.placed left.tree right.tree)
    {stage : Stage}
    (hOf : stage.IsOf site) :
    let first :=
      stage.finish viewer settings site.component left
    let second :=
      stage.finish viewer settings site.component right
    second.2 = first.2 ∧
      AgreeAt site.placed first.1.tree second.1.tree := by
  by_cases hFirst : stage = .checking
  · -- The test has one answer, so the same stage follows.
    subst hFirst
    have hEntry :
        right.tree.node? site.aggregation.place =
          left.tree.node? site.aggregation.place :=
      hAgree site.marker List.mem_cons_self
    have hMarked :
        site.isMarked viewer right.tree =
          site.isMarked viewer left.tree := by
      unfold Site.isMarked
      rw [hEntry]
    have hNext :
        (checking.step viewer settings site.component
            right).2 =
          (checking.step viewer settings site.component
            left).2 := by
      simp only [step, hasMarker_eq hLeft,
        hasMarker_eq hRight, hMarked]
    have hLater :
        (checking.step viewer settings site.component
            left).2 ≠ .checking := by
      intro hSame
      have hFewer :
          (checking.step viewer settings site.component
              left).2.remaining settings site.component <
            checking.remaining settings site.component :=
        remaining_step rfl
      rw [hSame] at hFewer
      exact Nat.lt_irrefl _ hFewer
    rw [finish_step site.component left .checking,
      finish_step site.component right .checking, hNext]
    exact finish_agreeAt_of_ne_checking hLeft hRight hAgree
      (step_isOf hOf) hLater
  · exact finish_agreeAt_of_ne_checking hLeft hRight hAgree
      hOf hFirst

end Stage

end Aggregation
