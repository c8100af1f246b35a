import Aggregation.Emission.Output
import Aggregation.Proofs.Disk.Repetition

/-
  Files that are generated at known slots.

  Files at different slots do not disturb each other, so a
  list of them is written as if each were alone.

  Key definitions include:
    * `Placed`
    * `Ready`
    * `IsPlaceOf`

  Key theorems include:
    * `emitAll_writtenAt`
    * `emitAll_isDone`
    * `emitAll_again`
-/

------------------------------------------------------------
-- Single Files
------------------------------------------------------------

namespace Aggregation

open Disk (Fault FileTree Location Slot Store Viewer)

/- A file to generate with the slot of its path. -/
structure Placed where
  output : Output
  slot : Slot
  path_eq : output.path = slot.path

/- A file is there as it was rendered. -/
def Placed.IsDone
    (placed : Placed)
    (viewer : Viewer)
    (tree : FileTree) :
    Prop :=
  placed.slot.reach viewer = .ok () ∧
    ∃ text permissions,
      placed.output.template.render placed.output.context =
          .ok text ∧
        tree.node? placed.slot.place =
          some (.file text.toUTF8 permissions)

/- What a request to write means for a generated file. -/
def Output.answer
    (output : Output) :
    Except Fault Bool → Except Failure Path
  | .error fault =>
      .error (Failure.ofWriting output.path fault)
  | .ok _ => .ok output.path

namespace Placed

variable {placed : Placed}
variable {store again : Store}
variable {viewer : Viewer}
variable {skipUnchanged : Bool}

/- A file that is rendered is saved at its slot. -/
theorem emit_of_render
    {text : String}
    (hText :
      placed.output.template.render placed.output.context =
        .ok text)
    (viewer : Viewer)
    (skipUnchanged : Bool)
    (store : Store) :
    placed.output.emit viewer skipUnchanged store =
      ((store.save viewer skipUnchanged placed.slot.path
          text).1,
        placed.output.answer
          (store.save viewer skipUnchanged placed.slot.path
            text).2) := by
  unfold Output.emit
  simp only [hText, placed.path_eq]
  split
  · rename_i after fault hSave
    rw [hSave]
    simp only [Output.answer, placed.path_eq]
  · rename_i after wrote hSave
    rw [hSave]
    simp only [Output.answer, placed.path_eq]

/- A file that is not rendered is not written. -/
theorem emit_of_error
    {error : RenderError}
    (hError :
      placed.output.template.render placed.output.context =
        .error error)
    (viewer : Viewer)
    (skipUnchanged : Bool)
    (store : Store) :
    placed.output.emit viewer skipUnchanged store =
      (store, .error (.rendering error)) := by
  unfold Output.emit
  simp only [hError]

/- A generated file changes nothing but its own entry. -/
theorem emit_writtenAt
    (hFree : store.tree.IsLinkFree)
    (hSlot : placed.slot.IsIn store.tree viewer)
    (skipUnchanged : Bool) :
    store.WrittenAt
      (placed.output.emit viewer skipUnchanged store).1
      (placed.slot.IsPlace viewer) := by
  cases hText : placed.output.template.render
      placed.output.context with
  | error error =>
      rw [emit_of_error hText]
      exact .refl store _
  | ok text =>
      rw [emit_of_render hText]
      exact Slot.save_writtenAt hFree hSlot skipUnchanged
        text

/- A generated file is there. -/
theorem emit_isDone
    (hFree : store.tree.IsLinkFree)
    (hSlot : placed.slot.IsIn store.tree viewer)
    {path : Path}
    (hEmit :
      (placed.output.emit viewer skipUnchanged store).2 =
        .ok path) :
    placed.IsDone viewer
      (placed.output.emit viewer skipUnchanged
        store).1.tree := by
  cases hText : placed.output.template.render
      placed.output.context with
  | error error =>
      rw [emit_of_error hText] at hEmit
      contradiction
  | ok text =>
      rw [emit_of_render hText] at hEmit ⊢
      cases hSave :
          (store.save viewer skipUnchanged placed.slot.path
            text).2 with
      | error fault =>
          simp [hSave, Output.answer] at hEmit
      | ok wrote =>
          rcases Slot.save_eq_ok hFree hSlot hSave with
            ⟨hReach, permissions, hFile⟩
          exact ⟨hReach, text, permissions, hText, hFile⟩

/- A file that cannot be generated leaves no trace. -/
theorem emit_eq_error
    (hFree : store.tree.IsLinkFree)
    (hSlot : placed.slot.IsIn store.tree viewer)
    {failure : Failure}
    (hEmit :
      (placed.output.emit viewer skipUnchanged store).2 =
        .error failure) :
    (placed.output.emit viewer skipUnchanged
        store).1.tree.node? placed.slot.place =
      store.tree.node? placed.slot.place := by
  cases hText : placed.output.template.render
      placed.output.context with
  | error error => rw [emit_of_error hText]
  | ok text =>
      rw [emit_of_render hText] at hEmit ⊢
      cases hSave :
          (store.save viewer skipUnchanged placed.slot.path
            text).2 with
      | error fault =>
          exact Slot.save_eq_error hFree hSlot hSave
      | ok wrote => simp [hSave, Output.answer] at hEmit

/-
  Generating a file again has the same outcome and changes
  nothing.
-/
theorem emit_again
    (hFree : store.tree.IsLinkFree)
    (hSlot : placed.slot.IsIn store.tree viewer)
    (hFreeAgain : again.tree.IsLinkFree)
    (hSlotAgain : placed.slot.IsIn again.tree viewer)
    (hEntry :
      again.tree.node? placed.slot.place =
        (placed.output.emit viewer skipUnchanged
            store).1.tree.node? placed.slot.place) :
    let first :=
      placed.output.emit viewer skipUnchanged store
    let second :=
      placed.output.emit viewer skipUnchanged again
    second.2 = first.2 ∧
      again.tree.SameNodes second.1.tree ∧
      (skipUnchanged = true →
        second.1.written = again.written) := by
  cases hText : placed.output.template.render
      placed.output.context with
  | error error =>
      rw [emit_of_error hText, emit_of_error hText]
      exact ⟨rfl, fun _ => rfl, fun _ => rfl⟩
  | ok text =>
      rw [emit_of_render hText] at hEntry
      rw [emit_of_render hText, emit_of_render hText]
      rcases Slot.save_again hFree hSlot hFreeAgain
          hSlotAgain hEntry with
        ⟨hAnswer, hSame, hSilent⟩
      refine ⟨?_, hSame, hSilent⟩
      simp only [hAnswer]
      cases (store.save viewer skipUnchanged
          placed.slot.path text).2 with
      | error fault => rfl
      | ok wrote => rfl

end Placed

------------------------------------------------------------
-- Several Files
------------------------------------------------------------

/- A tree in which every file has its slot. -/
structure Ready
    (viewer : Viewer)
    (files : List Placed)
    (tree : FileTree) :
    Prop where
  linkFree : tree.IsLinkFree
  inside :
    ∀ placed ∈ files, placed.slot.IsIn tree viewer

/- The files lie at different places. -/
def AreApart (files : List Placed) : Prop :=
  files.Pairwise fun left right =>
    left.slot.place ≠ right.slot.place

/- A place that one of the files can change. -/
def IsPlaceOf
    (viewer : Viewer)
    (files : List Placed)
    (location : Location) :
    Prop :=
  ∃ placed ∈ files, placed.slot.IsPlace viewer location

variable {viewer : Viewer}
variable {skipUnchanged : Bool}
variable {placed : Placed}
variable {files : List Placed}
variable {store again : Store}

theorem Ready.grows
    {before after : FileTree}
    (hReady : Ready viewer files before)
    (hGrows : FileTree.Grows before after) :
    Ready viewer files after where
  linkFree := hGrows.isLinkFree hReady.linkFree
  inside := fun placed hPlaced =>
    (hReady.inside placed hPlaced).grows hGrows

theorem Ready.tail
    {tree : FileTree}
    (hReady : Ready viewer (placed :: files) tree) :
    Ready viewer files tree where
  linkFree := hReady.linkFree
  inside := fun other hOther =>
    hReady.inside other (List.mem_cons_of_mem placed hOther)

/- The first file of a list has its place among all. -/
theorem IsPlaceOf.head
    {location : Location}
    (hPlace : placed.slot.IsPlace viewer location) :
    IsPlaceOf viewer (placed :: files) location :=
  ⟨placed, List.mem_cons_self, hPlace⟩

theorem IsPlaceOf.tail
    {location : Location}
    (hPlace : IsPlaceOf viewer files location) :
    IsPlaceOf viewer (placed :: files) location := by
  rcases hPlace with ⟨other, hOther, hHere⟩
  exact ⟨other, List.mem_cons_of_mem placed hOther, hHere⟩

/- What is done is not undone elsewhere. -/
theorem Placed.IsDone.writtenAt
    {places : Location → Prop}
    (hDone : placed.IsDone viewer store.tree)
    (hWritten : store.WrittenAt again places)
    (hOther : ¬places placed.slot.place) :
    placed.IsDone viewer again.tree := by
  rcases hDone with
    ⟨hReach, text, permissions, hText, hFile⟩
  refine ⟨hReach, text, permissions, hText, ?_⟩
  rw [hWritten.node?_eq hOther]
  exact hFile

/- The first file decides whether the others are written. -/
theorem emitAll_cons
    (viewer : Viewer)
    (skipUnchanged : Bool)
    (store : Store)
    (output : Output)
    (rest : List Output) :
    emitAll viewer skipUnchanged store (output :: rest) =
      let emitted := output.emit viewer skipUnchanged store
      let later :=
        emitAll viewer skipUnchanged emitted.1 rest
      match emitted.2 with
      | .error failure => (emitted.1, .error failure)
      | .ok path => (later.1, later.2.map (path :: ·)) := by
  conv => lhs; unfold emitAll
  rcases output.emit viewer skipUnchanged store with
    ⟨after, answer⟩
  cases answer with
  | error failure => rfl
  | ok path =>
      simp only
      rcases emitAll viewer skipUnchanged after rest with
        ⟨final, answers⟩
      cases answers with
      | error failure => rfl
      | ok paths => rfl

/- A list is written file by file. -/
theorem emitAll_cons_eq_ok
    {output : Output}
    {rest : List Output}
    {paths : List Path}
    (hAll :
      (emitAll viewer skipUnchanged store
          (output :: rest)).2 =
        .ok paths) :
    let emitted := output.emit viewer skipUnchanged store
    let later := emitAll viewer skipUnchanged emitted.1 rest
    ∃ path others,
      emitted.2 = .ok path ∧
        later.2 = .ok others ∧
        paths = path :: others ∧
        (emitAll viewer skipUnchanged store
          (output :: rest)).1 = later.1 := by
  simp only [emitAll_cons] at hAll ⊢
  cases hEmit :
      (output.emit viewer skipUnchanged store).2 with
  | error failure => simp [hEmit] at hAll
  | ok path =>
      simp only [hEmit] at hAll ⊢
      cases hRest :
          (emitAll viewer skipUnchanged
            (output.emit viewer skipUnchanged store).1
            rest).2 with
      | error failure => simp [hRest, Except.map] at hAll
      | ok others =>
          simp only [hRest, Except.map] at hAll
          injection hAll with hPaths
          exact ⟨path, others, rfl, rfl, hPaths.symm,
            trivial⟩

/- A list that is not written stops at a file of it. -/
theorem emitAll_cons_eq_error
    {output : Output}
    {rest : List Output}
    {failure : Failure}
    (hAll :
      (emitAll viewer skipUnchanged store
          (output :: rest)).2 =
        .error failure) :
    let emitted := output.emit viewer skipUnchanged store
    emitted.2 = .error failure ∨
      (emitAll viewer skipUnchanged emitted.1 rest).2 =
        .error failure := by
  simp only [emitAll_cons] at hAll ⊢
  cases hEmit :
      (output.emit viewer skipUnchanged store).2 with
  | error other =>
      simp only [hEmit] at hAll
      injection hAll with hFailure
      exact .inl (congrArg Except.error hFailure)
  | ok path =>
      simp only [hEmit] at hAll
      cases hRest :
          (emitAll viewer skipUnchanged
            (output.emit viewer skipUnchanged store).1
            rest).2 with
      | ok others => simp [hRest, Except.map] at hAll
      | error other =>
          simp only [hRest, Except.map] at hAll
          injection hAll with hFailure
          exact .inr (congrArg Except.error hFailure)

/- A file that was generated is told by its path. -/
theorem Output.emit_path
    {output : Output}
    {path : Path}
    (hEmit :
      (output.emit viewer skipUnchanged store).2 =
        .ok path) :
    path = output.path := by
  unfold Output.emit at hEmit
  split at hEmit
  · contradiction
  · split at hEmit
    · contradiction
    · injection hEmit with hPath
      exact hPath.symm

/- Files are told in the order in which they are written. -/
theorem emitAll_paths
    {outputs : List Output}
    {paths : List Path}
    (hAll :
      (emitAll viewer skipUnchanged store outputs).2 =
        .ok paths) :
    paths = outputs.map Output.path := by
  induction outputs generalizing store paths with
  | nil =>
      injection hAll with hPaths
      exact hPaths.symm
  | cons output rest ih =>
      rcases emitAll_cons_eq_ok hAll with
        ⟨path, others, hEmit, hRest, hPaths, _⟩
      rw [hPaths, Output.emit_path hEmit, ih hRest,
        List.map_cons]

/- Generated files change nothing but their own entries. -/
theorem emitAll_writtenAt
    (hReady : Ready viewer files store.tree)
    (skipUnchanged : Bool) :
    store.WrittenAt
      (emitAll viewer skipUnchanged store
        (files.map Placed.output)).1
      (IsPlaceOf viewer files) := by
  induction files generalizing store with
  | nil => exact .refl store _
  | cons placed files ih =>
      have hSlot := hReady.inside placed List.mem_cons_self
      have hFirst :
          store.WrittenAt
            (placed.output.emit viewer skipUnchanged store).1
            (IsPlaceOf viewer (placed :: files)) :=
        (Placed.emit_writtenAt hReady.linkFree hSlot
          skipUnchanged).mono fun _ => IsPlaceOf.head
      have hRest :
          (placed.output.emit viewer skipUnchanged
              store).1.WrittenAt
            (emitAll viewer skipUnchanged
              (placed.output.emit viewer skipUnchanged
                store).1 (files.map Placed.output)).1
            (IsPlaceOf viewer (placed :: files)) :=
        (ih (hReady.tail.grows hFirst.grows)).mono
          fun _ => IsPlaceOf.tail
      rw [List.map_cons, emitAll_cons]
      simp only
      split
      · exact hFirst
      · exact hFirst.trans hRest

/- A file is not at a place of the files after it. -/
theorem AreApart.not_isPlaceOf
    (hApart : AreApart (placed :: files)) :
    ¬IsPlaceOf viewer files placed.slot.place := by
  rintro ⟨other, hOther, _, hPlace⟩
  exact (List.pairwise_cons.mp hApart).1 other hOther hPlace

/- All files are there if all could be generated. -/
theorem emitAll_isDone
    (hReady : Ready viewer files store.tree)
    (hApart : AreApart files)
    {paths : List Path}
    (hAll :
      (emitAll viewer skipUnchanged store
          (files.map Placed.output)).2 =
        .ok paths) :
    ∀ placed ∈ files,
      placed.IsDone viewer
        (emitAll viewer skipUnchanged store
          (files.map Placed.output)).1.tree := by
  induction files generalizing store paths with
  | nil => exact List.forall_mem_nil _
  | cons placed files ih =>
      have hSlot := hReady.inside placed List.mem_cons_self
      have hFirst :=
        Placed.emit_writtenAt hReady.linkFree hSlot
          skipUnchanged
      have hLater := hReady.tail.grows hFirst.grows
      rcases emitAll_cons_eq_ok hAll with
        ⟨path, others, hEmit, hRest, _, hStore⟩
      have hDone :=
        Placed.emit_isDone hReady.linkFree hSlot hEmit
      rw [List.map_cons, hStore]
      refine List.forall_mem_cons.mpr ⟨?_, ?_⟩
      · exact hDone.writtenAt
          (emitAll_writtenAt hLater skipUnchanged)
          hApart.not_isPlaceOf
      · exact ih hLater (List.pairwise_cons.mp hApart).2
          hRest

/-
  Generating files again, where all entries are as the first
  time left them, has the same outcome and changes nothing.
-/
theorem emitAll_again
    (hReady : Ready viewer files store.tree)
    (hReadyAgain : Ready viewer files again.tree)
    (hApart : AreApart files)
    (hEntries :
      ∀ placed ∈ files,
        again.tree.node? placed.slot.place =
          (emitAll viewer skipUnchanged store
            (files.map Placed.output)).1.tree.node?
              placed.slot.place) :
    let first :=
      emitAll viewer skipUnchanged store
        (files.map Placed.output)
    let second :=
      emitAll viewer skipUnchanged again
        (files.map Placed.output)
    second.2 = first.2 ∧
      again.tree.SameNodes second.1.tree ∧
      (skipUnchanged = true →
        second.1.written = again.written) := by
  induction files generalizing store again with
  | nil => exact ⟨rfl, fun _ => rfl, fun _ => rfl⟩
  | cons placed files ih =>
      have hSlot := hReady.inside placed List.mem_cons_self
      have hSlotAgain :=
        hReadyAgain.inside placed List.mem_cons_self
      have hFirst :=
        Placed.emit_writtenAt hReady.linkFree hSlot
          skipUnchanged
      have hSecond :=
        Placed.emit_writtenAt hReadyAgain.linkFree
          hSlotAgain skipUnchanged
      have hLater := hReady.tail.grows hFirst.grows
      have hRest :=
        emitAll_writtenAt hLater skipUnchanged
      simp only [List.map_cons, emitAll_cons] at hEntries ⊢
      -- The files after the first leave its entry alone.
      have hEntry :
          again.tree.node? placed.slot.place =
            (placed.output.emit viewer skipUnchanged
              store).1.tree.node? placed.slot.place := by
        rw [hEntries placed List.mem_cons_self]
        split
        · rfl
        · exact hRest.node?_eq hApart.not_isPlaceOf
      rcases Placed.emit_again hReady.linkFree hSlot
          hReadyAgain.linkFree hSlotAgain hEntry with
        ⟨hAnswer, hSame, hSilent⟩
      simp only [hAnswer]
      cases hEmit :
          (placed.output.emit viewer skipUnchanged
            store).2 with
      | error failure => exact ⟨rfl, hSame, hSilent⟩
      | ok path =>
          simp only [hEmit] at hEntries
          rcases ih hLater
              (hReadyAgain.tail.grows hSecond.grows)
              (List.pairwise_cons.mp hApart).2
              (fun other hOther =>
                (hSame other.slot.place).trans
                  (hEntries other
                    (List.mem_cons_of_mem placed hOther)))
              with
            ⟨hAnswers, hSameRest, hSilentRest⟩
          refine ⟨?_, ?_, ?_⟩
          · simp only [hAnswers]
          · intro location
            exact (hSameRest location).trans (hSame location)
          · intro hSkip
            exact (hSilentRest hSkip).trans (hSilent hSkip)

end Aggregation
