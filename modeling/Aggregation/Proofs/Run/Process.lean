import Aggregation.Proofs.Run.Site

/-
  What the work on one component does to a store.

  Work on a site changes nothing but the entries of its own
  files.  Work that is repeated changes nothing, and it comes
  as far as it came the first time.

  Key definitions include:
    * `Outcome.repeated`
    * `Site.IsDone`

  Key theorems include:
    * `process_writtenAt`
    * `process_finished`
    * `process_again`
-/

------------------------------------------------------------
-- Effects
------------------------------------------------------------

namespace Aggregation

open Disk (FileTree Location Store Viewer)

/- An outcome of work that found its marker there. -/
def Outcome.repeated : Outcome → Outcome
  | .finished _ files => .finished false files
  | .unmarked failure => .unmarked failure
  | .unfinished _ failure => .unfinished false failure

/- How far the work came, by how writing its files ended. -/
def Outcome.ofFiles
    (marker : Option Path) :
    Except Failure (List Path) → Outcome
  | .error failure => .unfinished marker.isSome failure
  | .ok files => .finished marker.isSome files

variable {settings : Settings}
variable {site : Site settings}
variable {viewer : Viewer}
variable {store again : Store}

/- Files are written once there is a marker. -/
theorem process_eq_ofFiles
    (viewer : Viewer)
    (settings : Settings)
    (component : Component)
    (store : Store) :
    process viewer settings component store =
      let marked :=
        ensureMarker store viewer settings
          component.directory
      let emitted :=
        emitAll viewer settings.skipUnchanged marked.1
          (component.outputs settings)
      match marked.2 with
      | .error failure => (marked.1, .unmarked failure)
      | .ok marker =>
          (emitted.1, .ofFiles marker emitted.2) := by
  unfold process
  rcases ensureMarker store viewer settings
      component.directory with
    ⟨after, answer⟩
  cases answer with
  | error failure => rfl
  | ok marker =>
      simp only
      rcases emitAll viewer settings.skipUnchanged after
          (component.outputs settings) with
        ⟨final, answers⟩
      cases answers with
      | error failure => rfl
      | ok files => rfl

/- Work fails at its marker or at its files. -/
theorem process_failure
    {component : Component}
    {failure : Failure}
    (hFailed :
      (process viewer settings component store).2.result
          component =
        .error failure) :
    let marked :=
      ensureMarker store viewer settings component.directory
    marked.2 = .error failure ∨
      (emitAll viewer settings.skipUnchanged marked.1
          (component.outputs settings)).2 =
        .error failure := by
  rw [process_eq_ofFiles] at hFailed
  simp only at hFailed ⊢
  cases hMarker :
      (ensureMarker store viewer settings
        component.directory).2 with
  | error other =>
      simp only [hMarker, Outcome.result] at hFailed
      injection hFailed with hFailure
      exact .inl (congrArg Except.error hFailure)
  | ok marker =>
      right
      simp only [hMarker] at hFailed
      cases hFiles :
          (emitAll viewer settings.skipUnchanged
            (ensureMarker store viewer settings
              component.directory).1
            (component.outputs settings)).2 with
      | error other =>
          simp only [hFiles, Outcome.ofFiles,
            Outcome.result] at hFailed
          injection hFailed with hFailure
          exact congrArg Except.error hFailure
      | ok files =>
          simp [hFiles, Outcome.ofFiles, Outcome.result]
            at hFailed

/- Finished work has its marker and has written its files. -/
theorem process_eq_finished
    {component : Component}
    {created : Bool}
    {paths : List Path}
    (hFinished :
      (process viewer settings component store).2 =
        .finished created paths) :
    let marked :=
      ensureMarker store viewer settings component.directory
    let emitted :=
      emitAll viewer settings.skipUnchanged marked.1
        (component.outputs settings)
    ∃ marker,
      marked.2 = .ok marker ∧
        created = marker.isSome ∧
        emitted.2 = .ok paths ∧
        (process viewer settings component store).1 =
          emitted.1 := by
  rw [process_eq_ofFiles] at hFinished ⊢
  simp only at hFinished ⊢
  cases hMarker :
      (ensureMarker store viewer settings
        component.directory).2 with
  | error failure => simp [hMarker] at hFinished
  | ok marker =>
      simp only [hMarker] at hFinished
      cases hFiles :
          (emitAll viewer settings.skipUnchanged
            (ensureMarker store viewer settings
              component.directory).1
            (component.outputs settings)).2 with
      | error failure =>
          simp [hFiles, Outcome.ofFiles] at hFinished
      | ok others =>
          simp only [hFiles, Outcome.ofFiles] at hFinished
          injection hFinished with hCreated hPaths
          exact ⟨marker, rfl, hCreated.symm,
            congrArg Except.ok hPaths, rfl⟩

/- The files of a site are written to their slots. -/
theorem process_eq
    (site : Site settings)
    (viewer : Viewer)
    (store : Store) :
    process viewer settings site.component store =
      let marked :=
        ensureMarker store viewer settings
          site.component.directory
      let emitted :=
        emitAll viewer settings.skipUnchanged marked.1
          (site.files.map Placed.output)
      match marked.2 with
      | .error failure => (marked.1, .unmarked failure)
      | .ok marker =>
          (emitted.1, .ofFiles marker emitted.2) := by
  rw [site.outputs_files]
  exact process_eq_ofFiles viewer settings site.component
    store

/- Every file of a site has its slot in a tree. -/
abbrev Site.IsIn
    (site : Site settings)
    (viewer : Viewer)
    (tree : FileTree) :
    Prop :=
  Ready viewer site.placed tree

theorem Site.IsIn.aggregation
    {tree : FileTree}
    (hSite : site.IsIn viewer tree) :
    site.aggregation.IsIn tree viewer :=
  hSite.inside site.marker List.mem_cons_self

/- Work changes nothing but the entries of its files. -/
theorem process_writtenAt
    (hSite : site.IsIn viewer store.tree) :
    store.WrittenAt
      (process viewer settings site.component store).1
      (IsPlaceOf viewer site.placed) := by
  have hMarker :
      store.WrittenAt
        (ensureMarker store viewer settings
          site.component.directory).1
        (IsPlaceOf viewer site.placed) :=
    (ensureMarker_writtenAt hSite.linkFree
      hSite.aggregation).mono
      fun _ hPlace =>
        ⟨site.marker, List.mem_cons_self, hPlace⟩
  have hFiles :
      (ensureMarker store viewer settings
          site.component.directory).1.WrittenAt
        (emitAll viewer settings.skipUnchanged
          (ensureMarker store viewer settings
            site.component.directory).1
          (site.files.map Placed.output)).1
        (IsPlaceOf viewer site.placed) :=
    (emitAll_writtenAt (hSite.tail.grows hMarker.grows)
      settings.skipUnchanged).mono
      fun _ => IsPlaceOf.tail
  rw [process_eq]
  simp only
  split
  · exact hMarker
  · exact hMarker.trans hFiles

/- The files of a site are there as they were rendered. -/
def Site.IsDone
    (site : Site settings)
    (viewer : Viewer)
    (tree : FileTree) :
    Prop :=
  ∀ placed ∈ site.files, placed.IsDone viewer tree

/- Work that is finished leaves its files. -/
theorem process_finished
    (hSite : site.IsIn viewer store.tree)
    {created : Bool}
    {paths : List Path}
    (hFinished :
      (process viewer settings site.component store).2 =
        .finished created paths) :
    site.IsDone viewer
      (process viewer settings site.component
        store).1.tree := by
  have hMarker :=
    ensureMarker_writtenAt hSite.linkFree hSite.aggregation
  rcases process_eq_finished hFinished with
    ⟨_, _, _, hFiles, hStore⟩
  rw [hStore]
  rw [← site.outputs_files] at hFiles ⊢
  exact emitAll_isDone (hSite.tail.grows hMarker.grows)
    site.areApart_files hFiles

------------------------------------------------------------
-- Repetition
------------------------------------------------------------

/-
  Work that is repeated comes as far as before and changes
  nothing, where all entries are as the first work left
  them.
-/
theorem process_again
    (hSite : site.IsIn viewer store.tree)
    (hSiteAgain : site.IsIn viewer again.tree)
    (hEntries :
      ∀ placed ∈ site.placed,
        again.tree.node? placed.slot.place =
          (process viewer settings site.component
            store).1.tree.node? placed.slot.place) :
    let first :=
      process viewer settings site.component store
    let second :=
      process viewer settings site.component again
    second.2 = first.2.repeated ∧
      again.tree.SameNodes second.1.tree ∧
      (settings.skipUnchanged = true →
        second.1.written = again.written) := by
  have hMarker :=
    ensureMarker_writtenAt hSite.linkFree hSite.aggregation
  have hEntry :
      again.tree.node? site.aggregation.place =
        (process viewer settings site.component
          store).1.tree.node? site.aggregation.place :=
    hEntries site.marker List.mem_cons_self
  simp only [process_eq] at hEntries hEntry ⊢
  cases hMarked :
      (ensureMarker store viewer settings
        site.component.directory).2 with
  | error failure =>
      simp only [hMarked] at hEntry
      rcases ensureMarker_again hSite.linkFree
          hSite.aggregation hSiteAgain.linkFree
          hSiteAgain.aggregation hMarked
          (hEntry.trans
            (ensureMarker_eq_error hSite.linkFree
              hSite.aggregation hMarked)) with
        ⟨hAnswer, hSame, hSilent⟩
      simp only [hAnswer]
      exact ⟨rfl, hSame, hSilent⟩
  | ok marker =>
      simp only [hMarked] at hEntries hEntry
      have hReady := hSite.tail.grows hMarker.grows
      have hFiles :=
        emitAll_writtenAt hReady settings.skipUnchanged
      have hThere :
          site.HasMarker viewer again.tree := by
        have hLeft :=
          (ensureMarker_eq_ok hSite.linkFree
            hSite.aggregation hMarked).grows hFiles.grows
        refine ⟨hLeft.1, ?_⟩
        rw [hEntry]
        exact hLeft.2
      have hMarkedAgain :
          ensureMarker again viewer settings
              site.component.directory =
            (again, .ok none) := by
        rw [ensureMarker_eq hSiteAgain.linkFree
            hSiteAgain.aggregation,
          site.isMarked_of_hasMarker hThere]
      rcases emitAll_again hReady hSiteAgain.tail
          site.areApart_files
          (fun placed hPlaced =>
            hEntries placed
              (List.mem_cons_of_mem site.marker hPlaced))
          with
        ⟨hAnswer, hSame, hSilent⟩
      simp only [hMarkedAgain, hAnswer]
      refine ⟨?_, hSame, hSilent⟩
      cases (emitAll viewer settings.skipUnchanged
          (ensureMarker store viewer settings
            site.component.directory).1
          (site.files.map Placed.output)).2 with
      | error failure => rfl
      | ok paths => rfl

end Aggregation
