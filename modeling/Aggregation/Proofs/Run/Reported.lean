import Aggregation.Proofs.Run.Contents
import Mathlib.Data.List.Forall2

/-
  The report of a run, compared with the disk.

  A batch without failures has one result for each site, and
  the result depends on the tree before the batch only: what
  other components write is no marker of this one.

  Key definitions include:
    * `Store.Wrote`
    * `Site.resultIn`
    * `Result.IsTrueOf`
    * `IsTrueReport`

  Key theorems include:
    * `runBatch_wrote`
    * `runBatch_results`
    * `run_isTrueReport`
-/

------------------------------------------------------------
-- Written Locations
------------------------------------------------------------

namespace Aggregation

open Disk (FileTree Location Slot Store Viewer)
open Number (Double)

namespace Disk

/- What was written between two stores is at some places. -/
def Store.Wrote
    (before after : Store)
    (places : List Location) :
    Prop :=
  ∃ locations,
    after.written = before.written ++ locations ∧
      ∀ location,
        location ∈ locations ↔ location ∈ places

namespace Store

variable {before middle after : Store}
variable {places others : List Location}

theorem Wrote.refl (store : Store) : store.Wrote store [] :=
  ⟨[], (List.append_nil _).symm, fun _ => .rfl⟩

theorem Wrote.trans
    (hFirst : before.Wrote middle places)
    (hSecond : middle.Wrote after others) :
    before.Wrote after (places ++ others) := by
  rcases hFirst with ⟨first, hMiddle, hPlaces⟩
  rcases hSecond with ⟨second, hAfter, hOthers⟩
  refine ⟨first ++ second, ?_, ?_⟩
  · rw [hAfter, hMiddle, List.append_assoc]
  · intro location
    rw [List.mem_append, List.mem_append, hPlaces, hOthers]

/- It does not matter how often a place was written. -/
theorem Wrote.congr
    (hWrote : before.Wrote after places)
    (hSame :
      ∀ location, location ∈ places ↔ location ∈ others) :
    before.Wrote after others := by
  rcases hWrote with ⟨locations, hAfter, hPlaces⟩
  exact ⟨locations, hAfter, fun location =>
    (hPlaces location).trans (hSame location)⟩

end Store

/- A file that is not spared is written at its slot. -/
theorem Slot.save_wrote
    {slot : Slot}
    {store : Store}
    {viewer : Viewer}
    (hFree : store.tree.IsLinkFree)
    (hSlot : slot.IsIn store.tree viewer)
    {content : String}
    {wrote : Bool}
    (hSave :
      (store.save viewer false slot.path content).2 =
        .ok wrote) :
    store.Wrote
      (store.save viewer false slot.path content).1
      [slot.place] := by
  rcases Slot.save_path hFree hSlot false content with
    ⟨hAnswer, hChanged⟩
  have hWritten := hChanged.written
  rw [← hAnswer, hSave] at hWritten
  rw [hSave] at hAnswer
  have hWrote : wrote = true := by
    unfold Slot.write at hAnswer
    simp only [Bool.false_eq_true, if_false] at hAnswer
    split at hAnswer
    · contradiction
    · injection hAnswer
  rw [hWrote] at hWritten
  exact ⟨[slot.place], hWritten, fun _ => .rfl⟩

/- A slot that can be reached is found if it has a node. -/
theorem Slot.status_path_ne_ok_iff
    {slot : Slot}
    {tree : FileTree}
    {viewer : Viewer}
    (hFree : tree.IsLinkFree)
    (hSlot : slot.IsIn tree viewer)
    (hReach : slot.reach viewer = .ok ()) :
    (∀ found, tree.status viewer slot.path ≠ .ok found) ↔
      tree.node? slot.place = none := by
  cases hNode : tree.node? slot.place with
  | some node =>
      have hFound :=
        Slot.status_path_eq_ok hFree hSlot hReach hNode
      exact iff_of_false
        (fun hNone => hNone _ hFound)
        (Option.some_ne_none node)
  | none =>
      refine iff_of_true ?_ rfl
      intro found hFound
      rw [FileTree.status_eq_ok_iff,
        Slot.resolve_path hFree hSlot, hReach] at hFound
      simp [hNode] at hFound

end Disk

------------------------------------------------------------
-- Single Components
------------------------------------------------------------

variable {settings : Settings}
variable {viewer : Viewer}
variable {store : Store}
variable {site : Site settings}

/- A file that was generated is written at its slot. -/
theorem Placed.emit_wrote
    {placed : Placed}
    (hFree : store.tree.IsLinkFree)
    (hSlot : placed.slot.IsIn store.tree viewer)
    {path : Path}
    (hEmit :
      (placed.output.emit viewer false store).2 =
        .ok path) :
    store.Wrote (placed.output.emit viewer false store).1
      [placed.slot.place] := by
  cases hText : placed.output.template.render
      placed.output.context with
  | error error =>
      rw [Placed.emit_of_error hText] at hEmit
      contradiction
  | ok text =>
      rw [Placed.emit_of_render hText] at hEmit ⊢
      cases hSave :
          (store.save viewer false placed.slot.path
            text).2 with
      | error fault => simp [hSave, Output.answer] at hEmit
      | ok wrote => exact Slot.save_wrote hFree hSlot hSave

/- Files that were generated are written at their slots. -/
theorem emitAll_wrote
    {files : List Placed}
    (hReady : Ready viewer files store.tree)
    {paths : List Path}
    (hAll :
      (emitAll viewer false store
          (files.map Placed.output)).2 =
        .ok paths) :
    store.Wrote
      (emitAll viewer false store
        (files.map Placed.output)).1
      (files.map fun placed => placed.slot.place) := by
  induction files generalizing store paths with
  | nil => exact .refl store
  | cons placed files ih =>
      have hSlot := hReady.inside placed List.mem_cons_self
      have hFirst :=
        Placed.emit_writtenAt hReady.linkFree hSlot false
      rcases emitAll_cons_eq_ok hAll with
        ⟨path, others, hEmit, hRest, _, hStore⟩
      rw [List.map_cons, List.map_cons, hStore]
      exact (Placed.emit_wrote hReady.linkFree hSlot
        hEmit).trans
          (ih (hReady.tail.grows hFirst.grows) hRest)

/- Some file of every component is at its root. -/
theorem Site.exists_aggregation (site : Site settings) :
    ∃ placed ∈ site.files,
      placed.slot = site.aggregation := by
  unfold Site.files
  cases site.component.strategy with
  | composed =>
      exact ⟨site.composedFile, List.mem_cons_self, rfl⟩
  | barrel =>
      exact ⟨site.wrapperFile,
        List.mem_cons_of_mem _ List.mem_cons_self, rfl⟩

/- A marker is written if there was nothing in its place. -/
theorem ensureMarker_wrote
    (hSite : site.IsIn viewer store.tree)
    {marker : Option Path}
    (hMarker :
      (ensureMarker store viewer settings
          site.component.directory).2 =
        .ok marker) :
    marker.isSome =
        (store.tree.node? site.aggregation.place).isNone ∧
      (settings.skipUnchanged = false →
        store.Wrote
          (ensureMarker store viewer settings
            site.component.directory).1
          (if marker.isSome then [site.aggregation.place]
            else [])) := by
  have hFree := hSite.linkFree
  have hSlot := hSite.aggregation
  have hReach := (ensureMarker_eq_ok hFree hSlot hMarker).1
  have hMarked :
      site.isMarked viewer store.tree =
        .ok (store.tree.node?
          site.aggregation.place).isSome := by
    unfold Site.isMarked Slot.test
    rw [hReach]
    cases store.tree.node? site.aggregation.place with
    | none => rfl
    | some node => rfl
  rw [ensureMarker_eq hFree hSlot, hMarked] at hMarker ⊢
  cases hEntry :
      store.tree.node? site.aggregation.place with
  | some node =>
      rw [hEntry] at hMarker
      injection hMarker with hMarker
      rw [← hMarker]
      exact ⟨rfl, fun _ => .refl store⟩
  | none =>
      rw [hEntry] at hMarker
      simp only [Option.isSome_none] at hMarker ⊢
      cases hEmit :
          (site.marker.output.emit viewer
            settings.skipUnchanged store).2 with
      | error failure => simp [hEmit, Except.map] at hMarker
      | ok path =>
          simp only [hEmit, Except.map] at hMarker
          injection hMarker with hMarker
          rw [← hMarker]
          refine ⟨rfl, ?_⟩
          intro hSkip
          rw [hSkip] at hEmit ⊢
          exact site.marker.emit_wrote hFree hSlot hEmit

/- Paths of the files of a component in order of writing. -/
def Component.outputPaths
    (component : Component)
    (settings : Settings) :
    List Path :=
  match component.rootFile with
  | some _ =>
      [aggregationPath settings component.directory]
  | none =>
      [indexPath settings component.directory,
        aggregationPath settings component.directory]

theorem Component.map_path_outputs
    (component : Component)
    (settings : Settings) :
    (component.outputs settings).map Output.path =
      component.outputPaths settings := by
  unfold Component.outputs Component.strategy
    Component.outputPaths
  cases component.rootFile with
  | some root => rfl
  | none => rfl

/- The paths of a site are the outputs of its component. -/
theorem Site.map_path_files (site : Site settings) :
    (site.files.map fun placed => placed.output.path) =
      site.component.outputPaths settings := by
  rw [← site.component.map_path_outputs,
    ← site.outputs_files, List.map_map]
  rfl

/- The result of a component whose work is finished. -/
def Site.resultIn
    (site : Site settings)
    (tree : FileTree) :
    Result :=
  ⟨site.component.directory, site.component.strategy,
    (tree.node? site.aggregation.place).isNone,
    site.files.map fun placed => placed.output.path⟩

/- Finished work tells and writes the files of a site. -/
theorem process_wrote
    (hSite : site.IsIn viewer store.tree)
    {created : Bool}
    {paths : List Path}
    (hFinished :
      (process viewer settings site.component store).2 =
        .finished created paths) :
    (⟨site.component.directory, site.component.strategy,
        created, paths⟩ : Result) =
        site.resultIn store.tree ∧
      (settings.skipUnchanged = false →
        store.Wrote
          (process viewer settings site.component store).1
          (site.files.map fun placed =>
            placed.slot.place)) := by
  have hGrows :=
    (ensureMarker_writtenAt hSite.linkFree
      hSite.aggregation).grows
  rcases process_eq_finished hFinished with
    ⟨marker, hMarker, hCreated, hFiles, hStore⟩
  rcases ensureMarker_wrote hSite hMarker with
    ⟨hMissed, hMarkerWrote⟩
  have hReady := hSite.tail.grows hGrows
  rw [hStore]
  refine ⟨?_, ?_⟩
  · unfold Site.resultIn
    rw [hCreated, hMissed, emitAll_paths hFiles,
      site.component.map_path_outputs, site.map_path_files]
  · intro hSkip
    have hMarkerHere := hMarkerWrote hSkip
    rw [← site.outputs_files] at hFiles ⊢
    rw [hSkip] at hFiles ⊢
    refine (hMarkerHere.trans
      (emitAll_wrote hReady hFiles)).congr ?_
    -- The marker is in the place of a file.
    rcases site.exists_aggregation with
      ⟨placed, hPlaced, hSlot⟩
    have hThere :
        site.aggregation.place ∈
          site.files.map fun placed =>
            placed.slot.place := by
      rw [← hSlot]
      exact List.mem_map_of_mem hPlaced
    intro location
    rw [List.mem_append, or_iff_right_of_imp]
    intro hMarkerPlace
    cases marker with
    | none => exact absurd hMarkerPlace List.not_mem_nil
    | some path =>
        rw [List.mem_singleton.mp hMarkerPlace]
        exact hThere

------------------------------------------------------------
-- Batches
------------------------------------------------------------

variable {sites : List (Site settings)}

/- No earlier component makes a marker for a later one. -/
theorem AreSited.resultIn_eq
    {before : FileTree}
    (hSited : AreSited viewer (site :: sites) before)
    {after : Store}
    (hWritten :
      store.WrittenAt after (IsPlaceOf viewer site.placed))
    {other : Site settings}
    (hOther : other ∈ sites) :
    other.resultIn after.tree =
      other.resultIn store.tree := by
  have hApart :=
    (List.pairwise_cons.mp hSited.apart).1 other hOther
  have hKept :
      after.tree.node? other.aggregation.place =
        store.tree.node? other.aggregation.place := by
    refine hWritten.node?_eq ?_
    rintro ⟨placed, hPlaced, _, hSame⟩
    exact hApart placed hPlaced other.marker
      List.mem_cons_self hSame.symm
  unfold Site.resultIn
  rw [hKept]

/- A batch without failures has the result of every site. -/
theorem runBatch_results
    (hSited : AreSited viewer sites store.tree)
    (hStopped :
      (runBatch viewer settings store
          (sites.map Site.component)).stopped = none)
    (hFailures :
      (runBatch viewer settings store
          (sites.map Site.component)).failures = []) :
    (runBatch viewer settings store
        (sites.map Site.component)).results =
      sites.map fun site => site.resultIn store.tree := by
  induction sites generalizing store with
  | nil => rfl
  | cons site sites ih =>
      have hFirst := process_writtenAt hSited.head
      rw [List.map_cons] at hStopped hFailures
      rcases runBatch_unfailing hStopped hFailures with
        ⟨⟨created, files, hFinished⟩, hLaterStopped,
          hLaterFailures⟩
      have hLater :=
        ih (hSited.tail.grows hFirst.grows) hLaterStopped
          hLaterFailures
      have hKept :
          (sites.map fun other =>
              other.resultIn
                (process viewer settings site.component
                  store).1.tree) =
            sites.map fun other =>
              other.resultIn store.tree :=
        List.map_congr_left fun other hOther =>
          hSited.resultIn_eq hFirst hOther
      rw [List.map_cons, List.map_cons, runBatch_cons]
      simp only [hFinished, Outcome.result]
      rw [(process_wrote hSited.head hFinished).1]
      exact congrArg _ (hLater.trans hKept)

/- A batch without failures writes the files of all sites. -/
theorem runBatch_wrote
    (hSited : AreSited viewer sites store.tree)
    (hSkip : settings.skipUnchanged = false)
    (hStopped :
      (runBatch viewer settings store
          (sites.map Site.component)).stopped = none)
    (hFailures :
      (runBatch viewer settings store
          (sites.map Site.component)).failures = []) :
    store.Wrote
      (runBatch viewer settings store
        (sites.map Site.component)).store
      ((sites.flatMap Site.files).map fun placed =>
        placed.slot.place) := by
  induction sites generalizing store with
  | nil => exact .refl store
  | cons site sites ih =>
      have hFirst := process_writtenAt hSited.head
      rw [List.map_cons] at hStopped hFailures
      rcases runBatch_unfailing hStopped hFailures with
        ⟨⟨created, files, hFinished⟩, hLaterStopped,
          hLaterFailures⟩
      have hLater :=
        ih (hSited.tail.grows hFirst.grows) hLaterStopped
          hLaterFailures
      rw [List.map_cons, runBatch_cons, List.flatMap_cons,
        List.map_append]
      simp only [hFinished, Outcome.result]
      exact ((process_wrote hSited.head hFinished).2
        hSkip).trans hLater

------------------------------------------------------------
-- True Reports
------------------------------------------------------------

/-
  A result tells of a component what there was to do in the
  tree before the run.
-/
structure Result.IsTrueOf
    (viewer : Viewer)
    (settings : Settings)
    (before : FileTree)
    (component : Component)
    (result : Result) :
    Prop where
  directory : result.directory = component.directory
  strategy : result.strategy = component.strategy
  marker :
    result.markerCreated = true ↔
      ∀ found,
        before.status viewer
            (aggregationPath settings component.directory) ≠
          .ok found
  files : result.files = component.outputPaths settings

/-
  A report tells of all components what was done for them,
  and of all files what was written.
-/
structure IsTrueReport
    (viewer : Viewer)
    (settings : Settings)
    (before after : Store)
    (components : List Component)
    (report : Report) :
    Prop where
  components :
    List.Forall₂
      (Result.IsTrueOf viewer settings before.tree)
      components report.components
  distinct : report.filesWritten.Nodup
  there :
    ∀ path ∈ report.filesWritten,
      after.tree.LeadsToFile viewer path
  failures : report.failures = []
  written :
    settings.skipUnchanged = false →
      ∃ locations,
        after.written = before.written ++ locations ∧
          ∀ location,
            location ∈ locations ↔
              ∃ path ∈ report.filesWritten, ∃ node,
                after.tree.status viewer path =
                  .ok (location, node)

/- The result of a site that is done tells the truth. -/
theorem Site.resultIn_isTrueOf
    (hSite : site.IsIn viewer store.tree)
    {after : FileTree}
    (hDone : site.IsDone viewer after) :
    Result.IsTrueOf viewer settings store.tree site.component
      (site.resultIn store.tree) where
  directory := rfl
  strategy := rfl
  marker := by
    rcases site.exists_aggregation with
      ⟨placed, hPlaced, hSlot⟩
    have hReach := (hDone placed hPlaced).1
    rw [hSlot] at hReach
    rw [site.path_aggregation,
      Slot.status_path_ne_ok_iff hSite.linkFree
        hSite.aggregation hReach]
    exact Option.isNone_iff_eq_none
  files := site.map_path_files

/- The path of a file that is done leads to its place. -/
theorem Site.IsDone.status
    {after : FileTree}
    (hSite : site.IsIn viewer after)
    (hDone : site.IsDone viewer after)
    {placed : Placed}
    (hPlaced : placed ∈ site.files) :
    ∃ content permissions,
      after.status viewer placed.output.path =
        .ok (placed.slot.place,
          .file content permissions) := by
  rcases hDone placed hPlaced with
    ⟨hReach, text, permissions, _, hFile⟩
  have hSlot :=
    hSite.inside placed
      (List.mem_cons_of_mem site.marker hPlaced)
  rw [placed.path_eq]
  exact ⟨_, permissions,
    Slot.status_path_eq_ok hSite.linkFree hSlot hReach
      hFile⟩

/- The files of all sites lie at different places. -/
theorem AreSited.areApart_files
    {tree : FileTree}
    (hSited : AreSited viewer sites tree) :
    AreApart (sites.flatMap Site.files) := by
  refine List.pairwise_flatMap.mpr
    ⟨fun site _ => site.areApart_files, ?_⟩
  refine hSited.apart.imp ?_
  intro left right hApart placed hPlaced other hOther
  exact hApart placed (List.mem_cons_of_mem _ hPlaced) other
    (List.mem_cons_of_mem _ hOther)

/- The paths that a batch of sites tells of. -/
theorem flatMap_files_resultIn
    (sites : List (Site settings))
    (tree : FileTree) :
    (sites.map fun site => site.resultIn tree).flatMap
        Result.files =
      (sites.flatMap Site.files).map fun placed =>
        placed.output.path := by
  rw [List.flatMap_map, List.map_flatMap]
  rfl

/- A batch without failures is reported as it is. -/
theorem runComponents_unfailing
    (elapsed : Double)
    {components : List Component}
    (hStopped :
      (runBatch viewer settings store components).stopped =
        none)
    (hFailures :
      (runBatch viewer settings store components).failures =
        []) :
    (runComponents viewer settings elapsed store
        components).outcome =
      .ok ⟨(runBatch viewer settings store
        components).results, [], elapsed⟩ := by
  unfold runComponents
  cases components with
  | nil => rfl
  | cons component rest =>
      simp only [hStopped]
      unfold Batch.finish Batch.report
      simp only [hFailures, List.map_nil]

/-
  The report of a batch whose sites are all done is true of
  the disk.
-/
theorem AreSited.isTrueReport
    (hSited : AreSited viewer sites store.tree)
    {after : Store}
    (hAfter : AreSited viewer sites after.tree)
    (hDone : ∀ site ∈ sites, site.IsDone viewer after.tree)
    (hWrote :
      settings.skipUnchanged = false →
        store.Wrote after
          ((sites.flatMap Site.files).map fun placed =>
            placed.slot.place))
    (elapsed : Double) :
    IsTrueReport viewer settings store after
      (sites.map Site.component)
      ⟨sites.map fun site => site.resultIn store.tree, [],
        elapsed⟩ := by
  have hStatus :
      ∀ placed ∈ sites.flatMap Site.files,
        ∃ content permissions,
          after.tree.status viewer placed.output.path =
            .ok (placed.slot.place,
              .file content permissions) := by
    intro placed hPlaced
    rcases List.mem_flatMap.mp hPlaced with
      ⟨site, hSite, hFile⟩
    exact (hDone site hSite).status
      (hAfter.inside site hSite) hFile
  have hFiles := flatMap_files_resultIn sites store.tree
  refine ⟨?_, ?_, ?_, rfl, ?_⟩
  · refine List.forall₂_map_left_iff.mpr
      (List.forall₂_map_right_iff.mpr
        (List.forall₂_same.mpr ?_))
    intro site hSite
    exact site.resultIn_isTrueOf (hSited.inside site hSite)
      (hDone site hSite)
  · unfold Report.filesWritten
    rw [hFiles]
    refine List.pairwise_map.mpr
      (hSited.areApart_files.imp_of_mem ?_)
    -- One path cannot lead to two places.
    intro placed other hPlaced hOther hApart hSame
    rcases hStatus placed hPlaced with ⟨_, _, hHere⟩
    rcases hStatus other hOther with ⟨_, _, hThere⟩
    rw [hSame, hThere] at hHere
    injection hHere with hHere
    injection hHere with hPlace
    exact hApart hPlace.symm
  · unfold Report.filesWritten
    rw [hFiles]
    intro path hPath
    rcases List.mem_map.mp hPath with ⟨placed, hPlaced, rfl⟩
    rcases hStatus placed hPlaced with
      ⟨content, permissions, hHere⟩
    exact ⟨_, content, permissions, hHere⟩
  · intro hSkip
    rcases hWrote hSkip with ⟨locations, hWritten, hPlaces⟩
    refine ⟨locations, hWritten, ?_⟩
    intro location
    unfold Report.filesWritten
    rw [hPlaces, hFiles]
    constructor
    · intro hLocation
      rcases List.mem_map.mp hLocation with
        ⟨placed, hPlaced, rfl⟩
      rcases hStatus placed hPlaced with ⟨_, _, hHere⟩
      exact ⟨_, List.mem_map_of_mem hPlaced, _, hHere⟩
    · rintro ⟨path, hPath, node, hLeads⟩
      rcases List.mem_map.mp hPath with
        ⟨placed, hPlaced, rfl⟩
      rcases hStatus placed hPlaced with ⟨_, _, hHere⟩
      rw [hHere] at hLeads
      injection hLeads with hLeads
      injection hLeads with hPlace
      rw [← hPlace]
      exact List.mem_map_of_mem hPlaced

------------------------------------------------------------
-- Runs
------------------------------------------------------------

/- The report of a run is true of the disk. -/
theorem run_isTrueReport
    (viewer : Viewer)
    (settings : Settings)
    (elapsed : Double)
    (store : Store)
    (report : Report)
    (hFree : store.tree.IsLinkFree)
    (hPlain : settings.HasPlainNames)
    (hReport :
      (run viewer settings elapsed store).outcome =
        .ok report) :
    ∃ components,
      scan store.tree viewer settings
          settings.componentsDirectory =
        .ok components ∧
      IsTrueReport viewer settings store
        (run viewer settings elapsed store).store components
        report := by
  rcases run_outcome_eq_ok hReport with
    ⟨components, hScan, hStopped, hFailures⟩
  rcases scan_sites hFree hPlain hScan with
    ⟨home, _, sites, _, hSurvey⟩
  refine ⟨components, hScan, ?_⟩
  rw [run_store elapsed hScan]
  rw [run_scan_ok elapsed hScan] at hReport
  simp only [runComponents_unfailing elapsed hStopped
    hFailures] at hReport
  injection hReport with hReport
  have hComponents := hSurvey.components
  rw [← hComponents] at hStopped hFailures hReport ⊢
  have hGrows := (runBatch_writtenAt hSurvey.sited).grows
  rw [← hReport,
    runBatch_results hSurvey.sited hStopped hFailures]
  exact hSurvey.sited.isTrueReport
    (hSurvey.sited.grows hGrows)
    (runBatch_done hSurvey.sited hStopped hFailures)
    (fun hSkip =>
      runBatch_wrote hSurvey.sited hSkip hStopped hFailures)
    elapsed

/- The run on the sample library has a report. -/
theorem exists_report_sampleStore :
    ∃ report,
      (run sampleViewer sampleSettings (Double.zero false)
          sampleStore).outcome =
        .ok report := by
  have hOk :
      (run sampleViewer sampleSettings (Double.zero false)
          sampleStore).outcome.isOk = true := by
    decide +kernel
  cases hReport :
      (run sampleViewer sampleSettings (Double.zero false)
        sampleStore).outcome with
  | error failure =>
      rw [hReport] at hOk
      contradiction
  | ok report => exact ⟨report, rfl⟩

theorem run_isTrueReport_sampleStore :
    sampleStore.tree.IsLinkFree ∧
      sampleSettings.HasPlainNames ∧
      sampleSettings.skipUnchanged = false ∧
      ∃ report,
        (run sampleViewer sampleSettings (Double.zero false)
            sampleStore).outcome =
          .ok report ∧
        ∃ components,
          scan sampleStore.tree sampleViewer sampleSettings
              sampleSettings.componentsDirectory =
            .ok components ∧
          IsTrueReport sampleViewer sampleSettings sampleStore
            (run sampleViewer sampleSettings
              (Double.zero false) sampleStore).store
            components report := by
  rcases exists_report_sampleStore with ⟨report, hReport⟩
  exact ⟨sampleTree_isLinkFree,
    sampleSettings_hasPlainNames, rfl, report, hReport,
    run_isTrueReport sampleViewer sampleSettings
      (Double.zero false) sampleStore report
      sampleTree_isLinkFree sampleSettings_hasPlainNames
      hReport⟩

end Aggregation
