import Aggregation.Proofs.Run.Frame
import Aggregation.Proofs.Scan.Stability

/-
  Runs that are repeated.

  A second run finds the components that the first one found
  and leaves the tree as the first one left it, however that
  ended.  It tells the same, except that no marker is new.

  Key definitions include:
    * `Report.repeated`
    * `IsRerun`

  Key theorems include:
    * `IsSurvey.changesOutputs`
    * `runComponents_again`
    * `run_rerun`
-/

------------------------------------------------------------
-- Scans of a Second Run
------------------------------------------------------------

namespace Aggregation

open Disk (FileTree Location Permissions Slot Store Viewer)
open Number (Double)

variable {settings : Settings}
variable {viewer : Viewer}
variable {tree after : FileTree}
variable {library : Path}
variable {home : Location}
variable {components : List Component}
variable {sites : List (Site settings)}

/- What components write are outputs below the library. -/
theorem IsSurvey.changesOutputs
    (hSurvey :
      IsSurvey tree viewer library home components sites)
    (hGrows : FileTree.Grows tree after)
    (hChanged :
      ∀ location,
        after.node? location ≠ tree.node? location →
          IsPlaceOfAny viewer sites location) :
    ChangesOutputs tree after viewer settings library
      home := by
  intro place hNe _
  rcases hChanged place hNe with
    ⟨site, hSite, placed, hPlaced, hReach, hPlace⟩
  rcases hSurvey.trails site hSite with ⟨trail, hTrail⟩
  have hIn :=
    (hSurvey.sited.inside site hSite).grows hGrows
  refine ⟨trail, hTrail.found, ?_⟩
  rw [← hTrail.location, ← hTrail.directory]
  rcases Site.slot_of_mem hPlaced with hSlot | ⟨hSlot, _⟩
  · rw [hSlot] at hPlace
    exact .inl hPlace
  · have hSlotIn := hIn.inside placed hPlaced
    rw [hSlot] at hPlace hReach hSlotIn
    refine .inr ⟨hPlace,
      (after.node? site.index.place).any
        Disk.Node.isFile, ?_⟩
    have hTest :=
      Slot.test_path hIn.linkFree hSlotIn
        Disk.Node.isFile
    unfold Slot.test at hTest
    rw [hReach] at hTest
    exact hTest

------------------------------------------------------------
-- Reports of a Second Run
------------------------------------------------------------

/- A report of a run that found all markers there. -/
def Report.repeated (report : Report) : Report :=
  { report with
    components := report.components.map Result.repeated }

/- The summary does not tell which markers are new. -/
theorem summaryEntries_repeated (report : Report) :
    summaryEntries report.repeated =
      summaryEntries report := by
  have hCount :
      ∀ strategy,
        report.repeated.count strategy =
          report.count strategy := by
    intro strategy
    unfold Report.count Report.repeated
    rw [List.countP_map]
    rfl
  have hFiles :
      report.repeated.filesWritten =
        report.filesWritten := by
    unfold Report.filesWritten Report.repeated
    rw [List.flatMap_map]
    rfl
  have hLength :
      report.repeated.components.length =
        report.components.length :=
    List.length_map _
  unfold summaryEntries
  rw [hCount, hCount, hFiles, hLength]
  rfl

/- The notices that a user sees of some events. -/
def noticesOf
    (settings : Settings)
    (events : List Event) :
    List Notice :=
  events.map (Event.notice settings)

/- Test for the line that tells of a new marker. -/
def Notice.tellsMarker : Notice → Bool
  | .info text =>
      "Ensured folder file exists: ".toList.isPrefixOf
        text.toList
  | _ => false

/- Only new markers are told in this way. -/
theorem tellsMarker_notice (event : Event) :
    (event.notice settings).tellsMarker = event.isMarker := by
  cases event with
  | markerCreated path =>
      simp only [Event.notice, Notice.tellsMarker,
        Event.isMarker, String.toList_append]
      rw [List.isPrefixOf_iff_prefix]
      exact List.prefix_append _ _
  | processing directory rootFile =>
      cases rootFile with
      | some file =>
          simp only [Event.notice, processingText,
            Notice.tellsMarker, String.toList_append,
            List.append_assoc]
          rfl
      | none =>
          simp only [Event.notice, processingText,
            Notice.tellsMarker, String.toList_append,
            List.append_assoc]
          rfl
  | composedWritten path =>
      simp only [Event.notice, Notice.tellsMarker,
        String.toList_append]
      rfl
  | indexWritten path =>
      simp only [Event.notice, Notice.tellsMarker,
        String.toList_append]
      rfl
  | wrapperWritten path =>
      simp only [Event.notice, Notice.tellsMarker,
        String.toList_append]
      rfl
  | started => rfl
  | nothingFound => rfl
  | gaveUp directory error => rfl
  | summed report => rfl
  | completed => rfl
  | aborted failure => rfl

/- The notices of events that are left are those left. -/
theorem noticesOf_withoutMarkers (events : List Event) :
    noticesOf settings (withoutMarkers events) =
      (noticesOf settings events).filter
        fun notice => !notice.tellsMarker := by
  unfold noticesOf withoutMarkers
  rw [List.filter_map]
  simp only [Function.comp_def, tellsMarker_notice]

theorem noticesOf_append (first second : List Event) :
    noticesOf settings (first ++ second) =
      noticesOf settings first ++
        noticesOf settings second :=
  List.map_append

/-
  A second run that does what the first one did, except that
  it finds the markers there.
-/
structure IsRerun
    (settings : Settings)
    (first second : Run) :
    Prop where
  tree : first.store.tree.SameNodes second.store.tree
  outcome :
    second.outcome = first.outcome.map Report.repeated
  notices :
    noticesOf settings second.events =
      (noticesOf settings first.events).filter
        fun notice => !notice.tellsMarker
  written :
    settings.skipUnchanged = true →
      second.store.written = first.store.written

/- The report of a repeated batch is the repeated report. -/
theorem Batch.Repeats.report
    {first second : Batch}
    (hRepeats : first.Repeats second)
    (elapsed : Double) :
    second.report elapsed =
      (first.report elapsed).repeated := by
  unfold Batch.report Report.repeated
  rw [hRepeats.results, hRepeats.failures]

/- The end of a repeated batch is told as before. -/
theorem Batch.Repeats.finish
    {first second : Batch}
    (hRepeats : first.Repeats second)
    (elapsed : Double)
    (hSame : first.store.tree.SameNodes second.store.tree)
    (hSilent :
      settings.skipUnchanged = true →
        second.store.written = first.store.written) :
    IsRerun settings (first.finish elapsed)
      (second.finish elapsed) := by
  have hSummed :
      Event.notice settings
          (.summed (second.report elapsed)) =
        Event.notice settings
          (.summed (first.report elapsed)) := by
    simp only [Event.notice, hRepeats.report,
      summaryEntries_repeated]
  unfold Batch.finish
  rw [hRepeats.failures]
  cases first.failures with
  | nil =>
      refine ⟨hSame, ?_, ?_, hSilent⟩
      · simp only [Except.map, hRepeats.report]
      · rw [← noticesOf_withoutMarkers]
        simp only [hRepeats.events, noticesOf_append,
          withoutMarkers_append]
        simp only [noticesOf, List.map_cons, hSummed]
        rfl
  | cons failure failures =>
      refine ⟨hSame, rfl, ?_, hSilent⟩
      rw [← noticesOf_withoutMarkers]
      simp only [hRepeats.events, noticesOf_append,
        withoutMarkers_append]
      simp only [noticesOf, List.map_cons, hSummed]
      rfl

------------------------------------------------------------
-- Second Runs
------------------------------------------------------------

variable {store : Store}

/- Components that are aggregated again are as before. -/
theorem runComponents_again
    (elapsed : Double)
    (hSited : AreSited viewer sites store.tree) :
    let components := sites.map Site.component
    let first :=
      runComponents viewer settings elapsed store components
    IsRerun settings first
      (runComponents viewer settings elapsed first.store
        components) := by
  have hWritten := runBatch_writtenAt hSited
  have hStore :
      (runComponents viewer settings elapsed store
          (sites.map Site.component)).store =
        (runBatch viewer settings store
          (sites.map Site.component)).store :=
    runComponents_store elapsed _
  rcases runBatch_again hSited
      (hSited.grows hWritten.grows)
      (fun _ _ _ _ => rfl) with
    ⟨hRepeats, hSame, hSilent⟩
  simp only [hStore]
  cases hComponents : sites.map Site.component with
  | nil =>
      exact ⟨fun _ => rfl, rfl, rfl, fun _ => rfl⟩
  | cons component rest =>
      rw [hComponents] at hRepeats hSame hSilent
      unfold runComponents
      simp only [hRepeats.stopped]
      cases (runBatch viewer settings store
          (component :: rest)).stopped with
      | some failure =>
          refine ⟨hSame, rfl, ?_, hSilent⟩
          rw [← noticesOf_withoutMarkers]
          exact congrArg (noticesOf settings)
            hRepeats.events
      | none => exact hRepeats.finish elapsed hSame hSilent

/-
  A second run finds what the first one found, and does the
  same once more.
-/
theorem run_rerun
    (viewer : Viewer)
    (settings : Settings)
    (elapsed : Double)
    (store : Store)
    (hFree : store.tree.IsLinkFree)
    (hPlain : settings.HasPlainNames)
    (hSorted : settings.sortEntries = true)
    (hIndex :
      settings.sourceExtension.isAtEnd
        settings.indexFileName = false) :
    let first := run viewer settings elapsed store
    let second := run viewer settings elapsed first.store
    scan first.store.tree viewer settings
          settings.componentsDirectory =
        scan store.tree viewer settings
          settings.componentsDirectory ∧
      IsRerun settings first second := by
  cases hScan :
      scan store.tree viewer settings
        settings.componentsDirectory with
  | error failure =>
      simp only [run_scan_error elapsed hScan]
      exact ⟨hScan, fun _ => rfl, rfl, rfl, fun _ => rfl⟩
  | ok components =>
      rcases scan_sites hFree hPlain hScan with
        ⟨home, _, sites, hLibrary, hSurvey⟩
      have hWritten :=
        runBatch_writtenAt hSurvey.sited
      rw [hSurvey.components] at hWritten
      have hAgain :=
        scan_stable hFree hWritten.grows hPlain hSorted
          hIndex hLibrary
          (hSurvey.changesOutputs hWritten.grows
            hWritten.changed) hScan
      rw [← run_store elapsed hScan] at hAgain
      refine ⟨hAgain, ?_⟩
      have hRerun :=
        runComponents_again elapsed hSurvey.sited
      rw [hSurvey.components] at hRerun
      simp only [run_scan_ok elapsed hAgain]
      simp only [run_scan_ok elapsed hScan]
      exact {
        tree := hRerun.tree
        outcome := hRerun.outcome
        notices :=
          congrArg
            (Event.notice settings .started :: ·)
            hRerun.notices
        written := hRerun.written }

theorem run_rerun_sampleStore :
    let first :=
      run sampleViewer sampleSettings (Double.zero false)
        sampleStore
    let second :=
      run sampleViewer sampleSettings (Double.zero false)
        first.store
    sampleStore.tree.IsLinkFree ∧
      sampleSettings.HasPlainNames ∧
      sampleSettings.sortEntries = true ∧
      sampleSettings.sourceExtension.isAtEnd
          sampleSettings.indexFileName = false ∧
      scan first.store.tree sampleViewer sampleSettings
          sampleSettings.componentsDirectory =
        scan sampleStore.tree sampleViewer sampleSettings
          sampleSettings.componentsDirectory ∧
      IsRerun sampleSettings first second :=
  ⟨sampleTree_isLinkFree, sampleSettings_hasPlainNames, rfl,
    by decide,
    run_rerun sampleViewer sampleSettings
      (Double.zero false) sampleStore sampleTree_isLinkFree
      sampleSettings_hasPlainNames rfl (by decide)⟩

end Aggregation
