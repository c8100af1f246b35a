import Aggregation.Proofs.Run.Contents
import Aggregation.Proofs.Run.Sparing
import Aggregation.Proofs.Scan.Unbound

/-
  Runs that permission bits do not stop.

  A run of a viewer whom the bits bind fails, or it tells
  and leaves what it would if there were no bits.  Whatever
  is refused on the way ends in a failure.

  Key definitions include:
    * `Output.IsHoused`
    * `Component.IsHoused`

  Key theorems include:
    * `Output.emit_unbound`
    * `process_unbound`
    * `runBatch_unbound`
    * `bits_hide_nothing`
-/

------------------------------------------------------------
-- Generated Files
------------------------------------------------------------

namespace Aggregation

open Disk (FileTree Store Viewer)
open Number (Double)

variable {viewer : Viewer}
variable {settings : Settings}
variable {component : Component}
variable {components : List Component}
variable {store : Store}

/- The directory of a file to generate is there. -/
structure Output.IsHoused
    (output : Output)
    (viewer : Viewer)
    (tree : FileTree) :
    Prop where
  directory :
    tree.LeadsToDirectory viewer output.path.parent
  named : output.path.parent.name ≠ "."

theorem Output.IsHoused.extends
    {output : Output}
    {before after : FileTree}
    (hHoused : output.IsHoused viewer before)
    (hExtends : FileTree.Extends before after) :
    output.IsHoused viewer after where
  directory := hExtends.leadsToDirectory hHoused.directory
  named := hHoused.named

/- A file that is generated is not generated otherwise. -/
theorem Output.emit_unbound
    {output : Output}
    {skipUnchanged : Bool}
    (hHoused : output.IsHoused viewer store.tree)
    {path : Path}
    (hEmit :
      (output.emit viewer skipUnchanged store).2 =
        .ok path) :
    output.emit viewer.unbound skipUnchanged store =
      output.emit viewer skipUnchanged store := by
  unfold Output.emit at hEmit ⊢
  cases hRender : output.template.render output.context with
  | error error => rfl
  | ok text =>
      simp only [hRender] at hEmit ⊢
      have hSaved :
          (store.save viewer skipUnchanged output.path
              text).2 ≠
            .error .denied := by
        intro hDenied
        rcases hSave :
            store.save viewer skipUnchanged output.path
              text with
          ⟨after, answer⟩
        rw [hSave] at hDenied
        simp only at hDenied
        subst hDenied
        simp [hSave] at hEmit
      rw [Store.save_unbound hHoused.directory
        hHoused.named hSaved]

theorem emitAll_unbound
    {skipUnchanged : Bool}
    {outputs : List Output}
    (hHoused :
      ∀ output ∈ outputs,
        output.IsHoused viewer store.tree)
    {paths : List Path}
    (hEmit :
      (emitAll viewer skipUnchanged store outputs).2 =
        .ok paths) :
    emitAll viewer.unbound skipUnchanged store outputs =
      emitAll viewer skipUnchanged store outputs := by
  induction outputs generalizing store paths with
  | nil => rfl
  | cons output rest ih =>
      have hExtends :=
        output.emit_extends viewer skipUnchanged store
      have hHere := hHoused output List.mem_cons_self
      unfold emitAll at hEmit ⊢
      rcases hFirst :
          output.emit viewer skipUnchanged store with
        ⟨after, answer⟩
      rw [hFirst] at hExtends
      cases answer with
      | error failure => simp [hFirst] at hEmit
      | ok path =>
          rw [Output.emit_unbound hHere (by rw [hFirst]),
            hFirst]
          simp only [hFirst] at hEmit ⊢
          have hRest :
              ∀ next ∈ rest,
                next.IsHoused viewer after.tree :=
            fun next hNext =>
              (hHoused next
                (List.mem_cons_of_mem output hNext)).extends
                  hExtends.tree
          rcases hLater :
              emitAll viewer skipUnchanged after rest with
            ⟨final, answers⟩
          cases answers with
          | error failure => simp [hLater] at hEmit
          | ok others =>
              rw [ih hRest (by rw [hLater]), hLater]

------------------------------------------------------------
-- Components
------------------------------------------------------------

/- A component and its folder of elements are there. -/
structure Component.IsHoused
    (component : Component)
    (viewer : Viewer)
    (settings : Settings)
    (tree : FileTree) :
    Prop where
  directory :
    tree.LeadsToDirectory viewer component.directory
  named : component.directory.name ≠ "."
  elements :
    IsComponentDirectory tree viewer settings
      component.directory

theorem Component.IsHoused.extends
    {before after : FileTree}
    (hHoused :
      component.IsHoused viewer settings before)
    (hExtends : FileTree.Extends before after) :
    component.IsHoused viewer settings after where
  directory := hExtends.leadsToDirectory hHoused.directory
  named := hHoused.named
  elements := hExtends.leadsToDirectory hHoused.elements

/- Files at the root of a component lie in its directory. -/
theorem Component.IsHoused.aggregation
    {tree : FileTree}
    (hPlain : settings.HasPlainNames)
    (hHoused : component.IsHoused viewer settings tree)
    (template : Template)
    (context : Fields) :
    Output.IsHoused
      ⟨aggregationPath settings component.directory,
        template, context⟩
      viewer tree := by
  unfold aggregationPath
  rw [hPlain.join_aggregationName]
  exact ⟨hHoused.directory, hHoused.named⟩

/- The directories of all files of a component are there. -/
theorem Component.IsHoused.outputs
    {tree : FileTree}
    (hPlain : settings.HasPlainNames)
    (hHoused : component.IsHoused viewer settings tree) :
    ∀ output ∈ component.outputs settings,
      output.IsHoused viewer tree := by
  intro output hOutput
  unfold Component.outputs at hOutput
  cases hStrategy : component.strategy with
  | composed =>
      simp only [hStrategy] at hOutput
      rw [List.mem_singleton.mp hOutput]
      exact hHoused.aggregation hPlain _ _
  | barrel =>
      simp only [hStrategy] at hOutput
      rcases List.mem_cons.mp hOutput with hIndex | hWrapper
      · have hElements := hHoused.elements
        unfold IsComponentDirectory at hElements
        rw [hPlain.join_elementsName] at hElements
        rw [hIndex]
        unfold indexOutput indexPath
        rw [hPlain.join_elementsName,
          hPlain.join_indexFileName]
        exact ⟨hElements, hPlain.notHere⟩
      · rw [List.mem_singleton.mp hWrapper]
        exact hHoused.aggregation hPlain _ _

/- What is taken for no marker is not just out of sight. -/
theorem hasMarker_unbound
    {directory : Path}
    {marked : Bool}
    (hMarked :
      hasMarker store viewer settings directory =
        .ok marked) :
    hasMarker store viewer.unbound settings directory =
      .ok marked := by
  unfold hasMarker at hMarked ⊢
  cases hTest :
      store.tree.exists? viewer
        (aggregationPath settings directory) with
  | error fault => simp [hTest] at hMarked
  | ok answer =>
      have hUnbound :
          store.tree.exists? viewer.unbound
              (aggregationPath settings directory) =
            .ok answer :=
        test_unbound_of_ok hTest
      simp only [hTest] at hMarked
      simp only [hUnbound]
      exact hMarked

theorem ensureMarker_unbound
    (hPlain : settings.HasPlainNames)
    (hHoused :
      component.IsHoused viewer settings store.tree)
    {marker : Option Path}
    (hMarker :
      (ensureMarker store viewer settings
          component.directory).2 =
        .ok marker) :
    ensureMarker store viewer.unbound settings
        component.directory =
      ensureMarker store viewer settings
        component.directory := by
  rcases exists_hasMarker hMarker with ⟨marked, hMarked⟩
  unfold ensureMarker at hMarker ⊢
  rw [hasMarker_unbound hMarked]
  simp only [hMarked] at hMarker ⊢
  cases marked with
  | true => rfl
  | false =>
      have hPlaceholder :
          (placeholderOutput settings
            component.directory).IsHoused viewer
              store.tree :=
        hHoused.aggregation hPlain _ _
      simp only at hMarker ⊢
      rcases hEmit :
          (placeholderOutput settings
            component.directory).emit viewer
              settings.skipUnchanged store with
        ⟨after, answer⟩
      cases answer with
      | error failure => simp [hEmit] at hMarker
      | ok path =>
          rw [Output.emit_unbound hPlaceholder
            (by rw [hEmit]), hEmit]

/- Work that is finished is not refused anything. -/
theorem process_unbound
    (hPlain : settings.HasPlainNames)
    (hHoused :
      component.IsHoused viewer settings store.tree)
    {created : Bool}
    {files : List Path}
    (hFinished :
      (process viewer settings component store).2 =
        .finished created files) :
    process viewer.unbound settings component store =
      process viewer settings component store := by
  have hExtends :=
    ensureMarker_extends store viewer settings
      component.directory
  unfold process at hFinished ⊢
  rcases hMarker :
      ensureMarker store viewer settings
        component.directory with
    ⟨after, answer⟩
  rw [hMarker] at hExtends
  cases answer with
  | error failure => simp [hMarker] at hFinished
  | ok marker =>
      rw [ensureMarker_unbound hPlain hHoused
        (by rw [hMarker]), hMarker]
      simp only [hMarker] at hFinished ⊢
      have hOutputs :=
        (hHoused.extends hExtends.tree).outputs hPlain
      rcases hEmit :
          emitAll viewer settings.skipUnchanged after
            (component.outputs settings) with
        ⟨final, answers⟩
      cases answers with
      | error failure => simp [hEmit] at hFinished
      | ok paths =>
          rw [emitAll_unbound hOutputs (by rw [hEmit]),
            hEmit]

------------------------------------------------------------
-- Runs
------------------------------------------------------------

theorem runBatch_unbound
    (hPlain : settings.HasPlainNames)
    (hHoused :
      ∀ component ∈ components,
        component.IsHoused viewer settings store.tree)
    (hStopped :
      (runBatch viewer settings store components).stopped =
        none)
    (hFailures :
      (runBatch viewer settings store components).failures =
        []) :
    runBatch viewer.unbound settings store components =
      runBatch viewer settings store components := by
  induction components generalizing store with
  | nil => rfl
  | cons component rest ih =>
      rcases runBatch_unfailing hStopped hFailures with
        ⟨⟨created, files, hFinished⟩, hLater⟩
      have hExtends :=
        process_extends viewer settings component store
      have hRest :
          ∀ next ∈ rest,
            next.IsHoused viewer settings
              (process viewer settings component
                store).1.tree :=
        fun next hNext =>
          (hHoused next
            (List.mem_cons_of_mem component hNext)).extends
              hExtends.tree
      have hProcess :=
        process_unbound hPlain
          (hHoused component List.mem_cons_self) hFinished
      rw [runBatch_cons, runBatch_cons]
      simp only [hProcess, ih hRest hLater.1 hLater.2]

/- A scan finds components whose directories are there. -/
theorem isHoused_of_scan
    {tree : FileTree}
    {library : Path}
    (hScan :
      scan tree viewer settings library = .ok components) :
    ∀ component ∈ components,
      component.IsHoused viewer settings tree := by
  intro component hComponent
  rcases exists_componentTrail hScan hComponent with
    ⟨trail, hTrail, hHere⟩
  have hSplit :=
    List.dropLast_append_getLast hTrail.nonempty
  have hLast :=
    hTrail.listed trail.dropLast
      (trail.getLast hTrail.nonempty) [] hSplit.symm
  rw [hSplit] at hLast
  exact {
    directory := by
      rw [hHere]
      exact hLast.2
    named := by
      rw [hHere]
      exact hTrail.name_ne
    elements := by
      rw [hHere]
      exact hTrail.component }

theorem run_unbound
    (hPlain : settings.HasPlainNames)
    {elapsed : Double}
    {report : Report}
    (hReport :
      (run viewer settings elapsed store).outcome =
        .ok report) :
    run viewer.unbound settings elapsed store =
      run viewer settings elapsed store := by
  rcases run_outcome_eq_ok hReport with
    ⟨components, hScan, hStopped, hFailures⟩
  have hBatch :=
    runBatch_unbound hPlain (isHoused_of_scan hScan)
      hStopped hFailures
  have hSame :
      runComponents viewer.unbound settings elapsed store
          components =
        runComponents viewer settings elapsed store
          components := by
    cases components with
    | nil => rfl
    | cons component rest =>
        unfold runComponents
        simp only [hBatch]
  rw [run_scan_ok elapsed hScan,
    run_scan_ok elapsed (scan_unbound hScan), hSame]

------------------------------------------------------------
-- Missing Permissions
------------------------------------------------------------

/-
  Permission bits make a scan or a run fail, but they never
  make it leave out anything.
-/
theorem bits_hide_nothing (viewer : Viewer) :
    (∀ tree settings library components,
      scan tree viewer settings library = .ok components →
        scan tree viewer.unbound settings library =
          .ok components) ∧
    ∀ settings elapsed store report,
      settings.HasPlainNames →
        (run viewer settings elapsed store).outcome =
            .ok report →
          run viewer.unbound settings elapsed store =
            run viewer settings elapsed store := by
  constructor
  · intro tree settings library components hScan
    exact scan_unbound hScan
  · intro settings elapsed store report hPlain hReport
    exact run_unbound hPlain hReport

/-
  The sample library, whose directory cannot be changed and
  one of whose elements cannot be read.
-/
def restrictedTree : FileTree :=
  (sampleTree.setPermissions ["lib"]
      ⟨true, false, true⟩).setPermissions
    ["c.svelte", "elements", "a-b", "lib"]
    ⟨false, false, false⟩

theorem bits_hide_nothing_restrictedTree :
    sampleViewer.bound = true ∧
      scan restrictedTree sampleViewer sampleSettings
          sampleSettings.componentsDirectory =
        .ok sampleComponents ∧
      scan restrictedTree sampleViewer.unbound sampleSettings
          sampleSettings.componentsDirectory =
        .ok sampleComponents ∧
      sampleSettings.HasPlainNames ∧
      ∃ report,
        (run sampleViewer sampleSettings (Double.zero false)
            ⟨restrictedTree, []⟩).outcome =
          .ok report ∧
        run sampleViewer.unbound sampleSettings
            (Double.zero false) ⟨restrictedTree, []⟩ =
          run sampleViewer sampleSettings
            (Double.zero false) ⟨restrictedTree, []⟩ := by
  have hScan :
      scan restrictedTree sampleViewer sampleSettings
          sampleSettings.componentsDirectory =
        .ok sampleComponents := by
    decide +kernel
  have hOk :
      (run sampleViewer sampleSettings (Double.zero false)
          ⟨restrictedTree, []⟩).outcome.isOk = true := by
    decide +kernel
  rcases bits_hide_nothing sampleViewer with
    ⟨hScans, hRuns⟩
  refine ⟨rfl, hScan,
    hScans restrictedTree sampleSettings
      sampleSettings.componentsDirectory sampleComponents
      hScan,
    sampleSettings_hasPlainNames, ?_⟩
  cases hReport :
      (run sampleViewer sampleSettings (Double.zero false)
        ⟨restrictedTree, []⟩).outcome with
  | error failure =>
      rw [hReport] at hOk
      contradiction
  | ok report =>
      exact ⟨report, rfl,
        hRuns sampleSettings (Double.zero false)
          ⟨restrictedTree, []⟩ report
          sampleSettings_hasPlainNames hReport⟩

end Aggregation
