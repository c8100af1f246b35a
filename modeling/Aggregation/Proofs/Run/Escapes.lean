import Aggregation.Proofs.Run.Caught
import Aggregation.Proofs.Run.Unbound
import Aggregation.Proofs.Scan.Faults

/-
  Failures that escape a run.

  A run takes care of what it lists and of what it writes.
  Three of its tests it leaves alone: for the library, for
  the entries of folders of elements and for markers.  It
  ends as documented unless one of them meets a fault.

  Key definitions include:
    * `EndsAsDocumented`
    * `Escapes`

  Key theorems include:
    * `Escapes.outcome`
    * `areCaught_of_not_escapes`
    * `endsAsDocumented_iff`
-/

------------------------------------------------------------
-- Outcomes
------------------------------------------------------------

namespace Aggregation

open Disk (Fault FileTree Store Viewer)
open Number (Double)

variable {viewer : Viewer}
variable {settings : Settings}
variable {components : List Component}
variable {store : Store}
variable {failure : Failure}

/- How a run ends that aggregates a batch. -/
def Batch.outcome
    (batch : Batch)
    (elapsed : Double) :
    Except Failure Report :=
  match batch.stopped with
  | some failure => .error failure
  | none =>
      match batch.failures with
      | [] => .ok (batch.report elapsed)
      | failures => .error (.components failures)

theorem runComponents_outcome
    (viewer : Viewer)
    (settings : Settings)
    (elapsed : Double)
    (store : Store)
    (components : List Component) :
    (runComponents viewer settings elapsed store
        components).outcome =
      (runBatch viewer settings store components).outcome
        elapsed := by
  cases components with
  | nil => rfl
  | cons component rest =>
      unfold runComponents Batch.outcome Batch.finish
      cases hStopped :
          (runBatch viewer settings store
            (component :: rest)).stopped with
      | some failure => simp only [hStopped]
      | none =>
          simp only [hStopped]
          cases (runBatch viewer settings store
              (component :: rest)).failures with
          | nil => rfl
          | cons failed others => rfl

------------------------------------------------------------
-- Documented Runs
------------------------------------------------------------

/- A failure that a run is documented to end with. -/
def Failure.IsDocumented (settings : Settings) :
    Failure → Prop
  | .file _ => True
  | .components _ => settings.failFast = false
  | _ => False

/- A failure that names a path is documented anyway. -/
theorem isDocumented_of_isFile
    (hFile : failure.isFile = true) :
    failure.IsDocumented settings := by
  rcases exists_fileError hFile with ⟨error, rfl⟩
  trivial

/-
  A run ends as documented.  It has a report or a failure
  that is told, and collecting failures keeps it from
  leaving out a component.
-/
structure EndsAsDocumented
    (viewer : Viewer)
    (settings : Settings)
    (elapsed : Double)
    (store : Store) :
    Prop where
  documented :
    ∀ failure,
      (run viewer settings elapsed store).outcome =
          .error failure →
        failure.IsDocumented settings
  processed :
    settings.failFast = false →
      ∀ components,
        scan store.tree viewer settings
              settings.componentsDirectory =
            .ok components →
          (runTurns viewer settings store).map
              Turn.component =
            components
  collected :
    settings.failFast = false →
      ∀ turn ∈ runTurns viewer settings store, ∀ failure,
        turn.result = .error failure →
          ∃ error failures,
            failure = .file error ∧
              (turn.component.directory, error) ∈ failures ∧
              (run viewer settings elapsed store).outcome =
                .error (.components failures)
  succeeds :
    ∀ report,
      (run viewer settings elapsed store).outcome =
          .ok report →
        let done := run viewer settings elapsed store
        runReported viewer settings elapsed store =
          (done.store, done.events, .exited true)
  reports :
    ∀ failure,
      (run viewer settings elapsed store).outcome =
          .error failure →
        let done := run viewer settings elapsed store
        runReported viewer settings elapsed store =
          (done.store, done.events ++ [.aborted failure],
            .exited false)

/-
  A fault of a test that a run leaves alone: for the library,
  for an entry of a folder of elements or for a marker.
-/
inductive Escapes
    (viewer : Viewer)
    (settings : Settings)
    (store : Store) :
    Path → Fault → Prop where
  | library
      {fault : Fault}
      (hTest :
        store.tree.exists? viewer
            settings.componentsDirectory =
          .error fault) :
      Escapes viewer settings store
        settings.componentsDirectory fault
  | element
      {item : Path}
      {name : Name}
      {fault : Fault}
      (hComponent :
        IsComponentDirectory store.tree viewer settings item)
      (hTest :
        store.tree.isFile? viewer
            ((item.join settings.elementsName.text).child
              name) =
          .error fault)
      (hScan :
        scan store.tree viewer settings
            settings.componentsDirectory =
          .error
            (.system
              ((item.join settings.elementsName.text).child
                name)
              fault)) :
      Escapes viewer settings store
        ((item.join settings.elementsName.text).child name)
        fault
  | marker
      {turn : Turn}
      {fault : Fault}
      (hTurn : turn ∈ runTurns viewer settings store)
      (hMisses :
        turn.MissesMarker viewer settings fault) :
      Escapes viewer settings store
        (aggregationPath settings turn.component.directory)
        fault

/- A failed scan that names no path lets a fault escape. -/
theorem escapes_of_scan
    (hScan :
      scan store.tree viewer settings
          settings.componentsDirectory =
        .error failure)
    (hUncaught : failure.isFile = false) :
    ∃ path fault, Escapes viewer settings store path fault := by
  cases scan_eq_error hScan with
  | library hTest => exact ⟨_, _, .library hTest⟩
  | search hSearch =>
      cases hSearch with
      | file error => contradiction
      | element hComponent _ hTest =>
          exact ⟨_, _, .element hComponent hTest hScan⟩

/- An escaping fault ends the run. -/
theorem Escapes.outcome
    {path : Path}
    {fault : Fault}
    (hEscapes : Escapes viewer settings store path fault)
    (elapsed : Double) :
    (run viewer settings elapsed store).outcome =
      .error (.system path fault) := by
  cases hEscapes with
  | library hTest =>
      have hScan :
          scan store.tree viewer settings
              settings.componentsDirectory =
            .error
              (.system settings.componentsDirectory
                fault) := by
        unfold scan
        simp only [hTest]
      rw [run_scan_error elapsed hScan]
  | element hComponent hTest hScan =>
      rw [run_scan_error elapsed hScan]
  | @marker turn _ hTurn hMisses =>
      cases hScan :
          scan store.tree viewer settings
            settings.componentsDirectory with
      | error failure =>
          rw [runTurns_scan_error hScan] at hTurn
          exact absurd hTurn List.not_mem_nil
      | ok components =>
          rw [runTurns_eq hScan] at hTurn
          rcases eq_take_of_mem_turnsOf hTurn with
            ⟨_, hTaken⟩
          have hResult :
              turn.result =
                .error
                  (.system
                    (aggregationPath settings
                      turn.component.directory)
                    fault) := by
            rw [hTaken] at hMisses ⊢
            exact hMisses.result
          rw [run_scan_ok elapsed hScan]
          simp only
          rw [runComponents_outcome]
          unfold Batch.outcome
          rw [runBatch_uncaught hTurn hResult rfl]

/- Without escaping faults every failure names a path. -/
theorem areCaught_of_not_escapes
    (hNames : settings.AreNullFree)
    (hNone :
      ∀ path fault,
        ¬Escapes viewer settings store path fault)
    (hScan :
      scan store.tree viewer settings
          settings.componentsDirectory =
        .ok components) :
    AreCaught
      (turnsOf viewer settings store components) := by
  intro turn hTurn failure hResult
  rcases eq_take_of_mem_turnsOf hTurn with
    ⟨hComponent, hTaken⟩
  have hDirectory :=
    FileTree.isNullFree_of_leadsToDirectory
      (isHoused_of_scan hScan turn.component
        hComponent).directory
  rw [hTaken] at hResult
  rcases Turn.take_failure hNames hDirectory hResult with
    hFile | ⟨fault, hMisses, _⟩
  · exact hFile
  · rw [← hTaken] at hMisses
    rw [← runTurns_eq hScan] at hTurn
    exact absurd (.marker hTurn hMisses) (hNone _ fault)

/- A documented failure is told to the user. -/
theorem runReported_of_documented
    {elapsed : Double}
    (hOutcome :
      (run viewer settings elapsed store).outcome =
        .error failure)
    (hDocumented : failure.IsDocumented settings) :
    let done := run viewer settings elapsed store
    runReported viewer settings elapsed store =
      (done.store, done.events ++ [.aborted failure],
        .exited false) := by
  have hReported : failure.isReported = true := by
    cases failure with
    | file error => rfl
    | components failures => rfl
    | system path fault => exact hDocumented.elim
    | rendering error => exact hDocumented.elim
  unfold runReported
  simp only [hOutcome, hReported, if_true]

/- A run over turns that are caught ends as documented. -/
theorem isDocumented_of_caught
    {elapsed : Double}
    (hScan :
      scan store.tree viewer settings
          settings.componentsDirectory =
        .ok components)
    (hCaught :
      AreCaught (turnsOf viewer settings store components))
    (hOutcome :
      (run viewer settings elapsed store).outcome =
        .error failure) :
    failure.IsDocumented settings := by
  rw [run_scan_ok elapsed hScan] at hOutcome
  simp only at hOutcome
  rw [runComponents_outcome] at hOutcome
  unfold Batch.outcome at hOutcome
  cases hStopped :
      (runBatch viewer settings store
        components).stopped with
  | some other =>
      simp only [hStopped] at hOutcome
      injection hOutcome with hFailure
      rw [hFailure] at hStopped
      exact isDocumented_of_isFile
        (isFile_of_stopped hCaught hStopped)
  | none =>
      simp only [hStopped] at hOutcome
      cases hFast : settings.failFast with
      | true =>
          rw [failures_of_failFast hFast] at hOutcome
          contradiction
      | false =>
          split at hOutcome
          · contradiction
          · injection hOutcome with hFailure
            rw [← hFailure]
            exact hFast

/- A run that collects failures collects each of them. -/
theorem exists_collected
    {elapsed : Double}
    {turn : Turn}
    (hScan :
      scan store.tree viewer settings
          settings.componentsDirectory =
        .ok components)
    (hComplete :
      (runBatch viewer settings store
        components).IsComplete components
          (turnsOf viewer settings store components))
    (hTurn :
      turn ∈ turnsOf viewer settings store components)
    (hResult : turn.result = .error failure)
    (hFile : failure.isFile = true) :
    ∃ error failures,
      failure = .file error ∧
        (turn.component.directory, error) ∈ failures ∧
        (run viewer settings elapsed store).outcome =
          .error (.components failures) := by
  rcases exists_fileError hFile with ⟨error, rfl⟩
  have hMember :
      (turn.component.directory, error) ∈
        (runBatch viewer settings store
          components).failures := by
    rw [hComplete.failures]
    exact List.mem_filterMap.mpr
      ⟨turn, hTurn, failure?_eq_some hResult⟩
  refine ⟨error, _, rfl, hMember, ?_⟩
  rw [run_scan_ok elapsed hScan]
  simp only
  rw [runComponents_outcome]
  unfold Batch.outcome
  simp only [hComplete.stopped]
  cases hFailures :
      (runBatch viewer settings store
        components).failures with
  | nil =>
      rw [hFailures] at hMember
      exact absurd hMember List.not_mem_nil
  | cons failed others => rfl

/-
  A run ends as documented if and only if none of the tests
  that it leaves alone meets a fault.
-/
theorem endsAsDocumented_iff
    (viewer : Viewer)
    (settings : Settings)
    (elapsed : Double)
    (store : Store)
    (hNames : settings.AreNullFree) :
    EndsAsDocumented viewer settings elapsed store ↔
      ∀ path fault,
        ¬Escapes viewer settings store path fault := by
  constructor
  · intro hEnds path fault hEscapes
    exact hEnds.documented _ (hEscapes.outcome elapsed)
  · intro hNone
    have hDocumented :
        ∀ failure,
          (run viewer settings elapsed store).outcome =
              .error failure →
            failure.IsDocumented settings := by
      intro failure hOutcome
      cases hScan :
          scan store.tree viewer settings
            settings.componentsDirectory with
      | ok components =>
          exact isDocumented_of_caught hScan
            (areCaught_of_not_escapes hNames hNone hScan)
            hOutcome
      | error other =>
          rw [run_scan_error elapsed hScan] at hOutcome
          injection hOutcome with hFailure
          rw [hFailure] at hScan
          cases hFile : failure.isFile with
          | true => exact isDocumented_of_isFile hFile
          | false =>
              rcases escapes_of_scan hScan hFile with
                ⟨path, fault, hEscapes⟩
              exact absurd hEscapes (hNone path fault)
    refine ⟨hDocumented, ?_, ?_, ?_, ?_⟩
    · intro hCollects components hScan
      rw [runTurns_eq hScan]
      exact (runBatch_collects hCollects
        (areCaught_of_not_escapes hNames hNone
          hScan)).components
    · intro hCollects turn hTurn failure hResult
      cases hScan :
          scan store.tree viewer settings
            settings.componentsDirectory with
      | error other =>
          rw [runTurns_scan_error hScan] at hTurn
          exact absurd hTurn List.not_mem_nil
      | ok components =>
          rw [runTurns_eq hScan] at hTurn
          have hCaught :=
            areCaught_of_not_escapes hNames hNone hScan
          exact exists_collected hScan
            (runBatch_collects hCollects hCaught) hTurn
            hResult (hCaught turn hTurn failure hResult)
    · intro report hReport
      unfold runReported
      simp only [hReport]
    · intro failure hOutcome
      exact runReported_of_documented hOutcome
        (hDocumented failure hOutcome)

theorem endsAsDocumented_sampleStore :
    sampleSettings.AreNullFree ∧
      (∀ path fault,
        ¬Escapes sampleViewer sampleSettings sampleStore path
          fault) ∧
      EndsAsDocumented sampleViewer sampleSettings
        (Double.zero false) sampleStore := by
  have hNames : sampleSettings.AreNullFree :=
    ⟨by decide, by decide, by decide⟩
  have hOk :
      (run sampleViewer sampleSettings (Double.zero false)
          sampleStore).outcome.isOk = true := by
    decide +kernel
  have hNone :
      ∀ path fault,
        ¬Escapes sampleViewer sampleSettings sampleStore path
          fault := by
    intro path fault hEscapes
    rw [hEscapes.outcome (Double.zero false)] at hOk
    contradiction
  exact ⟨hNames, hNone,
    (endsAsDocumented_iff sampleViewer sampleSettings
      (Double.zero false) sampleStore hNames).mpr hNone⟩

/-
  The sample library, where the marker of the first of two
  components is a link into a directory that nobody may
  search.
-/
def barredTree : FileTree :=
  (sampleTree.attach [] "locked"
      (.directory ⟨true, true, false⟩)
      ⟨by decide, ⟨.all, rfl⟩, rfl⟩).attach
    ["x", "a", "lib"] "elements.ts"
    (.link "../../../locked/marker")
    ⟨by decide, ⟨.all, rfl⟩, rfl⟩

/- The test for a marker ends even a run that collects. -/
theorem not_endsAsDocumented_barredTree :
    ¬EndsAsDocumented sampleViewer sampleSettings.collecting
      (Double.zero false) ⟨barredTree, []⟩ := by
  have hScan :
      scan barredTree sampleViewer sampleSettings.collecting
          sampleSettings.collecting.componentsDirectory =
        .ok sampleComponents := by
    decide +kernel
  let first : Component :=
    ⟨⟨.relative, ["x", "a", "lib"]⟩, ["y"], none⟩
  let turn :=
    Turn.take sampleViewer sampleSettings.collecting
      ⟨barredTree, []⟩ first
  have hTurn :
      turn ∈ runTurns sampleViewer sampleSettings.collecting
        ⟨barredTree, []⟩ := by
    rw [runTurns_eq hScan]
    exact List.mem_cons_self
  have hMisses :
      turn.MissesMarker sampleViewer
        sampleSettings.collecting .denied := by
    unfold Turn.MissesMarker
    decide +kernel
  have hEscapes := Escapes.marker hTurn hMisses
  intro hEnds
  exact hEnds.documented _
    (hEscapes.outcome (Double.zero false))

end Aggregation
