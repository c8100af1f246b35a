import Aggregation.Proofs.Disk.NullCharacter
import Aggregation.Proofs.Emission.Modules
import Aggregation.Proofs.Run.FailFast

/-
  Failures that a batch takes care of.

  A component fails to write a file, which names the path,
  or its marker cannot be tested for.  Failures that name a
  path are collected if the settings ask for it; any other
  failure stops the batch.

  Key definitions include:
    * `Settings.AreNullFree`
    * `Output.IsSound`
    * `Turn.MissesMarker`
    * `AreCaught`
    * `Batch.IsComplete`

  Key theorems include:
    * `Turn.take_failure`
    * `runBatch_uncaught`
    * `runBatch_collects`
-/

------------------------------------------------------------
-- Writing Files
------------------------------------------------------------

namespace Aggregation

open Disk (Fault Store Viewer)

variable {viewer : Viewer}
variable {settings : Settings}
variable {component : Component}
variable {components : List Component}
variable {store : Store}
variable {failure : Failure}

/- No name in the settings has a null character. -/
structure Settings.AreNullFree (settings : Settings) :
    Prop where
  elements : '\x00' ∉ settings.elementsName.text.toList
  index : '\x00' ∉ settings.indexName.text.toList
  output : '\x00' ∉ settings.outputExtension.text.toList

/- A file whose path can be asked for and has a text. -/
structure Output.IsSound (output : Output) : Prop where
  nullFree : output.path.IsNullFree
  rendered :
    ∃ text,
      output.template.render output.context = .ok text

/- A failure that names a path is one of a file. -/
theorem exists_fileError
    (hFile : failure.isFile = true) :
    ∃ error, failure = .file error := by
  cases failure with
  | file error => exact ⟨error, rfl⟩
  | system path fault => contradiction
  | rendering error => contradiction
  | components failures => contradiction

/- A file that is not written is named. -/
theorem Output.IsSound.emit_failure
    {output : Output}
    (hSound : output.IsSound)
    {skipUnchanged : Bool}
    (hEmit :
      (output.emit viewer skipUnchanged store).2 =
        .error failure) :
    failure.isFile = true := by
  rcases hSound.rendered with ⟨text, hText⟩
  unfold Output.emit at hEmit
  simp only [hText] at hEmit
  split at hEmit
  · rename_i after fault hSave
    have hFault : fault ≠ .nullCharacter :=
      Store.save_ne_null hSound.nullFree (by rw [hSave])
    injection hEmit with hFailure
    unfold Failure.ofWriting at hFailure
    rw [if_neg hFault] at hFailure
    rw [← hFailure]
    rfl
  · contradiction

theorem emitAll_failure
    {skipUnchanged : Bool}
    {outputs : List Output}
    (hSound : ∀ output ∈ outputs, output.IsSound)
    (hEmit :
      (emitAll viewer skipUnchanged store outputs).2 =
        .error failure) :
    failure.isFile = true := by
  induction outputs generalizing store with
  | nil => contradiction
  | cons output rest ih =>
      rcases emitAll_cons_eq_error hEmit with hFirst | hRest
      · exact (hSound output List.mem_cons_self).emit_failure
          hFirst
      · refine ih (fun next hNext => ?_) hRest
        exact hSound next (List.mem_cons_of_mem output hNext)

/- The files of a component can be asked for and rendered. -/
theorem Settings.AreNullFree.aggregationPath
    (hNames : settings.AreNullFree)
    {directory : Path}
    (hDirectory : directory.IsNullFree) :
    (aggregationPath settings directory).IsNullFree := by
  apply hDirectory.join
  unfold Settings.aggregationName
  rw [String.toList_append, List.mem_append, not_or]
  exact ⟨hNames.elements, hNames.output⟩

theorem Settings.AreNullFree.indexPath
    (hNames : settings.AreNullFree)
    {directory : Path}
    (hDirectory : directory.IsNullFree) :
    (indexPath settings directory).IsNullFree := by
  apply (hDirectory.join hNames.elements).join
  unfold Settings.indexFileName
  rw [String.toList_append, List.mem_append, not_or]
  exact ⟨hNames.index, hNames.output⟩

theorem Component.isSound_outputs
    (hNames : settings.AreNullFree)
    (hDirectory : component.directory.IsNullFree) :
    ∀ output ∈ component.outputs settings,
      output.IsSound := by
  have hAggregation := hNames.aggregationPath hDirectory
  intro output hOutput
  unfold Component.outputs Component.strategy at hOutput
  cases hRoot : component.rootFile with
  | some root =>
      simp only [hRoot] at hOutput
      rw [List.mem_singleton.mp hOutput]
      exact ⟨hAggregation, _, render_composed _ _ _ _⟩
  | none =>
      simp only [hRoot] at hOutput
      rcases List.mem_cons.mp hOutput with hIndex | hWrapper
      · rw [hIndex]
        exact ⟨hNames.indexPath hDirectory, _,
          render_index settings component.elements⟩
      · rw [List.mem_singleton.mp hWrapper]
        exact ⟨hAggregation, _, render_wrapper settings⟩

------------------------------------------------------------
-- Turns
------------------------------------------------------------

/- The test for the marker of a turn meets a fault. -/
def Turn.MissesMarker
    (turn : Turn)
    (viewer : Viewer)
    (settings : Settings)
    (fault : Fault) :
    Prop :=
  turn.before.tree.exists? viewer
      (aggregationPath settings turn.component.directory) =
    .error fault

/- A marker cannot be tested for or cannot be written. -/
theorem ensureMarker_failure
    (hNames : settings.AreNullFree)
    {directory : Path}
    (hDirectory : directory.IsNullFree)
    (hMarker :
      (ensureMarker store viewer settings directory).2 =
        .error failure) :
    failure.isFile = true ∨
      ∃ fault,
        store.tree.exists? viewer
            (aggregationPath settings directory) =
          .error fault ∧
        failure =
          .system (aggregationPath settings directory)
            fault := by
  have hPlaceholder :
      (placeholderOutput settings directory).IsSound :=
    ⟨hNames.aggregationPath hDirectory, _,
      render_placeholder settings⟩
  rcases ensureMarker_missed hMarker with hTest | hEmit
  · right
    unfold hasMarker at hTest
    cases hExists :
        store.tree.exists? viewer
          (aggregationPath settings directory) with
    | error fault =>
        simp only [hExists] at hTest
        injection hTest with hFailure
        exact ⟨fault, rfl, hFailure.symm⟩
    | ok marked => simp [hExists] at hTest
  · exact .inl (hPlaceholder.emit_failure hEmit)

/- A turn fails to write a file or to test for a marker. -/
theorem Turn.take_failure
    (hNames : settings.AreNullFree)
    (hDirectory : component.directory.IsNullFree)
    (hResult :
      (Turn.take viewer settings store component).result =
        .error failure) :
    failure.isFile = true ∨
      ∃ fault,
        (Turn.take viewer settings store
            component).MissesMarker viewer settings fault ∧
          failure =
            .system
              (aggregationPath settings component.directory)
              fault := by
  rcases process_failure hResult with hMarker | hFiles
  · exact ensureMarker_failure hNames hDirectory hMarker
  · exact .inl (emitAll_failure
      (component.isSound_outputs hNames hDirectory) hFiles)

/- A marker that is not tested for fails its turn. -/
theorem Turn.MissesMarker.result
    {fault : Fault}
    (hMisses :
      (Turn.take viewer settings store
          component).MissesMarker viewer settings fault) :
    (Turn.take viewer settings store component).result =
      .error
        (.system
          (aggregationPath settings component.directory)
          fault) := by
  have hTest :
      store.tree.exists? viewer
          (aggregationPath settings component.directory) =
        .error fault :=
    hMisses
  unfold Turn.result Turn.take process ensureMarker hasMarker
  simp only [hTest, Outcome.result]

/- Turns are taken by components one after the other. -/
theorem eq_take_of_mem_turnsOf
    {turn : Turn}
    (hTurn :
      turn ∈ turnsOf viewer settings store components) :
    turn.component ∈ components ∧
      turn =
        Turn.take viewer settings turn.before
          turn.component := by
  induction components generalizing store with
  | nil => exact absurd hTurn List.not_mem_nil
  | cons component rest ih =>
      rw [turnsOf_cons] at hTurn
      rcases List.mem_cons.mp hTurn with hFirst | hLater
      · rw [hFirst]
        exact ⟨List.mem_cons_self, rfl⟩
      · split at hLater
        · rcases ih hLater with ⟨hRest, hTaken⟩
          exact ⟨List.mem_cons_of_mem component hRest,
            hTaken⟩
        · exact absurd hLater List.not_mem_nil

------------------------------------------------------------
-- Batches
------------------------------------------------------------

/- The failure of a turn that names a path. -/
def Turn.failure? (turn : Turn) :
    Option (Path × FileError) :=
  match turn.result with
  | .error (.file error) =>
      some (turn.component.directory, error)
  | _ => none

theorem failure?_eq_some
    {turn : Turn}
    {error : FileError}
    (hResult : turn.result = .error (.file error)) :
    turn.failure? =
      some (turn.component.directory, error) := by
  unfold Turn.failure?
  simp only [hResult]

/- A failure that names no path stops its batch. -/
theorem runBatch_uncaught
    {turn : Turn}
    (hTurn :
      turn ∈ turnsOf viewer settings store components)
    (hResult : turn.result = .error failure)
    (hUncaught : failure.isFile = false) :
    (runBatch viewer settings store components).stopped =
      some failure := by
  induction components generalizing store with
  | nil => exact absurd hTurn List.not_mem_nil
  | cons component rest ih =>
      rw [turnsOf_cons] at hTurn
      rcases runBatch_take viewer settings store component
          rest with
        ⟨hOn, results, failures, hBatch⟩ |
          ⟨hOff, other, hOther, hBatch⟩
      · rw [hBatch]
        rcases List.mem_cons.mp hTurn with hFirst | hLater
        · rw [hFirst] at hResult
          unfold Turn.goesOn at hOn
          rw [hResult] at hOn
          cases failure with
          | file error => contradiction
          | system path fault => contradiction
          | rendering error => contradiction
          | components failures => contradiction
        · rw [hOn, if_pos rfl] at hLater
          exact ih hLater
      · rw [hBatch]
        rcases List.mem_cons.mp hTurn with hFirst | hLater
        · rw [hFirst, hOther] at hResult
          injection hResult with hSame
          rw [hSame]
        · rw [hOff, if_neg Bool.false_ne_true] at hLater
          exact absurd hLater List.not_mem_nil

/- No failure of some turns stops a batch that collects. -/
def AreCaught (turns : List Turn) : Prop :=
  ∀ turn ∈ turns, ∀ failure,
    turn.result = .error failure → failure.isFile = true

/- A batch stops at a failure that names a path, at most. -/
theorem isFile_of_stopped
    (hCaught :
      AreCaught (turnsOf viewer settings store components))
    (hStopped :
      (runBatch viewer settings store components).stopped =
        some failure) :
    failure.isFile = true := by
  induction components generalizing store with
  | nil => contradiction
  | cons component rest ih =>
      rw [turnsOf_cons] at hCaught
      rcases runBatch_take viewer settings store component
          rest with
        ⟨hOn, results, failures, hBatch⟩ |
          ⟨_, other, hOther, hBatch⟩
      · rw [hBatch] at hStopped
        refine ih ?_ hStopped
        intro turn hTurn
        refine hCaught turn (List.mem_cons_of_mem _ ?_)
        rw [hOn]
        exact hTurn
      · rw [hBatch] at hStopped
        injection hStopped with hFailure
        exact hFailure ▸
          hCaught _ List.mem_cons_self other hOther

/- A batch that collects goes on after what it collects. -/
theorem goesOn_of_caught
    {turn : Turn}
    (hCollects : settings.failFast = false)
    (hCaught :
      ∀ failure,
        turn.result = .error failure →
          failure.isFile = true) :
    turn.goesOn settings = true := by
  unfold Turn.goesOn
  cases hResult : turn.result with
  | ok result => rfl
  | error failure =>
      rcases exists_fileError (hCaught failure hResult) with
        ⟨error, rfl⟩
      simp [hCollects]

/-
  A batch that comes to its end has a turn for each of its
  components and a failure for each turn that failed.
-/
structure Batch.IsComplete
    (batch : Batch)
    (components : List Component)
    (turns : List Turn) :
    Prop where
  stopped : batch.stopped = none
  failures : batch.failures = turns.filterMap Turn.failure?
  components : turns.map Turn.component = components

/- A batch that collects failures comes to its end. -/
theorem runBatch_collects
    (hCollects : settings.failFast = false)
    (hCaught :
      AreCaught
        (turnsOf viewer settings store components)) :
    (runBatch viewer settings store components).IsComplete
      components
      (turnsOf viewer settings store components) := by
  induction components generalizing store with
  | nil => exact ⟨rfl, rfl, rfl⟩
  | cons component rest ih =>
      have hOn :
          (Turn.take viewer settings store
            component).goesOn settings = true :=
        goesOn_of_caught hCollects
          (hCaught _ List.mem_cons_self)
      have hTurns :
          turnsOf viewer settings store (component :: rest) =
            Turn.take viewer settings store component ::
              turnsOf viewer settings
                (Turn.take viewer settings store
                  component).after rest := by
        rw [turnsOf_cons]
        simp only [hOn, if_true]
      rw [hTurns] at hCaught ⊢
      have hLater :
          AreCaught
            (turnsOf viewer settings
              (Turn.take viewer settings store
                component).after rest) :=
        fun turn hTurn =>
          hCaught turn (List.mem_cons_of_mem _ hTurn)
      rcases ih hLater with
        ⟨hStopped, hFailures, hComponents⟩
      have hTaken :
          (process viewer settings component
              store).2.result component =
            (Turn.take viewer settings store
              component).result :=
        rfl
      rw [runBatch_cons]
      simp only [hTaken]
      cases hResult :
          (Turn.take viewer settings store
            component).result with
      | ok result =>
          have hNone :
              (Turn.take viewer settings store
                component).failure? = none := by
            unfold Turn.failure?
            simp only [hResult]
          refine ⟨hStopped, ?_, ?_⟩
          · rw [List.filterMap_cons_none hNone]
            exact hFailures
          · rw [List.map_cons, hComponents]
            rfl
      | error failure =>
          rcases exists_fileError
              (hCaught _ List.mem_cons_self failure
                hResult) with
            ⟨error, rfl⟩
          have hSome := failure?_eq_some hResult
          simp only [hCollects, Bool.false_eq_true, if_false]
          refine ⟨hStopped, ?_, ?_⟩
          · rw [List.filterMap_cons_some hSome]
            exact congrArg (List.cons _) hFailures
          · rw [List.map_cons, hComponents]
            rfl

/- A batch that fails fast collects nothing. -/
theorem failures_of_failFast
    (hFast : settings.failFast = true)
    (store : Store)
    (components : List Component) :
    (runBatch viewer settings store components).failures =
      [] := by
  induction components generalizing store with
  | nil => rfl
  | cons component rest ih =>
      rw [runBatch_cons]
      simp only [hFast, if_true]
      split
      · exact ih _
      · rfl
      · rfl

end Aggregation
