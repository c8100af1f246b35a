import Aggregation.Proofs.Run.Caught
import Aggregation.Proofs.Run.Reported

/-
  The lines that a run tells of a component.

  A turn tells a block of lines: that a marker is new, that
  the work starts, and each file that was written.  A turn
  without a result tells no file but its failure, unless
  that ends the run.

  Key definitions include:
    * `IsBlock`
    * `Notice.tellsFile`
    * `Turn.block`

  Key theorems include:
    * `process_outcome`
    * `Turn.isBlock`
    * `countP_tellsFile_flatten`
-/

------------------------------------------------------------
-- Lines of a Component
------------------------------------------------------------

namespace Aggregation

open Disk (Store Viewer)

/- Lines that open a block; the first is for a new marker. -/
def openingNotices
    (component : Component)
    (marker : Option Path) :
    List Notice :=
  (match marker with
  | some path =>
      [.info ("Ensured folder file exists: " ++ path.text)]
  | none => []) ++
  [.info
    (processingText component.directory component.rootFile)]

/- How the lines of generated files begin. -/
def generatedOpenings : Strategy → List String
  | .composed => ["Generated component file with root: "]
  | .barrel =>
      ["Generated export file: ",
        "Generated folder export file: "]

/- One line for each file of a result. -/
def generatedNotices (result : Result) : List Notice :=
  List.zipWith
    (fun opening path => .info (opening ++ path.text))
    (generatedOpenings result.strategy) result.files

/- The line of a failure, unless it ends the run. -/
def complaintNotices
    (settings : Settings)
    (component : Component)
    (error : FileError) :
    List Notice :=
  if settings.failFast then
    []
  else
    [.error ("Failed to generate " ++
      component.directory.text ++ ": " ++ error.message)]

/- A marker is met, and it is new if there was none. -/
structure Turn.MeetsMarker
    (turn : Turn)
    (viewer : Viewer)
    (settings : Settings)
    (marker : Option Path) :
    Prop where
  ensured :
    (ensureMarker turn.before viewer settings
        turn.component.directory).2 =
      .ok marker
  missed :
    hasMarker turn.before viewer settings
        turn.component.directory =
      .ok marker.isNone
  path :
    ∀ path ∈ marker,
      path =
        aggregationPath settings turn.component.directory

/-
  The lines that a turn may tell.  Without a result they do
  not tell of any file.
-/
inductive IsBlock
    (viewer : Viewer)
    (settings : Settings)
    (turn : Turn) :
    List Notice → Prop where
  | finished
      {marker : Option Path}
      {result : Result}
      (hMarker : turn.MeetsMarker viewer settings marker)
      (hResult : turn.result = .ok result)
      (hCreated : result.markerCreated = marker.isSome)
      (hStrategy : result.strategy = turn.component.strategy)
      (hFiles :
        result.files = turn.component.outputPaths settings) :
      IsBlock viewer settings turn
        (openingNotices turn.component marker ++
          generatedNotices result)
  | unfinished
      {marker : Option Path}
      {error : FileError}
      (hMarker : turn.MeetsMarker viewer settings marker)
      (hFailed : turn.result = .error (.file error)) :
      IsBlock viewer settings turn
        (openingNotices turn.component marker ++
          complaintNotices settings turn.component error)
  | unmarked
      {error : FileError}
      (hMarker :
        (ensureMarker turn.before viewer settings
            turn.component.directory).2 =
          .error (.file error))
      (hFailed : turn.result = .error (.file error)) :
      IsBlock viewer settings turn
        (complaintNotices settings turn.component error)

------------------------------------------------------------
-- Work on a Component
------------------------------------------------------------

variable {viewer : Viewer}
variable {settings : Settings}
variable {component : Component}
variable {store : Store}

/- How far the work comes once there is a marker. -/
theorem process_outcome
    (viewer : Viewer)
    (settings : Settings)
    (component : Component)
    (store : Store) :
    match (ensureMarker store viewer settings
        component.directory).2 with
    | .error failure =>
        (process viewer settings component store).2 =
          .unmarked failure
    | .ok marker =>
        (process viewer settings component store).2 =
            .finished marker.isSome
              (component.outputPaths settings) ∨
          ∃ failure,
            (process viewer settings component store).2 =
              .unfinished marker.isSome failure := by
  rw [process_eq_ofFiles]
  simp only
  cases (ensureMarker store viewer settings
      component.directory).2 with
  | error failure => rfl
  | ok marker =>
      simp only
      cases hAll :
          (emitAll viewer settings.skipUnchanged
            (ensureMarker store viewer settings
              component.directory).1
            (component.outputs settings)).2 with
      | error failure => exact .inr ⟨failure, rfl⟩
      | ok paths =>
          left
          rw [emitAll_paths hAll, component.map_path_outputs]
          rfl

------------------------------------------------------------
-- Blocks
------------------------------------------------------------

/- The lines that a batch tells of a turn. -/
def Turn.block
    (settings : Settings)
    (turn : Turn) :
    List Notice :=
  noticesOf settings (turn.told settings)

/- The lines of a turn by its events and complaints. -/
theorem Turn.block_eq (turn : Turn) :
    turn.block settings =
      noticesOf settings (turn.events settings) ++
        noticesOf settings (turn.complaints settings) :=
  noticesOf_append _ _

/- A turn with a result leaves nothing to complain about. -/
theorem Turn.complaints_of_result
    {turn : Turn}
    {result : Result}
    (hResult : turn.result = .ok result) :
    turn.complaints settings = [] := by
  unfold Turn.complaints
  simp only [hResult]

/- A failure that names a path is complained about. -/
theorem Turn.complaints_of_failure
    {turn : Turn}
    {error : FileError}
    (hFailed : turn.result = .error (.file error)) :
    noticesOf settings (turn.complaints settings) =
      complaintNotices settings turn.component error := by
  unfold Turn.complaints complaintNotices
  simp only [hFailed]
  split
  · rfl
  · rfl

/- A new marker and the start of work open a block. -/
theorem notices_openingEvents
    {marker : Option Path}
    (hPath :
      ∀ path ∈ marker,
        path =
          aggregationPath settings component.directory) :
    noticesOf settings
        (openingEvents settings component marker.isSome) =
      openingNotices component marker := by
  cases marker with
  | none => rfl
  | some path =>
      rw [hPath path rfl]
      rfl

/- Every file of a component is told in one line. -/
theorem notices_writtenEvents
    {result : Result}
    (hStrategy : result.strategy = component.strategy)
    (hFiles :
      result.files = component.outputPaths settings) :
    noticesOf settings
        (writtenEvents component.strategy result.files) =
      generatedNotices result := by
  unfold generatedNotices
  rw [hStrategy, hFiles]
  unfold Component.strategy Component.outputPaths
  cases component.rootFile with
  | some root => rfl
  | none => rfl

variable {turn : Turn}
variable {marker : Option Path}

/- Finished work tells of its files. -/
theorem Turn.isBlock_finished
    (hMarker : turn.MeetsMarker viewer settings marker)
    (hFinished :
      turn.outcome =
        .finished marker.isSome
          (turn.component.outputPaths settings)) :
    IsBlock viewer settings turn (turn.block settings) := by
  have hResult :
      turn.result =
        .ok ⟨turn.component.directory,
          turn.component.strategy, marker.isSome,
          turn.component.outputPaths settings⟩ := by
    unfold Turn.result
    rw [hFinished]
    rfl
  have hEvents :
      turn.events settings =
        openingEvents settings turn.component
            marker.isSome ++
          writtenEvents turn.component.strategy
            (turn.component.outputPaths settings) := by
    unfold Turn.events
    rw [hFinished]
    rfl
  have hBlock := IsBlock.finished hMarker hResult rfl rfl rfl
  rw [← notices_openingEvents hMarker.path,
    ← notices_writtenEvents rfl rfl] at hBlock
  rw [Turn.block_eq, hEvents,
    Turn.complaints_of_result hResult, noticesOf_append]
  exact (List.append_nil _).symm ▸ hBlock

/- Unfinished work tells how it starts and fails. -/
theorem Turn.isBlock_unfinished
    {error : FileError}
    (hMarker : turn.MeetsMarker viewer settings marker)
    (hUnfinished :
      turn.outcome =
        .unfinished marker.isSome (.file error)) :
    IsBlock viewer settings turn (turn.block settings) := by
  have hFailed : turn.result = .error (.file error) := by
    unfold Turn.result
    rw [hUnfinished]
    rfl
  have hEvents :
      turn.events settings =
        openingEvents settings turn.component
          marker.isSome := by
    unfold Turn.events
    rw [hUnfinished]
    rfl
  rw [Turn.block_eq, hEvents,
    notices_openingEvents hMarker.path,
    Turn.complaints_of_failure hFailed]
  exact .unfinished hMarker hFailed

/- Work that cannot start tells nothing but its failure. -/
theorem Turn.isBlock_unmarked
    {error : FileError}
    (hMarker :
      (ensureMarker turn.before viewer settings
          turn.component.directory).2 =
        .error (.file error))
    (hUnmarked : turn.outcome = .unmarked (.file error)) :
    IsBlock viewer settings turn (turn.block settings) := by
  have hFailed : turn.result = .error (.file error) := by
    unfold Turn.result
    rw [hUnmarked]
    rfl
  have hEvents : turn.events settings = [] := by
    unfold Turn.events
    rw [hUnmarked]
    rfl
  rw [Turn.block_eq, hEvents,
    Turn.complaints_of_failure hFailed]
  exact .unmarked hMarker hFailed

/- A turn tells a block, if its failure names a path. -/
theorem Turn.isBlock
    (hTaken :
      turn =
        Turn.take viewer settings turn.before turn.component)
    (hCaught :
      ∀ failure,
        turn.result = .error failure →
          failure.isFile = true) :
    IsBlock viewer settings turn (turn.block settings) := by
  have hOutcome :
      turn.outcome =
        (process viewer settings turn.component
          turn.before).2 :=
    congrArg Turn.outcome hTaken
  have hProcess :=
    process_outcome viewer settings turn.component turn.before
  rw [← hOutcome] at hProcess
  cases hMarker :
      (ensureMarker turn.before viewer settings
        turn.component.directory).2 with
  | error failure =>
      rw [hMarker] at hProcess
      rcases exists_fileError
          (hCaught failure (congrArg _ hProcess)) with
        ⟨error, rfl⟩
      exact turn.isBlock_unmarked hMarker hProcess
  | ok marker =>
      rw [hMarker] at hProcess
      rcases ensureMarker_met hMarker with ⟨hMissed, hEmit⟩
      have hMeets : turn.MeetsMarker viewer settings marker :=
        ⟨hMarker, hMissed, fun path hNew =>
          Output.emit_path (hEmit path hNew)⟩
      rcases hProcess with hFinished | ⟨failure, hUnfinished⟩
      · exact turn.isBlock_finished hMeets hFinished
      · rcases exists_fileError
            (hCaught failure (congrArg _ hUnfinished)) with
          ⟨error, rfl⟩
        exact turn.isBlock_unfinished hMeets hUnfinished

------------------------------------------------------------
-- Counted Lines
------------------------------------------------------------

/- Test for a line that tells of a generated file. -/
def Notice.tellsFile : Notice → Bool
  | .info text =>
      "Generated ".toList.isPrefixOf text.toList
  | _ => false

/- Test for a line that tells of a failure. -/
def Notice.isError : Notice → Bool
  | .error _ => true
  | _ => false

/- The result of a turn that has one. -/
def Turn.result? (turn : Turn) : Option Result :=
  match turn.result with
  | .ok result => some result
  | .error _ => none

variable {turns : List Turn}
variable {block : List Notice}
variable {blocks : List (List Notice)}

/- The start of a block tells of no file and no failure. -/
theorem countP_openingNotices
    (component : Component)
    (marker : Option Path) :
    (openingNotices component marker).countP
          Notice.tellsFile = 0 ∧
      (openingNotices component marker).countP
          Notice.isError = 0 := by
  have hProcessing :
      (Notice.info (processingText component.directory
        component.rootFile)).tellsFile = false := by
    unfold processingText Notice.tellsFile
    cases component.rootFile with
    | some root =>
        simp only [String.toList_append, List.append_assoc]
        rfl
    | none =>
        simp only [String.toList_append, List.append_assoc]
        rfl
  unfold openingNotices
  cases marker with
  | none => simp [hProcessing, Notice.isError]
  | some path =>
      have hEnsured :
          (Notice.info ("Ensured folder file exists: " ++
            path.text)).tellsFile = false := by
        unfold Notice.tellsFile
        simp only [String.toList_append]
        rfl
      simp [hProcessing, hEnsured, Notice.isError]

/- One line tells of each file, and none of a failure. -/
theorem countP_generatedNotices
    {result : Result}
    (hStrategy : result.strategy = component.strategy)
    (hFiles :
      result.files = component.outputPaths settings) :
    (generatedNotices result).countP Notice.tellsFile =
        result.files.length ∧
      (generatedNotices result).countP Notice.isError =
        0 := by
  unfold generatedNotices
  rw [hStrategy, hFiles]
  unfold Component.strategy Component.outputPaths
  cases component.rootFile with
  | some root =>
      simp [generatedOpenings, Notice.tellsFile,
        Notice.isError]
  | none =>
      simp [generatedOpenings, Notice.tellsFile,
        Notice.isError]

/- The line of a failure does not tell of a file. -/
theorem countP_complaintNotices
    (settings : Settings)
    (component : Component)
    (error : FileError) :
    (complaintNotices settings component error).countP
          Notice.tellsFile = 0 ∧
      (complaintNotices settings component error).countP
          Notice.isError =
        if settings.failFast then 0 else 1 := by
  unfold complaintNotices
  split
  · exact ⟨rfl, rfl⟩
  · exact ⟨rfl, rfl⟩

/- A block tells of the files that its turn has written. -/
theorem IsBlock.countP_tellsFile
    (hBlock : IsBlock viewer settings turn block) :
    block.countP Notice.tellsFile =
      (turn.result?.toList.flatMap Result.files).length := by
  unfold Turn.result?
  cases hBlock with
  | finished _ hResult _ hStrategy hFiles =>
      rw [List.countP_append,
        (countP_openingNotices _ _).1,
        (countP_generatedNotices hStrategy hFiles).1,
        hResult]
      simp
  | unfinished _ hFailed =>
      rw [List.countP_append,
        (countP_openingNotices _ _).1,
        (countP_complaintNotices _ _ _).1, hFailed]
      rfl
  | unmarked _ hFailed =>
      rw [(countP_complaintNotices _ _ _).1, hFailed]
      rfl

/- A run goes on after a failure that it collects. -/
theorem goesOn_of_fileError
    {error : FileError}
    (hFailed : turn.result = .error (.file error)) :
    turn.goesOn settings = !settings.failFast := by
  unfold Turn.goesOn
  rw [hFailed]

/- Where a run goes on, a block tells of each failure. -/
theorem IsBlock.countP_isError
    (hBlock : IsBlock viewer settings turn block)
    (hOn : turn.goesOn settings = true) :
    block.countP Notice.isError =
      turn.failure?.toList.length := by
  have hCollects :
      ∀ error,
        turn.result = .error (.file error) →
          settings.failFast = false := by
    intro error hFailed
    rw [goesOn_of_fileError hFailed] at hOn
    simpa using hOn
  cases hBlock with
  | finished _ hResult _ hStrategy hFiles =>
      unfold Turn.failure?
      rw [List.countP_append,
        (countP_openingNotices _ _).2,
        (countP_generatedNotices hStrategy hFiles).2,
        hResult]
      rfl
  | unfinished _ hFailed =>
      rw [List.countP_append,
        (countP_openingNotices _ _).2,
        (countP_complaintNotices _ _ _).2,
        hCollects _ hFailed, failure?_eq_some hFailed]
      rfl
  | unmarked _ hFailed =>
      rw [(countP_complaintNotices _ _ _).2,
        hCollects _ hFailed, failure?_eq_some hFailed]
      rfl

/- All blocks tell of all files of the results. -/
theorem countP_tellsFile_flatten
    (hBlocks :
      List.Forall₂ (IsBlock viewer settings) turns blocks) :
    blocks.flatten.countP Notice.tellsFile =
      ((turns.filterMap Turn.result?).flatMap
        Result.files).length := by
  rw [List.filterMap_eq_flatMap_toList]
  induction hBlocks with
  | nil => rfl
  | cons hBlock _ ih =>
      rw [List.flatten_cons, List.countP_append, ih,
        hBlock.countP_tellsFile, List.flatMap_cons,
        List.flatMap_append, List.length_append]

/- All blocks tell of all failures. -/
theorem countP_isError_flatten
    (hBlocks :
      List.Forall₂ (IsBlock viewer settings) turns blocks)
    (hOn : ∀ turn ∈ turns, turn.goesOn settings = true) :
    blocks.flatten.countP Notice.isError =
      (turns.filterMap Turn.failure?).length := by
  rw [List.filterMap_eq_flatMap_toList]
  induction hBlocks with
  | nil => rfl
  | cons hBlock _ ih =>
      rcases List.forall_mem_cons.mp hOn with
        ⟨hHere, hLater⟩
      rw [List.flatten_cons, List.countP_append, ih hLater,
        hBlock.countP_isError hHere, List.flatMap_cons,
        List.length_append]

end Aggregation
