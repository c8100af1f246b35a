import Aggregation.Proofs.Run.Blocks

/-
  What a run tells from its start to its end.

  A run tells one block of lines for each component that has
  its turn.  When all turns are over, a summary counts what
  the lines before it told.

  Key definitions include:
    * `Batch.EndsAfter`
    * `tally`
    * `IsTrace`

  Key theorems include:
    * `runBatch_ending`
    * `summaryEntries_eq_tally`
    * `run_isTrace`
-/

------------------------------------------------------------
-- Failures of a Component
------------------------------------------------------------

namespace Aggregation

open Disk (Store Viewer)
open Number (Double)

variable {viewer : Viewer}
variable {settings : Settings}
variable {component : Component}
variable {components : List Component}
variable {store : Store}
variable {failure : Failure}

/- Test for a failure that combines those of components. -/
def Failure.isCombined : Failure → Bool
  | .components _ => true
  | _ => false

/- No write fails with the failures of components. -/
theorem Output.emit_not_isCombined
    {output : Output}
    {skipUnchanged : Bool}
    (hEmit :
      (output.emit viewer skipUnchanged store).2 =
        .error failure) :
    failure.isCombined = false := by
  unfold Output.emit at hEmit
  split at hEmit
  · injection hEmit with hFailure
    rw [← hFailure]
    rfl
  · split at hEmit
    · injection hEmit with hFailure
      rw [← hFailure]
      unfold Failure.ofWriting
      split
      · rfl
      · rfl
    · contradiction

theorem emitAll_not_isCombined
    {skipUnchanged : Bool}
    {outputs : List Output}
    (hAll :
      (emitAll viewer skipUnchanged store outputs).2 =
        .error failure) :
    failure.isCombined = false := by
  induction outputs generalizing store with
  | nil => contradiction
  | cons output rest ih =>
      rcases emitAll_cons_eq_error hAll with hFirst | hRest
      · exact Output.emit_not_isCombined hFirst
      · exact ih hRest

theorem ensureMarker_not_isCombined
    {directory : Path}
    (hMarker :
      (ensureMarker store viewer settings directory).2 =
        .error failure) :
    failure.isCombined = false := by
  rcases ensureMarker_missed hMarker with hTest | hEmit
  · unfold hasMarker at hTest
    simp only at hTest
    split at hTest
    · injection hTest with hFailure
      rw [← hFailure]
      rfl
    · contradiction
  · exact Output.emit_not_isCombined hEmit

theorem Turn.take_not_isCombined
    (hFailed :
      (Turn.take viewer settings store component).result =
        .error failure) :
    failure.isCombined = false := by
  rcases process_failure hFailed with hMarker | hFiles
  · exact ensureMarker_not_isCombined hMarker
  · exact emitAll_not_isCombined hFiles

/- A single failure that is told names a path. -/
theorem isFile_of_isReported
    (hReported : failure.isReported = true)
    (hSingle : failure.isCombined = false) :
    failure.isFile = true := by
  cases failure with
  | file error => rfl
  | system path fault => contradiction
  | rendering error => contradiction
  | components failures => contradiction

------------------------------------------------------------
-- Batches
------------------------------------------------------------

/- How a batch ends after some turns. -/
inductive Batch.EndsAfter
    (settings : Settings)
    (components : List Component)
    (turns : List Turn)
    (batch : Batch) :
    Prop where
  | completed
      (hStopped : batch.stopped = none)
      (hComponents : turns.map Turn.component = components)
      (hResults :
        batch.results = turns.filterMap Turn.result?)
      (hFailures :
        batch.failures = turns.filterMap Turn.failure?)
      (hOn : ∀ turn ∈ turns, turn.goesOn settings = true) :
      batch.EndsAfter settings components turns
  | stopped
      {done : List Turn}
      {failed : Turn}
      {failure : Failure}
      (rest : List Component)
      (hStopped : batch.stopped = some failure)
      (hTurns : turns = done ++ [failed])
      (hComponents :
        components = turns.map Turn.component ++ rest)
      (hOn : ∀ turn ∈ done, turn.goesOn settings = true)
      (hOff : failed.goesOn settings = false)
      (hFailed : failed.result = .error failure) :
      batch.EndsAfter settings components turns

/- A run goes on after a failure that names a path only. -/
theorem isFile_of_goesOn
    {turn : Turn}
    (hOn : turn.goesOn settings = true) :
    ∀ failure,
      turn.result = .error failure →
        failure.isFile = true := by
  intro failure hFailed
  unfold Turn.goesOn at hOn
  rw [hFailed] at hOn
  cases failure with
  | file error => rfl
  | system path fault => contradiction
  | rendering error => contradiction
  | components failures => contradiction

/- What a turn adds to the batch that goes on after it. -/
theorem runBatch_of_goesOn
    {rest : List Component}
    {turn : Turn}
    (hTurn :
      Turn.take viewer settings store component = turn)
    (hOn : turn.goesOn settings = true) :
    runBatch viewer settings store (component :: rest) =
      (runBatch viewer settings turn.after rest).following
        (turn.told settings) turn.result?.toList
          turn.failure?.toList := by
  subst hTurn
  rw [runBatch_cons]
  have hTaken :
      (process viewer settings component store).2.result
          component =
        (Turn.take viewer settings store
          component).result :=
    rfl
  simp only [hTaken]
  cases hResult :
      (Turn.take viewer settings store component).result with
  | ok result =>
      unfold Turn.told Turn.result? Turn.failure?
      rw [Turn.complaints_of_result hResult,
        List.append_nil]
      simp only [hResult]
      rfl
  | error failure =>
      rcases exists_fileError
          (isFile_of_goesOn hOn failure hResult) with
        ⟨error, rfl⟩
      have hCollects : settings.failFast = false := by
        rw [goesOn_of_fileError hResult] at hOn
        simpa using hOn
      unfold Turn.told Turn.complaints Turn.result?
      rw [failure?_eq_some hResult]
      simp only [hResult, hCollects, Bool.false_eq_true,
        if_false]
      rfl

/- A batch ends after the turns of its components. -/
theorem runBatch_ending
    (viewer : Viewer)
    (settings : Settings)
    (store : Store)
    (components : List Component) :
    (runBatch viewer settings store components).EndsAfter
      settings components
      (turnsOf viewer settings store components) := by
  induction components generalizing store with
  | nil => exact .completed rfl rfl rfl rfl (by simp [turnsOf])
  | cons component rest ih =>
      rw [turnsOf_cons]
      rcases runBatch_take viewer settings store component
          rest with
        ⟨hOn, _⟩ | ⟨hOff, failure, hFailed, hBatch⟩
      · rw [runBatch_of_goesOn rfl hOn]
        simp only [hOn, if_true]
        have hLater :
            (runBatch viewer settings
              (Turn.take viewer settings store
                component).after rest).EndsAfter settings
                  rest _ :=
          ih _
        cases hLater with
        | completed hStopped hComponents hResults hFailures
            hAll =>
            refine .completed hStopped ?_ ?_ ?_ ?_
            · rw [List.map_cons, hComponents]
              rfl
            · rw [List.filterMap_eq_flatMap_toList,
                List.flatMap_cons,
                ← List.filterMap_eq_flatMap_toList,
                ← hResults]
              rfl
            · rw [List.filterMap_eq_flatMap_toList,
                List.flatMap_cons,
                ← List.filterMap_eq_flatMap_toList,
                ← hFailures]
              rfl
            · exact List.forall_mem_cons.mpr ⟨hOn, hAll⟩
        | stopped others hStopped hTurns hComponents hDone
            hOff hFailed =>
            refine .stopped others hStopped
              (congrArg (List.cons _) hTurns) ?_
              (List.forall_mem_cons.mpr ⟨hOn, hDone⟩) hOff
              hFailed
            exact congrArg (List.cons component) hComponents
      · rw [hBatch]
        simp only [hOff, Bool.false_eq_true, if_false]
        exact .stopped rest rfl (List.nil_append _).symm rfl
          (List.forall_mem_nil _) hOff hFailed

------------------------------------------------------------
-- Summaries
------------------------------------------------------------

/- Test for a turn with a result of some strategy. -/
def Turn.followed (turn : Turn) (strategy : Strategy) : Bool :=
  match turn.result? with
  | some result => result.strategy = strategy
  | none => false

/- Entries of a summary, counted in turns and lines. -/
def tally
    (elapsed : Double)
    (turns : List Turn)
    (lines : List Notice) :
    List (String × String) :=
  let composed :=
    turns.countP fun turn => turn.followed .composed
  let barrel :=
    turns.countP fun turn => turn.followed .barrel
  [("Components", toString (composed + barrel)),
    ("Root-composed", toString composed),
    ("Barrel", toString barrel),
    ("Files written",
      toString (lines.countP Notice.tellsFile)),
    ("Failures", toString (lines.countP Notice.isError)),
    ("Duration", durationText elapsed)]

variable {turn : Turn}
variable {turns : List Turn}
variable {blocks : List (List Notice)}

/- The results of a strategy are those of its turns. -/
theorem count_results
    (strategy : Strategy)
    (failures : List String)
    (elapsed : Double) :
    (⟨turns.filterMap Turn.result?, failures, elapsed⟩ :
        Report).count strategy =
      turns.countP fun turn => turn.followed strategy := by
  unfold Report.count
  rw [List.countP_filterMap]
  refine List.countP_congr ?_
  intro turn _
  unfold Turn.followed
  cases turn.result? with
  | none => exact .rfl
  | some result => exact .rfl

/- Every result follows one of the two strategies. -/
theorem Report.length_components (report : Report) :
    report.components.length =
      report.count .composed + report.count .barrel := by
  unfold Report.count
  rw [List.length_eq_countP_add_countP fun result =>
    decide (result.strategy = .composed)]
  congr 1
  refine List.countP_congr ?_
  intro result _
  cases result.strategy with
  | composed => simp
  | barrel => simp

/- A summary counts what the blocks before it tell. -/
theorem summaryEntries_eq_tally
    (hBlocks :
      List.Forall₂ (IsBlock viewer settings) turns blocks)
    (hOn : ∀ turn ∈ turns, turn.goesOn settings = true)
    {failures : List String}
    (hFailures :
      failures.length =
        (turns.filterMap Turn.failure?).length)
    (elapsed : Double) :
    summaryEntries
        ⟨turns.filterMap Turn.result?, failures, elapsed⟩ =
      tally elapsed turns blocks.flatten := by
  unfold summaryEntries tally
  rw [Report.length_components, count_results, count_results,
    countP_tellsFile_flatten hBlocks,
    countP_isError_flatten hBlocks hOn, ← hFailures]
  rfl

------------------------------------------------------------
-- Traces
------------------------------------------------------------

/-
  What a run from a store may tell, how it then ends and what
  store it leaves.
-/
inductive IsTrace
    (viewer : Viewer)
    (settings : Settings)
    (elapsed : Double)
    (store : Store) :
    List Notice → Except Failure Report → Store → Prop where
  | unscanned
      {failure : Failure}
      (hScan :
        scan store.tree viewer settings
            settings.componentsDirectory =
          .error failure) :
      IsTrace viewer settings elapsed store
        [.banner (bannerText settings) "elementsgen"]
        (.error failure) store
  | empty
      (hScan :
        scan store.tree viewer settings
            settings.componentsDirectory =
          .ok []) :
      IsTrace viewer settings elapsed store
        [.banner (bannerText settings) "elementsgen",
          .warning "No valid components found."]
        (.ok ⟨[], [], elapsed⟩) store
  | aborted
      {done : List Turn}
      {failed : Turn}
      {rest : List Component}
      {blocks : List (List Notice)}
      {error : FileError}
      {final : Store}
      (hFast : settings.failFast = true)
      (hScan :
        scan store.tree viewer settings
            settings.componentsDirectory =
          .ok ((done ++ [failed]).map Turn.component ++
            rest))
      (hRelay :
        IsRelay viewer settings store (done ++ [failed])
          final)
      (hBlocks :
        List.Forall₂ (IsBlock viewer settings)
          (done ++ [failed]) blocks)
      (hDone : ∀ turn ∈ done, turn.HasResult)
      (hFailed : failed.result = .error (.file error)) :
      IsTrace viewer settings elapsed store
        (.banner (bannerText settings) "elementsgen" ::
          blocks.flatten)
        (.error (.file error)) final
  | succeeded
      {turns : List Turn}
      {blocks : List (List Notice)}
      {final : Store}
      (hScan :
        scan store.tree viewer settings
            settings.componentsDirectory =
          .ok (turns.map Turn.component))
      (hSome : turns ≠ [])
      (hRelay : IsRelay viewer settings store turns final)
      (hBlocks :
        List.Forall₂ (IsBlock viewer settings) turns blocks)
      (hDone : ∀ turn ∈ turns, turn.HasResult)
      (hFiles :
        blocks.flatten.countP Notice.tellsFile =
          ((turns.filterMap Turn.result?).flatMap
            Result.files).length) :
      IsTrace viewer settings elapsed store
        (.banner (bannerText settings) "elementsgen" ::
          (blocks.flatten ++
            [.summary (tally elapsed turns blocks.flatten)
                "Component Generation",
              .success "Component generation completed."]))
        (.ok ⟨turns.filterMap Turn.result?, [], elapsed⟩)
        final
  | failed
      {turns : List Turn}
      {blocks : List (List Notice)}
      {final : Store}
      (hCollects : settings.failFast = false)
      (hScan :
        scan store.tree viewer settings
            settings.componentsDirectory =
          .ok (turns.map Turn.component))
      (hRelay : IsRelay viewer settings store turns final)
      (hBlocks :
        List.Forall₂ (IsBlock viewer settings) turns blocks)
      (hSome : turns.filterMap Turn.failure? ≠ [])
      (hErrors :
        blocks.flatten.countP Notice.isError =
          (turns.filterMap Turn.failure?).length) :
      IsTrace viewer settings elapsed store
        (.banner (bannerText settings) "elementsgen" ::
          (blocks.flatten ++
            [.summary (tally elapsed turns blocks.flatten)
              "Component Generation"]))
        (.error
          (.components (turns.filterMap Turn.failure?)))
        final

/- Turns without failures have results. -/
theorem hasResult_of_goesOn
    (hOn : turn.goesOn settings = true)
    (hNone :
      settings.failFast = true ∨ turn.failure? = none) :
    turn.HasResult := by
  cases hResult : turn.result with
  | ok result => exact ⟨result, hResult⟩
  | error failure =>
      rcases exists_fileError
          (isFile_of_goesOn hOn failure hResult) with
        ⟨error, rfl⟩
      rcases hNone with hFast | hNone
      · rw [goesOn_of_fileError hResult, hFast] at hOn
        contradiction
      · rw [failure?_eq_some hResult] at hNone
        contradiction

/- Turns that fail to write at most tell their blocks. -/
theorem areBlocks_turnsOf
    (hTurns :
      turnsOf viewer settings store components = turns)
    (hCaught : AreCaught turns) :
    List.Forall₂ (IsBlock viewer settings) turns
      (turns.map (Turn.block settings)) := by
  refine List.forall₂_map_right_iff.mpr
    (List.forall₂_same.mpr ?_)
  intro turn hTurn
  rw [← hTurns] at hTurn hCaught
  exact Turn.isBlock (eq_take_of_mem_turnsOf hTurn).2
    (hCaught turn hTurn)

/- A batch tells the blocks of its turns. -/
theorem notices_runBatch
    (viewer : Viewer)
    (settings : Settings)
    (store : Store)
    (components : List Component) :
    noticesOf settings
        (runBatch viewer settings store components).events =
      ((turnsOf viewer settings store components).map
        (Turn.block settings)).flatten := by
  rw [runBatch_events]
  unfold noticesOf
  rw [List.map_flatMap, List.flatMap_def]
  rfl

------------------------------------------------------------
-- Runs
------------------------------------------------------------

/- A batch that comes to its end is summed up. -/
theorem finish_isTrace
    (elapsed : Double)
    (hScan :
      scan store.tree viewer settings
          settings.componentsDirectory =
        .ok (turns.map Turn.component))
    (hSome : turns ≠ [])
    {batch : Batch}
    (hRelay : IsRelay viewer settings store turns batch.store)
    (hBlocks :
      List.Forall₂ (IsBlock viewer settings) turns blocks)
    (hNotices :
      noticesOf settings batch.events = blocks.flatten)
    (hResults : batch.results = turns.filterMap Turn.result?)
    (hFailures :
      batch.failures = turns.filterMap Turn.failure?)
    (hFast :
      settings.failFast = true → batch.failures = [])
    (hOn : ∀ turn ∈ turns, turn.goesOn settings = true) :
    IsTrace viewer settings elapsed store
      (.banner (bannerText settings) "elementsgen" ::
        noticesOf settings (batch.finish elapsed).events)
      (batch.finish elapsed).outcome
      (batch.finish elapsed).store := by
  have hSummary :
      tally elapsed turns blocks.flatten =
        summaryEntries (batch.report elapsed) := by
    unfold Batch.report
    rw [hResults]
    refine (summaryEntries_eq_tally hBlocks hOn ?_
      elapsed).symm
    rw [List.length_map, hFailures]
  unfold Batch.finish
  cases hFailed : batch.failures with
  | nil =>
      have hDone : ∀ turn ∈ turns, turn.HasResult := by
        intro turn hTurn
        rw [hFailed] at hFailures
        exact hasResult_of_goesOn (hOn turn hTurn)
          (.inr (List.filterMap_eq_nil_iff.mp
            hFailures.symm turn hTurn))
      have hTrace :
          IsTrace viewer settings elapsed store _ _ _ :=
        .succeeded hScan hSome hRelay hBlocks hDone
          (countP_tellsFile_flatten hBlocks)
      have hReport :
          batch.report elapsed =
            ⟨turns.filterMap Turn.result?, [], elapsed⟩ := by
        unfold Batch.report
        rw [hResults, hFailed]
        rfl
      rw [hSummary, ← hNotices, ← hReport] at hTrace
      rw [noticesOf_append]
      exact hTrace
  | cons first others =>
      rw [hFailed] at hFast hFailures
      have hCollects : settings.failFast = false :=
        Bool.eq_false_iff.mpr fun hTrue =>
          List.cons_ne_nil _ _ (hFast hTrue)
      have hMany : turns.filterMap Turn.failure? ≠ [] := by
        rw [← hFailures]
        exact List.cons_ne_nil _ _
      have hTrace :
          IsTrace viewer settings elapsed store _ _ _ :=
        .failed hCollects hScan hRelay hBlocks hMany
          (countP_isError_flatten hBlocks hOn)
      rw [hSummary, ← hNotices, ← hFailures] at hTrace
      rw [noticesOf_append]
      exact hTrace

/- The work on components makes up a trace of its run. -/
theorem runComponents_isTrace
    (elapsed : Double)
    (hScan :
      scan store.tree viewer settings
          settings.componentsDirectory =
        .ok components)
    (hEnds :
      ∀ failure,
        (runComponents viewer settings elapsed store
            components).outcome =
          .error failure →
        failure.isReported = true) :
    let done :=
      runComponents viewer settings elapsed store components
    IsTrace viewer settings elapsed store
      (.banner (bannerText settings) "elementsgen" ::
        noticesOf settings done.events)
      done.outcome done.store := by
  have hRelay : IsRelay viewer settings store _ _ :=
    turnsOf_isRelay components
  have hNotices :=
    notices_runBatch viewer settings store components
  cases runBatch_ending viewer settings store components with
  | completed hStopped hComponents hResults hFailures hOn =>
      have hBlocks :=
        areBlocks_turnsOf rfl fun turn hTurn =>
          isFile_of_goesOn (hOn turn hTurn)
      rw [← hComponents] at hScan
      cases components with
      | nil => exact .empty hScan
      | cons component rest =>
          unfold runComponents
          simp only [hStopped]
          exact finish_isTrace elapsed hScan
            (List.cons_ne_nil _ _) hRelay hBlocks hNotices
            hResults hFailures
            (fun hFast => failures_of_failFast hFast _ _) hOn
  | @stopped done failed failure rest hStopped hTurns
      hComponents hOn hOff hFailed =>
      have hRun := runComponents_stopped elapsed hStopped
      have hLast :
          failed ∈
            turnsOf viewer settings store components := by
        rw [hTurns]
        exact List.mem_append_right _ List.mem_cons_self
      have hSingle : failure.isCombined = false := by
        have hTaken := (eq_take_of_mem_turnsOf hLast).2
        rw [hTaken] at hFailed
        exact Turn.take_not_isCombined hFailed
      have hReported : failure.isReported = true :=
        hEnds failure (by rw [hRun])
      rcases exists_fileError
          (isFile_of_isReported hReported hSingle) with
        ⟨error, rfl⟩
      have hFast : settings.failFast = true := by
        rw [goesOn_of_fileError hFailed] at hOff
        simpa using hOff
      have hCaught : AreCaught (done ++ [failed]) := by
        intro turn hTurn other hOther
        rcases List.mem_append.mp hTurn with hHere | hEnd
        · exact isFile_of_goesOn (hOn turn hHere) other hOther
        · rw [List.mem_singleton.mp hEnd, hFailed] at hOther
          injection hOther with hSame
          rw [← hSame]
          rfl
      have hBlocks := areBlocks_turnsOf hTurns hCaught
      rw [hComponents, hTurns] at hScan
      rw [hTurns] at hRelay hNotices
      rw [hRun]
      simp only [hNotices]
      exact .aborted hFast hScan hRelay hBlocks
        (fun turn hTurn =>
          hasResult_of_goesOn (hOn turn hTurn) (.inl hFast))
        hFailed

/-
  A run tells a trace, if it ends with a report or with a
  failure that is told to the user.
-/
theorem run_isTrace
    (viewer : Viewer)
    (settings : Settings)
    (elapsed : Double)
    (store : Store)
    (hEnds :
      ∀ failure,
        (run viewer settings elapsed store).outcome =
            .error failure →
          failure.isReported = true) :
    let done := run viewer settings elapsed store
    IsTrace viewer settings elapsed store
      (noticesOf settings done.events) done.outcome
      done.store := by
  cases hScan :
      scan store.tree viewer settings
        settings.componentsDirectory with
  | error failure =>
      rw [run_scan_error elapsed hScan]
      exact .unscanned hScan
  | ok components =>
      rw [run_scan_ok elapsed hScan] at hEnds ⊢
      exact runComponents_isTrace elapsed hScan hEnds

theorem run_isTrace_sampleStore :
    (∀ failure,
        (run sampleViewer sampleSettings (Double.zero false)
            sampleStore).outcome =
          .error failure →
        failure.isReported = true) ∧
      let done :=
        run sampleViewer sampleSettings (Double.zero false)
          sampleStore
      IsTrace sampleViewer sampleSettings (Double.zero false)
        sampleStore (noticesOf sampleSettings done.events)
        done.outcome done.store := by
  rcases exists_report_sampleStore with ⟨report, hReport⟩
  have hEnds :
      ∀ failure,
        (run sampleViewer sampleSettings (Double.zero false)
            sampleStore).outcome =
          .error failure →
        failure.isReported = true := by
    intro failure hFailed
    rw [hReport] at hFailed
    injection hFailed
  exact ⟨hEnds,
    run_isTrace sampleViewer sampleSettings
      (Double.zero false) sampleStore hEnds⟩

end Aggregation
