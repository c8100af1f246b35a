import Aggregation.Proofs.Run.Rerun
import Aggregation.Proofs.Run.Turns

/-
  Runs that fail fast.

  A run that stops at its first failure is the run that
  collects failures, cut off where the first component fails.

  Key definitions include:
    * `Settings.failingFast`
    * `Settings.collecting`
    * `Turn.HasResult`
    * `IsCutAt`

  Key theorems include:
    * `runBatch_failingFast_eq`
    * `runBatch_cut`
    * `run_failingFast`
-/

------------------------------------------------------------
-- Two Kinds of Runs
------------------------------------------------------------

namespace Aggregation

open Disk (Store Viewer)
open Number (Double)

/- Settings of a run that stops at its first failure. -/
def Settings.failingFast (settings : Settings) : Settings :=
  settings.switched true settings.skipUnchanged

/- Settings of a run that collects the failures of files. -/
def Settings.collecting (settings : Settings) : Settings :=
  settings.switched false settings.skipUnchanged

/- A turn that has a result. -/
def Turn.HasResult (turn : Turn) : Prop :=
  ∃ result, turn.result = .ok result

/- Test for a failure that names a path. -/
def Failure.isFile : Failure → Bool
  | .file _ => true
  | _ => false

/- Test for a notice that only tells of progress. -/
def Notice.isProgress : Notice → Bool
  | .info _ | .banner _ _ => true
  | _ => false

/- Some turns all have results, or a first one fails. -/
theorem exists_first_failed (turns : List Turn) :
    (∀ turn ∈ turns, turn.HasResult) ∨
      ∃ done failed later failure,
        turns = done ++ failed :: later ∧
          (∀ turn ∈ done, turn.HasResult) ∧
          failed.result = .error failure := by
  induction turns with
  | nil => exact .inl (List.forall_mem_nil _)
  | cons turn turns ih =>
      cases hResult : turn.result with
      | error failure =>
          exact .inr ⟨[], turn, turns, failure, rfl,
            List.forall_mem_nil _, hResult⟩
      | ok result =>
          rcases ih with
            hAll | ⟨done, failed, later, failure, hTurns,
              hDone, hFailed⟩
          · exact .inl (List.forall_mem_cons.mpr
              ⟨⟨result, hResult⟩, hAll⟩)
          · refine .inr ⟨turn :: done, failed, later,
              failure, ?_, ?_, hFailed⟩
            · rw [hTurns]
              rfl
            · exact List.forall_mem_cons.mpr
                ⟨⟨result, hResult⟩, hDone⟩

variable {viewer : Viewer}
variable {settings : Settings}
variable {store : Store}
variable {component : Component}
variable {components rest : List Component}

/- A batch goes on after a turn with a result. -/
theorem runBatch_of_result
    {turn : Turn}
    {result : Result}
    (hTurn :
      Turn.take viewer settings store component = turn)
    (hResult : turn.result = .ok result) :
    runBatch viewer settings store (component :: rest) =
      (runBatch viewer settings turn.after
        rest).following (turn.events settings) [result]
          [] := by
  subst hTurn
  unfold Turn.result Turn.take at hResult
  rw [runBatch_cons]
  simp only [hResult]
  rfl

theorem turnsOf_of_result
    {turn : Turn}
    {result : Result}
    (hTurn :
      Turn.take viewer settings store component = turn)
    (hResult : turn.result = .ok result) :
    turnsOf viewer settings store (component :: rest) =
      turn :: turnsOf viewer settings turn.after rest := by
  subst hTurn
  rw [turnsOf_cons]
  unfold Turn.goesOn
  simp only [hResult, if_true]

/- No turn depends on how failures are treated. -/
theorem take_failingFast
    (viewer : Viewer)
    (settings : Settings)
    (store : Store)
    (component : Component) :
    Turn.take viewer settings.failingFast store component =
      Turn.take viewer settings.collecting store
        component := by
  have hSame :
      process viewer settings.failingFast component store =
        process viewer settings.collecting component store :=
    rfl
  unfold Turn.take
  rw [hSame]

/- The first of some turns is that of the first component. -/
theorem turnsOf_eq_cons
    {turn : Turn}
    {turns : List Turn}
    (hTurns :
      turnsOf viewer settings store components =
        turn :: turns) :
    ∃ component rest,
      components = component :: rest ∧
        Turn.take viewer settings store component = turn ∧
        turns =
          if turn.goesOn settings then
            turnsOf viewer settings turn.after rest
          else
            [] := by
  cases components with
  | nil => simp [turnsOf] at hTurns
  | cons component rest =>
      injection hTurns with hTurn hTurns
      subst hTurn
      exact ⟨component, rest, rfl, rfl, hTurns.symm⟩

------------------------------------------------------------
-- Batches without Failures
------------------------------------------------------------

/- Without a failure there is nothing to stop at. -/
theorem runBatch_failingFast_eq
    (hResults :
      ∀ turn ∈ turnsOf viewer settings.collecting store
          components,
        turn.HasResult) :
    runBatch viewer settings.failingFast store components =
      runBatch viewer settings.collecting store
        components := by
  induction components generalizing store with
  | nil => rfl
  | cons component rest ih =>
      rcases hResults _ List.mem_cons_self with
        ⟨result, hResult⟩
      rw [turnsOf_of_result rfl hResult] at hResults
      have hRest :=
        ih fun turn hTurn =>
          hResults turn (List.mem_cons_of_mem _ hTurn)
      rw [runBatch_of_result rfl hResult,
        runBatch_of_result
          (take_failingFast viewer settings store component)
          hResult,
        hRest]
      rfl

------------------------------------------------------------
-- Batches with a Failure
------------------------------------------------------------

/-
  A batch that fails fast at a turn, and where a batch that
  collects failures goes from there.
-/
structure IsBatchCut
    (viewer : Viewer)
    (settings : Settings)
    (store : Store)
    (components : List Component)
    (done : List Turn)
    (failed : Turn)
    (later : List Turn)
    (failure : Failure) :
    Prop where
  batch :
    ∃ results,
      runBatch viewer settings.failingFast store components =
        ⟨failed.after,
          (done ++ [failed]).flatMap
            (Turn.events settings.collecting),
          results, [], some failure⟩
  turns :
    turnsOf viewer settings.failingFast store components =
      done ++ [failed]
  rest :
    ∃ rest,
      components =
          (done ++ [failed]).map Turn.component ++ rest ∧
        later =
          if failure.isFile then
            turnsOf viewer settings.collecting failed.after
              rest
          else
            []

/- A batch that fails fast stops at any failure. -/
theorem runBatch_of_failure
    {turn : Turn}
    {failure : Failure}
    (hTurn :
      Turn.take viewer settings.collecting store component =
        turn)
    (hFailed : turn.result = .error failure) :
    runBatch viewer settings.failingFast store
        (component :: rest) =
      ⟨turn.after, turn.events settings.collecting, [], [],
        some failure⟩ := by
  have hFast :=
    (take_failingFast viewer settings store
      component).trans hTurn
  subst hFast
  unfold Turn.result Turn.take at hFailed
  rw [runBatch_cons]
  simp only [hFailed]
  cases failure with
  | file error => rfl
  | system path fault => rfl
  | rendering error => rfl
  | components failures => rfl

theorem turnsOf_of_failure
    {turn : Turn}
    {failure : Failure}
    (hTurn :
      Turn.take viewer settings.collecting store component =
        turn)
    (hFailed : turn.result = .error failure) :
    turnsOf viewer settings.failingFast store
        (component :: rest) =
      [turn] := by
  subst hTurn
  rw [turnsOf_cons]
  unfold Turn.goesOn
  rw [take_failingFast]
  simp only [hFailed]
  cases failure with
  | file error => rfl
  | system path fault => rfl
  | rendering error => rfl
  | components failures => rfl

/- Batches that collect go on after failures of files. -/
theorem goesOn_collecting
    {turn : Turn}
    {failure : Failure}
    (hFailed : turn.result = .error failure) :
    turn.goesOn settings.collecting = failure.isFile := by
  unfold Turn.goesOn
  simp only [hFailed]
  cases failure with
  | file error => rfl
  | system path fault => rfl
  | rendering error => rfl
  | components failures => rfl

/- The first failure of a batch is where it is cut. -/
theorem runBatch_cut
    {done later : List Turn}
    {failed : Turn}
    {failure : Failure}
    (hTurns :
      turnsOf viewer settings.collecting store components =
        done ++ failed :: later)
    (hDone : ∀ turn ∈ done, turn.HasResult)
    (hFailed : failed.result = .error failure) :
    IsBatchCut viewer settings store components done failed
      later failure := by
  induction done generalizing store components with
  | nil =>
      rcases turnsOf_eq_cons hTurns with
        ⟨component, rest, rfl, hTurn, hLater⟩
      rw [goesOn_collecting hFailed] at hLater
      refine ⟨⟨[], ?_⟩, turnsOf_of_failure hTurn hFailed,
        rest, ?_, hLater⟩
      · rw [runBatch_of_failure hTurn hFailed]
        simp only [List.nil_append, List.flatMap_cons,
          List.flatMap_nil, List.append_nil]
      · rw [← hTurn]
        rfl
  | cons turn done ih =>
      rcases turnsOf_eq_cons hTurns with
        ⟨component, rest, rfl, hTurn, hLater⟩
      rcases hDone turn List.mem_cons_self with
        ⟨result, hResult⟩
      have hOn : turn.goesOn settings.collecting = true := by
        unfold Turn.goesOn
        rw [hResult]
      rw [hOn, if_pos rfl] at hLater
      have hFast :=
        (take_failingFast viewer settings store
          component).trans hTurn
      rcases ih hLater.symm
          (List.forall_mem_cons.mp hDone).2 with
        ⟨⟨results, hBatch⟩, hTurnsFast, others, hRest,
          hOthers⟩
      refine ⟨⟨result :: results, ?_⟩, ?_, others, ?_,
        hOthers⟩
      · rw [runBatch_of_result hFast hResult, hBatch]
        rfl
      · rw [turnsOf_of_result hFast hResult, hTurnsFast]
        rfl
      · rw [hRest, ← hTurn]
        rfl

------------------------------------------------------------
-- Runs
------------------------------------------------------------

/-
  A run that fails fast is the run that collects failures,
  cut off at its first turn without a result.
-/
structure IsCutAt
    (viewer : Viewer)
    (settings : Settings)
    (store : Store)
    (collecting fast : Run)
    (done : List Turn)
    (failed : Turn)
    (later : List Turn)
    (failure : Failure) :
    Prop where
  outcome : fast.outcome = .error failure
  leaves : fast.store = failed.after
  turns :
    runTurns viewer settings.failingFast store =
      done ++ [failed]
  -- What both runs tell, up to the failure.
  events :
    fast.events =
      .started ::
        (done ++ [failed]).flatMap
          (Turn.events settings.collecting)
  notices :
    ∃ closing : List Event,
      noticesOf settings.collecting collecting.events =
        noticesOf settings.failingFast fast.events ++
          noticesOf settings.collecting
            (failed.complaints settings.collecting ++
              later.flatMap (Turn.told settings.collecting) ++
                closing) ∧
      ∀ event ∈ closing, event.isClosing = true
  progress :
    ∀ notice ∈ noticesOf settings.failingFast fast.events,
      notice.isProgress = true
  -- Only the run that collects has turns after the failure.
  rest :
    ∃ rest,
      scan store.tree viewer settings
          settings.componentsDirectory =
        .ok ((done ++ [failed]).map Turn.component ++
          rest) ∧
      (later =
        if failure.isFile then
          turnsOf viewer settings.collecting failed.after
            rest
        else
          []) ∧
      ∀ next ∈ rest.head?,
        (later.head?.map Turn.component = some next ↔
          failure.isFile = true)

/- What is told of a turn is its progress. -/
theorem events_isProgress
    (settings : Settings)
    (turn : Turn) :
    ∀ event ∈ turn.events settings,
      (event.notice settings).isProgress = true := by
  have hOpening :
      ∀ created,
        ∀ event ∈
            openingEvents settings turn.component created,
          (event.notice settings).isProgress = true := by
    intro created event hEvent
    rcases List.mem_append.mp hEvent with
      hMarker | hProcessing
    · cases created with
      | true =>
          rw [List.mem_singleton.mp hMarker]
          rfl
      | false => exact absurd hMarker List.not_mem_nil
    · rw [List.mem_singleton.mp hProcessing]
      rfl
  have hWritten :
      ∀ files,
        ∀ event ∈
            writtenEvents turn.component.strategy files,
          (event.notice settings).isProgress = true := by
    intro files event hEvent
    rcases mem_writtenEvents hEvent with
      ⟨path, rfl | rfl | rfl⟩
    · rfl
    · rfl
    · rfl
  intro event hEvent
  unfold Turn.events at hEvent
  cases hOutcome : turn.outcome with
  | finished created files =>
      rw [hOutcome] at hEvent
      rcases List.mem_append.mp hEvent with hFirst | hLast
      · exact hOpening created event hFirst
      · exact hWritten files event hLast
  | unmarked failure =>
      rw [hOutcome] at hEvent
      exact absurd hEvent List.not_mem_nil
  | unfinished created failure =>
      rw [hOutcome] at hEvent
      exact hOpening created event hEvent

/- Turns with results leave nothing to complain about. -/
theorem told_of_hasResult
    {turns : List Turn}
    (hResults : ∀ turn ∈ turns, turn.HasResult) :
    turns.flatMap (Turn.told settings) =
      turns.flatMap (Turn.events settings) := by
  refine List.flatMap_congr ?_
  intro turn hTurn
  rcases hResults turn hTurn with ⟨result, hResult⟩
  unfold Turn.told Turn.complaints
  simp only [hResult, List.append_nil]

/- Both kinds of runs find the same components. -/
theorem scan_failingFast
    {answer : Except Failure (List Component)}
    (hScan :
      scan store.tree viewer settings
          settings.componentsDirectory =
        answer) :
    scan store.tree viewer settings.failingFast
        settings.failingFast.componentsDirectory =
      answer :=
  (scan_switched _ _ _ _ _ _).trans hScan

theorem scan_collecting
    {answer : Except Failure (List Component)}
    (hScan :
      scan store.tree viewer settings
          settings.componentsDirectory =
        answer) :
    scan store.tree viewer settings.collecting
        settings.collecting.componentsDirectory =
      answer :=
  (scan_switched _ _ _ _ _ _).trans hScan

/- Runs without failures do not depend on how they fail. -/
theorem run_failingFast_eq
    (elapsed : Double)
    (hResults :
      ∀ turn ∈ runTurns viewer settings.collecting store,
        turn.HasResult) :
    run viewer settings.failingFast elapsed store =
      run viewer settings.collecting elapsed store := by
  cases hScan :
      scan store.tree viewer settings
        settings.componentsDirectory with
  | error failure =>
      rw [run_scan_error elapsed (scan_failingFast hScan),
        run_scan_error elapsed (scan_collecting hScan)]
  | ok components =>
      rw [runTurns_eq (scan_collecting hScan)] at hResults
      have hBatch := runBatch_failingFast_eq hResults
      rw [run_scan_ok elapsed (scan_failingFast hScan),
        run_scan_ok elapsed (scan_collecting hScan)]
      cases components with
      | nil => rfl
      | cons component rest =>
          unfold runComponents
          simp only [hBatch]

/- A batch that is stopped ends its run. -/
theorem runComponents_stopped
    (elapsed : Double)
    {failure : Failure}
    (hStopped :
      (runBatch viewer settings store components).stopped =
        some failure) :
    let batch := runBatch viewer settings store components
    runComponents viewer settings elapsed store components =
      ⟨batch.store, batch.events, .error failure⟩ := by
  cases components with
  | nil =>
      have hNone : none = some failure := hStopped
      contradiction
  | cons component rest =>
      unfold runComponents
      simp only [hStopped]

/- The next component has its turn if the batch goes on. -/
theorem head?_component_iff
    {next : Component}
    (hNext : next ∈ rest.head?)
    {goesOn : Bool} :
    ((if goesOn then
        turnsOf viewer settings store rest
      else
        []).head?.map Turn.component = some next ↔
      goesOn = true) := by
  cases rest with
  | nil => simp at hNext
  | cons component others =>
      rw [List.head?_cons, Option.mem_some_iff] at hNext
      rw [hNext, turnsOf_cons]
      cases goesOn with
      | true =>
          rw [if_pos rfl, List.head?_cons]
          exact iff_of_true rfl rfl
      | false => simp

/- A run that fails fast is cut at its first failure. -/
theorem run_cut
    (elapsed : Double)
    {done later : List Turn}
    {failed : Turn}
    {failure : Failure}
    (hTurns :
      runTurns viewer settings.collecting store =
        done ++ failed :: later)
    (hDone : ∀ turn ∈ done, turn.HasResult)
    (hFailed : failed.result = .error failure) :
    IsCutAt viewer settings store
      (run viewer settings.collecting elapsed store)
      (run viewer settings.failingFast elapsed store)
      done failed later failure := by
  cases hScan :
      scan store.tree viewer settings
        settings.componentsDirectory with
  | error problem =>
      rw [runTurns_scan_error (scan_collecting hScan)]
        at hTurns
      simp at hTurns
  | ok components =>
      have hCut :=
        runBatch_cut
          ((runTurns_eq (scan_collecting hScan)).symm.trans
            hTurns)
          hDone hFailed
      rcases hCut.batch with ⟨results, hBatch⟩
      have hFast :
          run viewer settings.failingFast elapsed store =
            ⟨failed.after,
              .started ::
                (done ++ [failed]).flatMap
                  (Turn.events settings.collecting),
              .error failure⟩ := by
        rw [run_scan_ok elapsed (scan_failingFast hScan)]
        simp only [runComponents_stopped elapsed
          (congrArg Batch.stopped hBatch), hBatch]
      rw [hFast]
      refine ⟨rfl, rfl, ?_, rfl, ?_, ?_, ?_⟩
      · rw [runTurns_eq (scan_failingFast hScan)]
        exact hCut.turns
      · rcases run_events viewer settings.collecting elapsed
            store with
          ⟨closing, hEvents, hClosing⟩
        refine ⟨closing, ?_, hClosing⟩
        rw [hEvents, hTurns, List.flatMap_append,
          told_of_hasResult hDone]
        simp only [noticesOf, Turn.told, List.flatMap_append,
          List.flatMap_cons, List.flatMap_nil,
          List.append_nil, List.map_cons, List.map_append,
          List.cons_append, List.append_assoc]
        rfl
      · intro notice hNotice
        rcases List.mem_map.mp hNotice with
          ⟨event, hEvent, rfl⟩
        rcases List.mem_cons.mp hEvent with rfl | hEvent
        · rfl
        · rcases List.mem_flatMap.mp hEvent with
            ⟨turn, _, hEvent⟩
          exact events_isProgress settings.collecting turn
            event hEvent
      · rcases hCut.rest with ⟨rest, rfl, hLater⟩
        refine ⟨rest, hScan, hLater, ?_⟩
        intro next hNext
        rw [hLater]
        exact head?_component_iff hNext

/-
  A run that fails fast is the run that collects failures,
  as far as that comes without one.
-/
theorem run_failingFast
    (viewer : Viewer)
    (settings : Settings)
    (elapsed : Double)
    (store : Store) :
    let collecting :=
      run viewer settings.collecting elapsed store
    let fast :=
      run viewer settings.failingFast elapsed store
    let turns := runTurns viewer settings.collecting store
    IsRelay viewer settings.collecting store turns
        collecting.store ∧
      ((∀ turn ∈ turns, turn.HasResult) ∧
          fast = collecting ∧
          noticesOf settings.failingFast fast.events =
            noticesOf settings.collecting
              collecting.events ∨
        ∃ done failed later failure,
          turns = done ++ failed :: later ∧
            (∀ turn ∈ done, turn.HasResult) ∧
            failed.result = .error failure ∧
            IsCutAt viewer settings store collecting fast
              done failed later failure) := by
  refine ⟨run_isRelay viewer settings.collecting elapsed
    store, ?_⟩
  rcases exists_first_failed
      (runTurns viewer settings.collecting store) with
    hResults |
      ⟨done, failed, later, failure, hTurns, hDone,
        hFailed⟩
  · have hSame := run_failingFast_eq elapsed hResults
    refine .inl ⟨hResults, hSame, ?_⟩
    simp only [hSame]
    rfl
  · exact .inr ⟨done, failed, later, failure, hTurns, hDone,
      hFailed, run_cut elapsed hTurns hDone hFailed⟩

end Aggregation
