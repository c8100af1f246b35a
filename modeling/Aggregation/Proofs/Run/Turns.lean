import Aggregation.Proofs.Run.Frame

/-
  The turns that components take in a run.

  A run aggregates one component after the other, until it
  comes to the end or to a failure that stops it.  It leaves
  the store that its last turn leaves, and it tells what its
  turns tell.

  Key definitions include:
    * `Turn`
    * `runTurns`
    * `IsRelay`

  Key theorems include:
    * `runBatch_take`
    * `run_isRelay`
    * `run_events`
-/

------------------------------------------------------------
-- Turns
------------------------------------------------------------

namespace Aggregation

open Disk (Store Viewer)
open Number (Double)

/- The work on one component, as it was done in a batch. -/
structure Turn where
  component : Component
  before : Store
  after : Store
  outcome : Outcome

namespace Turn

/- Let a component take its turn. -/
def take
    (viewer : Viewer)
    (settings : Settings)
    (store : Store)
    (component : Component) :
    Turn :=
  let done := process viewer settings component store
  ⟨component, store, done.1, done.2⟩

/- The result of a turn, or why it has none. -/
def result (turn : Turn) : Except Failure Result :=
  turn.outcome.result turn.component

/- Events of a turn. -/
def events (settings : Settings) (turn : Turn) :
    List Event :=
  turn.outcome.events settings turn.component

/- Test for a turn after which a batch goes on. -/
def goesOn (settings : Settings) (turn : Turn) : Bool :=
  match turn.result with
  | .ok _ => true
  | .error (.file _) => !settings.failFast
  | .error _ => false

/- What a batch tells of a failure that it collects. -/
def complaints (settings : Settings) (turn : Turn) :
    List Event :=
  match turn.result with
  | .error (.file error) =>
      if settings.failFast then
        []
      else
        [.gaveUp turn.component.directory error]
  | _ => []

/- What a batch tells of a turn. -/
def told (settings : Settings) (turn : Turn) : List Event :=
  turn.events settings ++ turn.complaints settings

end Turn

/- The turns of components, until one stops the batch. -/
def turnsOf
    (viewer : Viewer)
    (settings : Settings) :
    Store → List Component → List Turn
  | _, [] => []
  | store, component :: rest =>
      let turn := Turn.take viewer settings store component
      turn ::
        if turn.goesOn settings then
          turnsOf viewer settings turn.after rest
        else
          []

/- The turns of a run. -/
def runTurns
    (viewer : Viewer)
    (settings : Settings)
    (store : Store) :
    List Turn :=
  match scan store.tree viewer settings
      settings.componentsDirectory with
  | .error _ => []
  | .ok components =>
      turnsOf viewer settings store components

------------------------------------------------------------
-- Single Turns
------------------------------------------------------------

variable {viewer : Viewer}
variable {settings : Settings}
variable {store : Store}
variable {components : List Component}

theorem turnsOf_cons
    (viewer : Viewer)
    (settings : Settings)
    (store : Store)
    (component : Component)
    (rest : List Component) :
    turnsOf viewer settings store (component :: rest) =
      let turn := Turn.take viewer settings store component
      turn ::
        if turn.goesOn settings then
          turnsOf viewer settings turn.after rest
        else
          [] :=
  rfl

theorem runTurns_eq
    (hScan :
      scan store.tree viewer settings
          settings.componentsDirectory =
        .ok components) :
    runTurns viewer settings store =
      turnsOf viewer settings store components := by
  unfold runTurns
  simp only [hScan]

theorem runTurns_scan_error
    {failure : Failure}
    (hScan :
      scan store.tree viewer settings
          settings.componentsDirectory =
        .error failure) :
    runTurns viewer settings store = [] := by
  unfold runTurns
  simp only [hScan]

/-
  After its first turn a batch goes on with what is left, or
  the failure of that turn stops it.
-/
theorem runBatch_take
    (viewer : Viewer)
    (settings : Settings)
    (store : Store)
    (component : Component)
    (rest : List Component) :
    let turn := Turn.take viewer settings store component
    let batch :=
      runBatch viewer settings store (component :: rest)
    (turn.goesOn settings = true ∧
      ∃ results failures,
        batch =
          (runBatch viewer settings turn.after
            rest).following (turn.told settings) results
              failures) ∨
    (turn.goesOn settings = false ∧
      ∃ failure,
        turn.result = .error failure ∧
          batch =
            ⟨turn.after, turn.told settings, [], [],
              some failure⟩) := by
  rw [runBatch_cons]
  simp only [Turn.goesOn, Turn.told, Turn.events,
    Turn.complaints, Turn.result, Turn.take]
  cases (process viewer settings component
      store).2.result component with
  | ok result =>
      refine .inl ⟨rfl, [result], [], ?_⟩
      simp only [List.append_nil]
  | error failure =>
      cases failure with
      | system path fault =>
          refine .inr ⟨rfl, _, rfl, ?_⟩
          simp only [List.append_nil]
      | rendering error =>
          refine .inr ⟨rfl, _, rfl, ?_⟩
          simp only [List.append_nil]
      | components failures =>
          refine .inr ⟨rfl, _, rfl, ?_⟩
          simp only [List.append_nil]
      | file error =>
          cases settings.failFast with
          | true =>
              refine .inr ⟨rfl, _, rfl, ?_⟩
              simp only [if_true, List.append_nil]
          | false =>
              exact .inl ⟨rfl, [],
                [(component.directory, error)], rfl⟩

------------------------------------------------------------
-- Relays
------------------------------------------------------------

/- Turns that lead from one store to another. -/
inductive IsRelay
    (viewer : Viewer)
    (settings : Settings) :
    Store → List Turn → Store → Prop where
  | nil (store : Store) :
      IsRelay viewer settings store [] store
  | cons
      {store : Store}
      {component : Component}
      {turns : List Turn}
      {final : Store}
      (hRest :
        IsRelay viewer settings
          (process viewer settings component store).1
          turns final) :
      IsRelay viewer settings store
        (Turn.take viewer settings store component :: turns)
        final

/- The turns of a batch lead to the store that it leaves. -/
theorem turnsOf_isRelay (components : List Component) :
    IsRelay viewer settings store
      (turnsOf viewer settings store components)
      (runBatch viewer settings store components).store := by
  induction components generalizing store with
  | nil => exact .nil store
  | cons component rest ih =>
      rw [turnsOf_cons]
      rcases runBatch_take viewer settings store component
          rest with
        ⟨hOn, results, failures, hBatch⟩ |
          ⟨hStop, failure, _, hBatch⟩
      · simp only [hBatch, hOn, if_true]
        exact .cons ih
      · simp only [hBatch, hStop, Bool.false_eq_true,
          if_false]
        exact .cons (.nil _)

/- A batch tells what its turns tell. -/
theorem runBatch_events (components : List Component) :
    (runBatch viewer settings store components).events =
      (turnsOf viewer settings store components).flatMap
        (Turn.told settings) := by
  induction components generalizing store with
  | nil => rfl
  | cons component rest ih =>
      rw [turnsOf_cons]
      rcases runBatch_take viewer settings store component
          rest with
        ⟨hOn, results, failures, hBatch⟩ |
          ⟨hStop, failure, _, hBatch⟩
      · simp only [hBatch, hOn, if_true, List.flatMap_cons,
          ← ih]
        rfl
      · simp only [hBatch, hStop, Bool.false_eq_true,
          if_false, List.flatMap_cons, List.flatMap_nil,
          List.append_nil]

------------------------------------------------------------
-- Runs
------------------------------------------------------------

/- The turns of a run lead to the store that it leaves. -/
theorem run_isRelay
    (viewer : Viewer)
    (settings : Settings)
    (elapsed : Double)
    (store : Store) :
    IsRelay viewer settings store
      (runTurns viewer settings store)
      (run viewer settings elapsed store).store := by
  cases hScan :
      scan store.tree viewer settings
        settings.componentsDirectory with
  | error failure =>
      rw [run_scan_error elapsed hScan,
        runTurns_scan_error hScan]
      exact .nil store
  | ok components =>
      rw [run_store elapsed hScan, runTurns_eq hScan]
      exact turnsOf_isRelay components

/- Test for what a run tells when all turns are over. -/
def Event.isClosing : Event → Bool
  | .nothingFound | .summed _ | .completed => true
  | _ => false

/- What is told of a batch that is at its end. -/
theorem finish_events (batch : Batch) (elapsed : Double) :
    ∃ closing : List Event,
      (batch.finish elapsed).events =
          batch.events ++ closing ∧
        ∀ event ∈ closing, event.isClosing = true := by
  unfold Batch.finish
  split
  · refine ⟨_, rfl, ?_⟩
    simp [Event.isClosing]
  · refine ⟨_, rfl, ?_⟩
    simp [Event.isClosing]

/- What is told of components, after all their turns. -/
theorem runComponents_events
    (elapsed : Double)
    (components : List Component) :
    ∃ closing : List Event,
      (runComponents viewer settings elapsed store
          components).events =
        (turnsOf viewer settings store components).flatMap
            (Turn.told settings) ++ closing ∧
      ∀ event ∈ closing, event.isClosing = true := by
  unfold runComponents
  cases components with
  | nil =>
      refine ⟨[.nothingFound], rfl, ?_⟩
      intro event hEvent
      rw [List.mem_singleton.mp hEvent]
      rfl
  | cons component rest =>
      rw [← runBatch_events]
      simp only
      split
      · exact ⟨[], (List.append_nil _).symm,
          List.forall_mem_nil _⟩
      · exact finish_events _ elapsed

/-
  A run tells that it starts, what its turns tell, and then
  how it ends.
-/
theorem run_events
    (viewer : Viewer)
    (settings : Settings)
    (elapsed : Double)
    (store : Store) :
    ∃ closing : List Event,
      (run viewer settings elapsed store).events =
        .started ::
          (runTurns viewer settings store).flatMap
              (Turn.told settings) ++ closing ∧
      ∀ event ∈ closing, event.isClosing = true := by
  cases hScan :
      scan store.tree viewer settings
        settings.componentsDirectory with
  | error failure =>
      rw [run_scan_error elapsed hScan,
        runTurns_scan_error hScan]
      exact ⟨[], rfl, List.forall_mem_nil _⟩
  | ok components =>
      rw [run_scan_ok elapsed hScan, runTurns_eq hScan]
      rcases runComponents_events elapsed components with
        ⟨closing, hEvents, hClosing⟩
      exact ⟨closing,
        congrArg (List.cons Event.started) hEvents,
        hClosing⟩

end Aggregation
