import Aggregation.Run.Process
import Aggregation.Scan

/-
  Runs over a whole library.

  The library is scanned once.  Then its components are
  aggregated one after the other.  A run stops at the first
  failure, or it collects the failures of files and goes on.

  Key definitions include:
    * `Batch`
    * `runBatch`
    * `Run`
    * `run`
    * `runReported`
-/

------------------------------------------------------------
-- Batches
------------------------------------------------------------

namespace Aggregation

open Disk (Store Viewer)
open Number (Double)

/-
  Work on some components: what was reported, and the
  failure that stopped it early, if one did.
-/
structure Batch where
  store : Store
  events : List Event
  results : List Result
  failures : List (Path × FileError)
  stopped : Option Failure

/- A batch with something that was done before it. -/
def Batch.following
    (batch : Batch)
    (events : List Event)
    (results : List Result)
    (failures : List (Path × FileError)) :
    Batch :=
  ⟨batch.store,
    events ++ batch.events,
    results ++ batch.results,
    failures ++ batch.failures,
    batch.stopped⟩

/- Aggregate components in turn. -/
def runBatch
    (viewer : Viewer)
    (settings : Settings) :
    Store → List Component → Batch
  | store, [] => ⟨store, [], [], [], none⟩
  | store, component :: rest =>
      match process viewer settings component store with
      | (after, outcome) =>
          let events := outcome.events settings component
          match outcome.result component with
          | .ok result =>
              (runBatch viewer settings after rest).following
                events [result] []
          | .error (.file error) =>
              if settings.failFast then
                ⟨after, events, [], [], some (.file error)⟩
              else
                (runBatch viewer settings after
                  rest).following
                    (events ++
                      [.gaveUp component.directory error])
                    []
                    [(component.directory, error)]
          | .error failure =>
              ⟨after, events, [], [], some failure⟩

------------------------------------------------------------
-- Runs
------------------------------------------------------------

/- A run with everything that it shows. -/
structure Run where
  store : Store
  events : List Event
  outcome : Except Failure Report

/- The report of a batch. -/
def Batch.report (batch : Batch) (elapsed : Double) : Report :=
  ⟨batch.results,
    batch.failures.map fun (_, error) => error.message,
    elapsed⟩

/- The run that a batch without early stop makes up. -/
def Batch.finish (batch : Batch) (elapsed : Double) : Run :=
  let report := batch.report elapsed
  match batch.failures with
  | [] =>
      ⟨batch.store,
        batch.events ++ [.summed report, .completed],
        .ok report⟩
  | failures =>
      ⟨batch.store,
        batch.events ++ [.summed report],
        .error (.components failures)⟩

/- Aggregate components that a scan found. -/
def runComponents
    (viewer : Viewer)
    (settings : Settings)
    (elapsed : Double)
    (store : Store) :
    List Component → Run
  | [] => ⟨store, [.nothingFound], .ok ⟨[], [], elapsed⟩⟩
  | components =>
      let batch := runBatch viewer settings store components
      match batch.stopped with
      | some failure =>
          ⟨batch.store, batch.events, .error failure⟩
      | none => batch.finish elapsed

/- Aggregate the library of the settings. -/
def run
    (viewer : Viewer)
    (settings : Settings)
    (elapsed : Double)
    (store : Store) :
    Run :=
  match scan store.tree viewer settings
      settings.componentsDirectory with
  | .error failure => ⟨store, [.started], .error failure⟩
  | .ok components =>
      let done :=
        runComponents viewer settings elapsed store components
      ⟨done.store, .started :: done.events, done.outcome⟩

------------------------------------------------------------
-- Commands
------------------------------------------------------------

/- How a command ends. -/
inductive Ending where
  | exited (succeeded : Bool)
  | escaped (failure : Failure)

/- Test for a failure that is told to the user. -/
def Failure.isReported : Failure → Bool
  | .file _ | .components _ => true
  | _ => false

/-
  Aggregate a library and tell the user if that fails.  A
  failure without a notice of its own escapes.
-/
def runReported
    (viewer : Viewer)
    (settings : Settings)
    (elapsed : Double)
    (store : Store) :
    Store × List Event × Ending :=
  let done := run viewer settings elapsed store
  match done.outcome with
  | .ok _ => (done.store, done.events, .exited true)
  | .error failure =>
      if failure.isReported then
        (done.store, done.events ++ [.aborted failure],
          .exited false)
      else
        (done.store, done.events, .escaped failure)

end Aggregation
