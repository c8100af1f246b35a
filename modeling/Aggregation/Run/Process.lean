import Aggregation.Emission.Output
import Aggregation.Run.Event

/-
  The work on one component.

  First there is a marker, so that imports of the component
  resolve even if a later step fails.  Then the files of the
  component's strategy are written.

  Key definitions include:
    * `Outcome`
    * `process`
    * `Outcome.events`
    * `Outcome.result`
-/

------------------------------------------------------------
-- Outcomes
------------------------------------------------------------

namespace Aggregation

open Disk (Store Viewer)

/- How far the work on a component came. -/
inductive Outcome where
  | finished (created : Bool) (files : List Path)
  | unmarked (failure : Failure)
  | unfinished (created : Bool) (failure : Failure)
  deriving DecidableEq, Repr

/- Aggregate one component. -/
def process
    (viewer : Viewer)
    (settings : Settings)
    (component : Component)
    (store : Store) :
    Store × Outcome :=
  match ensureMarker store viewer settings
      component.directory with
  | (after, .error failure) => (after, .unmarked failure)
  | (after, .ok marker) =>
      match emitAll viewer settings.skipUnchanged after
          (component.outputs settings) with
      | (final, .error failure) =>
          (final, .unfinished marker.isSome failure)
      | (final, .ok files) =>
          (final, .finished marker.isSome files)

------------------------------------------------------------
-- Reports
------------------------------------------------------------

/- The result of a component, or why it has none. -/
def Outcome.result
    (component : Component) :
    Outcome → Except Failure Result
  | .finished created files =>
      .ok ⟨component.directory, component.strategy, created,
        files⟩
  | .unmarked failure => .error failure
  | .unfinished _ failure => .error failure

/- Events of the start, once there is a marker. -/
def openingEvents
    (settings : Settings)
    (component : Component)
    (created : Bool) :
    List Event :=
  (if created then
    [.markerCreated
      (aggregationPath settings component.directory)]
  else
    []) ++
  [.processing component.directory component.rootFile]

/- Events of the files that a strategy wrote. -/
def writtenEvents :
    Strategy → (files : List Path) → List Event
  | .composed, files => files.map .composedWritten
  | .barrel, [] => []
  | .barrel, index :: others =>
      .indexWritten index :: others.map .wrapperWritten

/- Events of the work on a component. -/
def Outcome.events
    (settings : Settings)
    (component : Component) :
    Outcome → List Event
  | .finished created files =>
      openingEvents settings component created ++
        writtenEvents component.strategy files
  | .unmarked _ => []
  | .unfinished created _ =>
      openingEvents settings component created

end Aggregation
