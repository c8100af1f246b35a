import Aggregation.Proofs.Disk.Requests
import Aggregation.Proofs.Run.Moves

/-
  What a run makes of a store.

  However a run ends, it writes files and makes directories,
  and all else stays.  This does not depend on links, nor on
  the names in the settings.

  Key theorems include:
    * `process_extends`
    * `run_extends`
-/

------------------------------------------------------------
-- Extended Stores
------------------------------------------------------------

namespace Aggregation

open Disk (Store Viewer)
open Number (Double)

variable {viewer : Viewer}
variable {settings : Settings}
variable {store : Store}

/- A file that is generated extends the store by it. -/
theorem Output.emit_extends
    (output : Output)
    (viewer : Viewer)
    (skipUnchanged : Bool)
    (store : Store) :
    store.Extends
      (output.emit viewer skipUnchanged store).1 := by
  unfold Output.emit
  split
  · exact .refl store
  · rename_i text _
    have hSave :=
      store.save_extends viewer skipUnchanged output.path
        text
    split
    · rename_i hAnswer
      rw [hAnswer] at hSave
      exact hSave
    · rename_i hAnswer
      rw [hAnswer] at hSave
      exact hSave

/- So does a marker that is asked for. -/
theorem ensureMarker_extends
    (store : Store)
    (viewer : Viewer)
    (settings : Settings)
    (directory : Path) :
    store.Extends
      (ensureMarker store viewer settings directory).1 := by
  have hEmitted :=
    (placeholderOutput settings directory).emit_extends
      viewer settings.skipUnchanged store
  unfold ensureMarker
  split
  · exact .refl store
  · exact .refl store
  · split
    · rename_i hAnswer
      rw [hAnswer] at hEmitted
      exact hEmitted
    · rename_i hAnswer
      rw [hAnswer] at hEmitted
      exact hEmitted

theorem Stage.step_extends
    (component : Component)
    (store : Store)
    (stage : Stage) :
    store.Extends
      (stage.step viewer settings component store).1 := by
  cases stage with
  | checking => exact .refl store
  | marking => exact Output.emit_extends _ _ _ store
  | writing created done output left =>
      exact output.emit_extends _ _ store
  | ended outcome => exact .refl store

/- Moves extend the store, one after the other. -/
theorem IsPassage.extends
    {moves : List Move}
    {final : Store}
    (hPassage :
      IsPassage viewer settings store moves final) :
    store.Extends final := by
  induction hPassage with
  | nil store => exact .refl store
  | @cons move moves final hStep _ ih =>
      have hMove :
          move.before.Extends
            (move.stage.step viewer settings move.component
              move.before).1 :=
        Stage.step_extends move.component move.before
          move.stage
      rw [hStep.2] at hMove
      exact hMove.trans ih

theorem process_extends
    (viewer : Viewer)
    (settings : Settings)
    (component : Component)
    (store : Store) :
    store.Extends
      (process viewer settings component store).1 :=
  (Stage.moves_isPassage component store .checking).extends

/- However a run ends, it extends the store. -/
theorem run_extends
    (viewer : Viewer)
    (settings : Settings)
    (elapsed : Double)
    (store : Store) :
    store.Extends
      (run viewer settings elapsed store).store :=
  (run_isPassage viewer settings elapsed store).extends

end Aggregation
