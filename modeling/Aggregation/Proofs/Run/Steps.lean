import Aggregation.Proofs.Run.Process

/-
  The work on one component, step by step.

  A step asks for the marker or writes one file.  Work that
  is taken step by step to its end is the work that is done
  at once.

  Key definitions include:
    * `Stage`
    * `Stage.step`
    * `Stage.finish`
    * `Move`
    * `Stage.moves`
    * `IsPassage`

  Key theorems include:
    * `Stage.finish_step`
    * `Stage.moves_isPassage`
-/

------------------------------------------------------------
-- Stages
------------------------------------------------------------

namespace Aggregation

open Disk (Store Viewer)

/- How far the work on a component has come. -/
inductive Stage where
  | checking
  | marking
  | writing
      (created : Bool)
      (done : List Path)
      (output : Output)
      (left : List Output)
  | ended (outcome : Outcome)

namespace Stage

/- Test for work that has come to its end. -/
def isEnded : Stage → Bool
  | .ended _ => true
  | _ => false

/- Test for work that is past its marker. -/
def isMarked : Stage → Bool
  | .writing _ _ _ _ => true
  | .ended (.finished _ _) => true
  | .ended (.unfinished _ _) => true
  | _ => false

/- The stage with some files done and others left. -/
def ofLeft
    (created : Bool)
    (done : List Path) :
    (left : List Output) → Stage
  | [] => .ended (.finished created done)
  | output :: left => .writing created done output left

/- The stage after the test for a marker. -/
def afterCheck
    (settings : Settings)
    (component : Component) :
    Except Failure Bool → Stage
  | .error failure => .ended (.unmarked failure)
  | .ok true => ofLeft false [] (component.outputs settings)
  | .ok false => .marking

/- The stage after the placeholder. -/
def afterMarker
    (settings : Settings)
    (component : Component) :
    Except Failure Path → Stage
  | .error failure => .ended (.unmarked failure)
  | .ok _ => ofLeft true [] (component.outputs settings)

/- The stage after one more file. -/
def afterFile
    (created : Bool)
    (done : List Path)
    (left : List Output) :
    Except Failure Path → Stage
  | .error failure => .ended (.unfinished created failure)
  | .ok path => ofLeft created (done ++ [path]) left

/- Take one step of the work on a component. -/
def step
    (viewer : Viewer)
    (settings : Settings)
    (component : Component)
    (store : Store) :
    Stage → Store × Stage
  | .checking =>
      (store,
        afterCheck settings component
          (hasMarker store viewer settings
            component.directory))
  | .marking =>
      let emitted :=
        (placeholderOutput settings
          component.directory).emit viewer
            settings.skipUnchanged store
      (emitted.1, afterMarker settings component emitted.2)
  | .writing created done output left =>
      let emitted :=
        output.emit viewer settings.skipUnchanged store
      (emitted.1, afterFile created done left emitted.2)
  | .ended outcome => (store, .ended outcome)

------------------------------------------------------------
-- Work That Is Left
------------------------------------------------------------

/- Most steps that are left. -/
def remaining
    (settings : Settings)
    (component : Component) :
    Stage → Nat
  | .checking => (component.outputs settings).length + 2
  | .marking => (component.outputs settings).length + 1
  | .writing _ _ _ left => left.length + 1
  | .ended _ => 0

/- The outcome of files, some of which are done already. -/
def outcomeOf
    (created : Bool)
    (done : List Path) :
    Except Failure (List Path) → Outcome
  | .error failure => .unfinished created failure
  | .ok paths => .finished created (done ++ paths)

/- Write all files that are left. -/
def finishFiles
    (viewer : Viewer)
    (settings : Settings)
    (created : Bool)
    (done : List Path)
    (store : Store)
    (left : List Output) :
    Store × Outcome :=
  let emitted :=
    emitAll viewer settings.skipUnchanged store left
  (emitted.1, outcomeOf created done emitted.2)

/- Do all the work that is left. -/
def finish
    (viewer : Viewer)
    (settings : Settings)
    (component : Component)
    (store : Store) :
    Stage → Store × Outcome
  | .checking => process viewer settings component store
  | .marking =>
      let emitted :=
        (placeholderOutput settings
          component.directory).emit viewer
            settings.skipUnchanged store
      match emitted.2 with
      | .error failure => (emitted.1, .unmarked failure)
      | .ok _ =>
          finishFiles viewer settings true [] emitted.1
            (component.outputs settings)
  | .writing created done output left =>
      finishFiles viewer settings created done store
        (output :: left)
  | .ended outcome => (store, outcome)

variable {viewer : Viewer}
variable {settings : Settings}
variable {component : Component}
variable {store : Store}

theorem remaining_ofLeft
    (created : Bool)
    (done : List Path)
    (left : List Output) :
    (ofLeft created done left).remaining settings
        component =
      left.length := by
  cases left with
  | nil => rfl
  | cons output left => rfl

/- A test for a marker leaves the files at most. -/
theorem remaining_afterCheck
    (answer : Except Failure Bool) :
    (afterCheck settings component answer).remaining
        settings component ≤
      (component.outputs settings).length + 1 := by
  cases answer with
  | error failure => exact Nat.zero_le _
  | ok marked =>
      cases marked with
      | true =>
          rw [afterCheck, remaining_ofLeft]
          exact Nat.le_succ _
      | false => exact Nat.le_refl _

theorem remaining_afterMarker
    (answer : Except Failure Path) :
    (afterMarker settings component answer).remaining
        settings component ≤
      (component.outputs settings).length := by
  cases answer with
  | error failure => exact Nat.zero_le _
  | ok path => exact Nat.le_of_eq (remaining_ofLeft _ _ _)

theorem remaining_afterFile
    (created : Bool)
    (done : List Path)
    (left : List Output)
    (answer : Except Failure Path) :
    (afterFile created done left answer).remaining settings
        component ≤
      left.length := by
  cases answer with
  | error failure => exact Nat.zero_le _
  | ok path => exact Nat.le_of_eq (remaining_ofLeft _ _ _)

/- A step leaves fewer steps. -/
theorem remaining_step
    {stage : Stage}
    (hOpen : stage.isEnded = false) :
    (stage.step viewer settings component
        store).2.remaining settings component <
      stage.remaining settings component := by
  cases stage with
  | checking =>
      exact Nat.lt_succ_of_le (remaining_afterCheck _)
  | marking =>
      exact Nat.lt_succ_of_le (remaining_afterMarker _)
  | writing created done output left =>
      exact Nat.lt_succ_of_le
        (remaining_afterFile created done left _)
  | ended outcome => contradiction

theorem finish_ofLeft
    (created : Bool)
    (done : List Path)
    (left : List Output) :
    (ofLeft created done left).finish viewer settings
        component store =
      finishFiles viewer settings created done store
        left := by
  cases left with
  | nil =>
      simp only [ofLeft, finish, finishFiles, emitAll,
        outcomeOf, List.append_nil]
  | cons output left => rfl

/- The paths of files are collected as they are written. -/
theorem outcomeOf_map
    (created : Bool)
    (done : List Path)
    (path : Path)
    (answers : Except Failure (List Path)) :
    outcomeOf created done (answers.map (path :: ·)) =
      outcomeOf created (done ++ [path]) answers := by
  cases answers with
  | error failure => rfl
  | ok paths =>
      simp only [Except.map, outcomeOf, List.append_assoc,
        List.singleton_append]

/- The first file that is left decides about the others. -/
theorem finishFiles_cons
    (created : Bool)
    (done : List Path)
    (output : Output)
    (left : List Output) :
    finishFiles viewer settings created done store
        (output :: left) =
      let emitted :=
        output.emit viewer settings.skipUnchanged store
      (afterFile created done left emitted.2).finish viewer
        settings component emitted.1 := by
  unfold finishFiles
  rw [emitAll_cons]
  simp only
  cases (output.emit viewer settings.skipUnchanged
      store).2 with
  | error failure => rfl
  | ok path =>
      rw [afterFile, finish_ofLeft]
      simp only [finishFiles, outcomeOf_map]

/- Work goes on to the files once there is a marker. -/
theorem process_eq_finish :
    process viewer settings component store =
      (afterCheck settings component
        (hasMarker store viewer settings
          component.directory)).finish viewer settings
            component store := by
  unfold process ensureMarker
  cases hasMarker store viewer settings
      component.directory with
  | error failure => rfl
  | ok marked =>
      cases marked with
      | true =>
          rw [afterCheck, finish_ofLeft]
          simp only [finishFiles]
          rcases emitAll viewer settings.skipUnchanged store
              (component.outputs settings) with
            ⟨after, answers⟩
          cases answers with
          | error failure => rfl
          | ok paths => rfl
      | false =>
          simp only [afterCheck, finish, finishFiles]
          rcases (placeholderOutput settings
              component.directory).emit viewer
                settings.skipUnchanged store with
            ⟨after, answer⟩
          cases answer with
          | error failure => rfl
          | ok path =>
              simp only
              rcases emitAll viewer settings.skipUnchanged
                  after (component.outputs settings) with
                ⟨final, answers⟩
              cases answers with
              | error failure => rfl
              | ok paths => rfl

/- Work that is begun and finished is done at once. -/
theorem finish_step
    (component : Component)
    (store : Store)
    (stage : Stage) :
    stage.finish viewer settings component store =
      (stage.step viewer settings component store).2.finish
        viewer settings component
        (stage.step viewer settings component store).1 := by
  cases stage with
  | checking => exact process_eq_finish
  | marking =>
      unfold step
      conv => lhs; unfold finish
      simp only
      cases ((placeholderOutput settings
          component.directory).emit viewer
            settings.skipUnchanged store).2 with
      | error failure => rfl
      | ok path => rw [afterMarker, finish_ofLeft]
  | writing created done output left =>
      exact finishFiles_cons created done output left
  | ended outcome => rfl

end Stage

------------------------------------------------------------
-- Moves
------------------------------------------------------------

/- A step of the work on a component, as it was taken. -/
structure Move where
  component : Component
  stage : Stage
  before : Store
  next : Stage
  after : Store

/- A move is what the step of its stage makes of a store. -/
def Move.IsStep
    (viewer : Viewer)
    (settings : Settings)
    (move : Move) :
    Prop :=
  move.stage.isEnded = false ∧
    move.stage.step viewer settings move.component
        move.before =
      (move.after, move.next)

/- All moves from a stage to the end of the work. -/
def Stage.moves
    (viewer : Viewer)
    (settings : Settings)
    (component : Component)
    (store : Store)
    (stage : Stage) :
    List Move :=
  if _ : stage.isEnded = false then
    let taken := stage.step viewer settings component store
    ⟨component, stage, store, taken.2, taken.1⟩ ::
      taken.2.moves viewer settings component taken.1
  else
    []
termination_by stage.remaining settings component
decreasing_by exact remaining_step ‹_›

/- Steps that lead from one store to another. -/
inductive IsPassage
    (viewer : Viewer)
    (settings : Settings) :
    Store → List Move → Store → Prop where
  | nil (store : Store) :
      IsPassage viewer settings store [] store
  | cons
      {move : Move}
      {moves : List Move}
      {final : Store}
      (hStep : move.IsStep viewer settings)
      (hRest :
        IsPassage viewer settings move.after moves final) :
      IsPassage viewer settings move.before (move :: moves)
        final

variable {viewer : Viewer}
variable {settings : Settings}

theorem IsPassage.append
    {start middle final : Store}
    {first second : List Move}
    (hFirst : IsPassage viewer settings start first middle)
    (hSecond :
      IsPassage viewer settings middle second final) :
    IsPassage viewer settings start (first ++ second)
      final := by
  induction hFirst with
  | nil store => exact hSecond
  | cons hStep _ ih => exact .cons hStep (ih hSecond)

/- All moves of the work lead to where the work leads. -/
theorem Stage.moves_isPassage
    (component : Component)
    (store : Store)
    (stage : Stage) :
    IsPassage viewer settings store
      (stage.moves viewer settings component store)
      (stage.finish viewer settings component store).1 := by
  fun_induction Stage.moves viewer settings component store
      stage with
  | case1 store stage hOpen taken ih =>
      rw [finish_step]
      let move : Move :=
        ⟨component, stage, store, taken.2, taken.1⟩
      have hStep : move.IsStep viewer settings :=
        ⟨hOpen, rfl⟩
      exact IsPassage.cons hStep ih
  | case2 store stage hEnded =>
      cases stage with
      | ended outcome => exact .nil store
      | checking => exact absurd rfl hEnded
      | marking => exact absurd rfl hEnded
      | writing created done output left =>
          exact absurd rfl hEnded

end Aggregation
