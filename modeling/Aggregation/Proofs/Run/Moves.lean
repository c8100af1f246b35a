import Aggregation.Proofs.Run.Locality
import Aggregation.Proofs.Run.Turns

/-
  The moves of a run.

  A run is the moves of its turns, one after the other.  Each
  move is work on one of the components, at a stage that fits
  what has been written for it.

  Key definitions include:
    * `Stage.Fits`
    * `Move.IsWorkOn`
    * `runMoves`

  Key theorems include:
    * `Stage.step_fits`
    * `run_isPassage`
    * `runMoves_isWork`
-/

------------------------------------------------------------
-- Fitting Stages
------------------------------------------------------------

namespace Aggregation

open Disk (FileTree Location Slot Store Viewer)
open Number (Double)

/- The paths of the files that are done at a stage. -/
def Stage.written : Stage → List Path
  | .writing _ done _ _ => done
  | _ => []

/-
  A stage of the work on a site that fits a tree: nothing is
  where a placeholder is about to be written, and what is
  past is there.
-/
structure Stage.Fits
    {settings : Settings}
    (site : Site settings)
    (viewer : Viewer)
    (tree : FileTree)
    (stage : Stage) :
    Prop where
  isOf : stage.IsOf site
  vacant :
    stage = .marking →
      site.isMarked viewer tree = .ok false
  marked :
    stage.isMarked = true → site.HasMarker viewer tree
  done :
    ∀ placed ∈ site.files.take stage.written.length,
      placed.IsDone viewer tree

variable {settings : Settings}
variable {viewer : Viewer}
variable {site : Site settings}
variable {sites : List (Site settings)}
variable {store : Store}

namespace Stage

/- Where no file is written yet, none has to be done. -/
theorem isDone_of_written_eq_nil
    (site : Site settings)
    (viewer : Viewer)
    (tree : FileTree)
    {stage : Stage}
    (hNone : stage.written = []) :
    ∀ placed ∈ site.files.take stage.written.length,
      placed.IsDone viewer tree := by
  intro placed hPlaced
  simp [hNone] at hPlaced

/- Work that starts fits any tree. -/
theorem checking_fits
    (site : Site settings)
    (viewer : Viewer)
    (tree : FileTree) :
    checking.Fits site viewer tree where
  isOf := trivial
  vacant := nofun
  marked := nofun
  done := isDone_of_written_eq_nil site viewer tree rfl

/- Work without a marker is at its end. -/
theorem unmarked_fits
    (site : Site settings)
    (viewer : Viewer)
    (tree : FileTree)
    (failure : Failure) :
    (ended (.unmarked failure)).Fits site viewer tree where
  isOf := trivial
  vacant := nofun
  marked := nofun
  done := isDone_of_written_eq_nil site viewer tree rfl

/- Work goes on with what is left, or it is at its end. -/
theorem ofLeft_fits
    {tree : FileTree}
    (hMarker : site.HasMarker viewer tree)
    {created : Bool}
    {done : List Path}
    {left : List Output}
    (hLeft :
      left =
        (site.files.drop done.length).map Placed.output)
    (hDone :
      ∀ placed ∈ site.files.take done.length,
        placed.IsDone viewer tree) :
    (ofLeft created done left).Fits site viewer tree where
  isOf := isOf_ofLeft hLeft
  vacant := by
    intro hMarking
    cases left with
    | nil => contradiction
    | cons output left => contradiction
  marked := fun _ => hMarker
  done := by
    cases left with
    | nil =>
        exact isDone_of_written_eq_nil site viewer tree rfl
    | cons output left => exact hDone

/- A file that is written is done, as are those before. -/
theorem isDone_of_take_succ
    (hSite : site.IsIn viewer store.tree)
    {placed : Placed}
    (hPlaced : placed ∈ site.files)
    {count : Nat}
    (hTake :
      site.files.take (count + 1) =
        site.files.take count ++ [placed])
    (hBefore :
      ∀ other ∈ site.files.take count,
        other.IsDone viewer store.tree)
    {path : Path}
    (hEmit :
      (placed.output.emit viewer settings.skipUnchanged
          store).2 =
        .ok path) :
    ∀ other ∈ site.files.take (count + 1),
      other.IsDone viewer
        (placed.output.emit viewer settings.skipUnchanged
          store).1.tree := by
  have hSlot := hSite.tail.inside placed hPlaced
  have hWritten :=
    placed.emit_writtenAt hSite.linkFree hSlot
      settings.skipUnchanged
  have hApart : AreApart (site.files.take (count + 1)) :=
    site.areApart_files.take
  unfold AreApart at hApart
  rw [hTake, List.pairwise_append] at hApart
  rw [hTake]
  intro other hOther
  rcases List.mem_append.mp hOther with hEarlier | hHere
  · -- The files before are at other places.
    refine (hBefore other hEarlier).writtenAt hWritten ?_
    rintro ⟨_, hPlace⟩
    exact hApart.2.2 other hEarlier placed
      List.mem_cons_self hPlace
  · rw [List.mem_singleton.mp hHere]
    exact placed.emit_isDone hSite.linkFree hSlot hEmit

/- A step leads to a stage that fits what it leaves. -/
theorem step_fits
    (hSite : site.IsIn viewer store.tree)
    {stage : Stage}
    (hFits : stage.Fits site viewer store.tree) :
    (stage.step viewer settings site.component
        store).2.Fits site viewer
      (stage.step viewer settings site.component
        store).1.tree := by
  have hFiles :
      site.component.outputs settings =
        (site.files.drop 0).map Placed.output :=
    site.outputs_files.symm
  cases stage with
  | checking =>
      simp only [step, hasMarker_eq hSite]
      cases hMarked : site.isMarked viewer store.tree with
      | error fault => exact unmarked_fits site viewer _ _
      | ok marked =>
          cases marked with
          | true =>
              refine ofLeft_fits
                (site.hasMarker_of_isMarked hMarked) hFiles ?_
              simp
          | false =>
              exact {
                isOf := trivial
                vacant := fun _ => hMarked
                marked := by
                  intro hPast
                  exact absurd hPast Bool.false_ne_true
                done :=
                  isDone_of_written_eq_nil site viewer _
                    rfl }
  | marking =>
      have hMarker :
          placeholderOutput settings
              site.component.directory =
            site.marker.output :=
        rfl
      simp only [step, hMarker]
      cases hEmit :
          (site.marker.output.emit viewer
            settings.skipUnchanged store).2 with
      | error failure => exact unmarked_fits site viewer _ _
      | ok path =>
          refine ofLeft_fits
            (site.hasMarker_of_emit hSite.linkFree
              hSite.aggregation hEmit) hFiles ?_
          simp
  | writing created done output left =>
      rcases hFits.isOf.exists_placed with
        ⟨placed, hPlaced, rfl, hTake, hLeft⟩
      have hSlot := hSite.tail.inside placed hPlaced
      have hWritten :=
        placed.emit_writtenAt hSite.linkFree hSlot
          settings.skipUnchanged
      have hMarker :=
        (hFits.marked rfl).grows hWritten.grows
      simp only [step]
      cases hEmit :
          (placed.output.emit viewer settings.skipUnchanged
            store).2 with
      | error failure =>
          exact {
            isOf := trivial
            vacant := by
              intro hMarking
              contradiction
            marked := fun _ => hMarker
            done :=
              isDone_of_written_eq_nil site viewer _ rfl }
      | ok path =>
          have hLength :
              (done ++ [path]).length = done.length + 1 :=
            List.length_append
          refine ofLeft_fits hMarker ?_ ?_
          · rw [hLength]
            exact hLeft
          · rw [hLength]
            exact isDone_of_take_succ hSite hPlaced hTake
              hFits.done hEmit
  | ended outcome => exact hFits

end Stage

------------------------------------------------------------
-- Work on a Site
------------------------------------------------------------

/- A step of the work on a site whose tree is ready. -/
structure Move.IsWorkOn
    {settings : Settings}
    (move : Move)
    (site : Site settings)
    (viewer : Viewer) :
    Prop where
  component : move.component = site.component
  inside : site.IsIn viewer move.before.tree
  fits : move.stage.Fits site viewer move.before.tree
  isStep : move.IsStep viewer settings

namespace Move.IsWorkOn

variable {move : Move}

theorem step_eq (hWork : move.IsWorkOn site viewer) :
    move.stage.step viewer settings site.component
        move.before =
      (move.after, move.next) := by
  rw [← hWork.component]
  exact hWork.isStep.2

/- A move changes nothing but the entries of its site. -/
theorem writtenAt (hWork : move.IsWorkOn site viewer) :
    move.before.WrittenAt move.after
      (IsPlaceOf viewer site.placed) := by
  have hStep :=
    Stage.step_writtenAt hWork.inside hWork.fits.isOf
  rw [hWork.step_eq] at hStep
  exact hStep

/- What a move leads to fits what it leaves. -/
theorem next_fits (hWork : move.IsWorkOn site viewer) :
    move.next.Fits site viewer move.after.tree := by
  have hFits := Stage.step_fits hWork.inside hWork.fits
  rw [hWork.step_eq] at hFits
  exact hFits

end Move.IsWorkOn

/- All moves of a component are work on its site. -/
theorem Stage.moves_isWorkOn
    (hSite : site.IsIn viewer store.tree)
    {stage : Stage}
    (hFits : stage.Fits site viewer store.tree) :
    ∀ move ∈
        stage.moves viewer settings site.component store,
      move.IsWorkOn site viewer := by
  fun_induction Stage.moves viewer settings site.component
      store stage with
  | case1 store stage hOpen taken ih =>
      have hWork :
          Move.IsWorkOn
            ⟨site.component, stage, store, taken.2, taken.1⟩
            site viewer :=
        ⟨rfl, hSite, hFits, hOpen, rfl⟩
      intro move hMove
      rcases List.mem_cons.mp hMove with hFirst | hLater
      · rw [hFirst]
        exact hWork
      · exact ih (hSite.grows hWork.writtenAt.grows)
          hWork.next_fits move hLater
  | case2 store stage hEnded =>
      exact List.forall_mem_nil _

------------------------------------------------------------
-- Moves of a Run
------------------------------------------------------------

/- The moves of a turn. -/
def Turn.moves
    (viewer : Viewer)
    (settings : Settings)
    (turn : Turn) :
    List Move :=
  Stage.checking.moves viewer settings turn.component
    turn.before

/- The moves of a run, in the order of its turns. -/
def runMoves
    (viewer : Viewer)
    (settings : Settings)
    (store : Store) :
    List Move :=
  (runTurns viewer settings store).flatMap
    (Turn.moves viewer settings)

/- The moves of turns lead where the turns lead. -/
theorem IsRelay.isPassage
    {turns : List Turn}
    {final : Store}
    (hRelay : IsRelay viewer settings store turns final) :
    IsPassage viewer settings store
      (turns.flatMap (Turn.moves viewer settings)) final := by
  induction hRelay with
  | nil store => exact .nil store
  | cons _ ih =>
      rw [List.flatMap_cons]
      exact (Stage.moves_isPassage _ _ .checking).append ih

/- The moves of a run lead to the store that it leaves. -/
theorem run_isPassage
    (viewer : Viewer)
    (settings : Settings)
    (elapsed : Double)
    (store : Store) :
    IsPassage viewer settings store
      (runMoves viewer settings store)
      (run viewer settings elapsed store).store :=
  (run_isRelay viewer settings elapsed store).isPassage

/- A turn is that of a component whose tree is ready. -/
theorem turnsOf_isIn
    {all : List (Site settings)}
    (hSited : AreSited viewer all store.tree)
    (hSites : ∀ site ∈ sites, site ∈ all) :
    ∀ turn ∈
        turnsOf viewer settings store
          (sites.map Site.component),
      ∃ site ∈ all,
        turn.component = site.component ∧
          site.IsIn viewer turn.before.tree := by
  induction sites generalizing store with
  | nil => exact List.forall_mem_nil _
  | cons site sites ih =>
      have hSite := hSites site List.mem_cons_self
      have hIn := hSited.inside site hSite
      intro turn hTurn
      rw [List.map_cons, turnsOf_cons] at hTurn
      rcases List.mem_cons.mp hTurn with hFirst | hLater
      · rw [hFirst]
        exact ⟨site, hSite, rfl, hIn⟩
      · split at hLater
        · exact ih
            (hSited.grows (process_writtenAt hIn).grows)
            (fun other hOther =>
              hSites other
                (List.mem_cons_of_mem site hOther))
            turn hLater
        · exact absurd hLater List.not_mem_nil

/- Every move of a run is work on one of its sites. -/
theorem runMoves_isWork
    {components : List Component}
    (hScan :
      scan store.tree viewer settings
          settings.componentsDirectory =
        .ok components)
    (hComponents : sites.map Site.component = components)
    (hSited : AreSited viewer sites store.tree) :
    ∀ move ∈ runMoves viewer settings store,
      ∃ site ∈ sites, move.IsWorkOn site viewer := by
  intro move hMove
  unfold runMoves at hMove
  rw [runTurns_eq hScan, ← hComponents] at hMove
  rcases List.mem_flatMap.mp hMove with
    ⟨turn, hTurn, hHere⟩
  rcases turnsOf_isIn hSited (fun _ hSite => hSite) turn
      hTurn with
    ⟨site, hSite, hComponent, hIn⟩
  unfold Turn.moves at hHere
  rw [hComponent] at hHere
  exact ⟨site, hSite,
    Stage.moves_isWorkOn hIn
      (Stage.checking_fits site viewer _) move hHere⟩

------------------------------------------------------------
-- Passages
------------------------------------------------------------

/- A passage can be broken off anywhere. -/
theorem IsPassage.split
    {final : Store}
    {first second : List Move}
    (hPassage :
      IsPassage viewer settings store (first ++ second)
        final) :
    ∃ middle,
      IsPassage viewer settings store first middle ∧
        IsPassage viewer settings middle second final := by
  induction first generalizing store with
  | nil => exact ⟨store, .nil store, hPassage⟩
  | cons move first ih =>
      cases hPassage with
      | cons hStep hRest =>
          rcases ih hRest with ⟨middle, hFirst, hSecond⟩
          exact ⟨middle, .cons hStep hFirst, hSecond⟩

/- A passage starts where its first move does. -/
theorem IsPassage.store_eq
    {final : Store}
    {move : Move}
    {moves : List Move}
    (hPassage :
      IsPassage viewer settings store (move :: moves)
        final) :
    store = move.before := by
  cases hPassage
  rfl

/- What every move of a passage keeps stays true. -/
theorem IsPassage.keeps
    {final : Store}
    {moves : List Move}
    (hPassage :
      IsPassage viewer settings store moves final)
    (good : Store → Prop)
    (hKeeps :
      ∀ move ∈ moves, good move.before → good move.after)
    (hGood : good store) :
    ∀ move ∈ moves, good move.after := by
  induction hPassage with
  | nil store => exact List.forall_mem_nil _
  | cons hStep hRest ih =>
      have hAfter := hKeeps _ List.mem_cons_self hGood
      refine List.forall_mem_cons.mpr ⟨hAfter, ?_⟩
      exact ih
        (fun move hMove =>
          hKeeps move (List.mem_cons_of_mem _ hMove))
        hAfter

end Aggregation
