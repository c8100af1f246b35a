import Aggregation.Console.Terminal
import Aggregation.Disk.Listing
import Aggregation.Disk.Survey
import Aggregation.Run.Library

/-
  The command that aggregates a component library.

  The command takes no arguments.  It reads a listing of the
  working directory from standard input, one entry a line,
  and writes the files that a run over the listed tree
  writes.  It tells its progress on standard output, and its
  exit code is one if the run failed.

  Key definitions include:
    * `Command.perform`
    * `main`
-/

------------------------------------------------------------
-- Command
------------------------------------------------------------

namespace Aggregation

namespace Command

open Console (Terminal)
open Disk (FileTree Store Viewer)

/- The view of the listed working directory. -/
def viewer : Viewer :=
  ⟨[], false, .stored⟩

/- The tree that a listing describes. -/
def listedTree (listing : String) :
    Except Disk.Fault FileTree :=
  FileTree.empty.plantListing viewer listing

/- The files that a store has written, by their paths. -/
def writtenFiles (store : Store) :
    List (String × ByteArray) :=
  match store.tree.survey viewer with
  | .ok survey => survey.writtenFiles viewer store.written
  | .error _ => []

/- The width of the terminal. -/
def terminalWidth (columns : Option String) : Nat :=
  ((columns.bind String.toNat?).filter (0 < ·)).getD 80

/- Write files below the working directory. -/
def writeFiles : List (String × ByteArray) → IO Unit
  | [] => pure ()
  | (path, content) :: rest => do
      IO.FS.writeBinFile path content
      writeFiles rest

/- Exit code of a run, with what is told besides. -/
def finish : Ending → IO UInt32
  | .exited succeeded => pure (if succeeded then 0 else 1)
  | .escaped failure => do
      IO.eprintln failure.message
      pure 1

/- Aggregate the library of a listing. -/
def perform (elapsed : Number.Double) (listing : String) :
    IO UInt32 := do
  match listedTree listing with
  | .error fault =>
      IO.eprintln fault.numbered
      pure 1
  | .ok tree =>
      let settings := Settings.standard
      let (store, events, ending) :=
        runReported viewer settings elapsed ⟨tree, []⟩
      writeFiles (writtenFiles store)
      let width :=
        terminalWidth (← IO.getEnv "COLUMNS")
      let terminal : Terminal := ⟨width, false⟩
      IO.print (terminal.transcript
        (events.map (Event.notice settings)))
      finish ending

end Command

end Aggregation

/- Aggregate the library listed on standard input. -/
def main : IO UInt32 := do
  let started ← IO.monoMsNow
  let listing ← (← IO.getStdin).readToEnd
  let elapsed := (← IO.monoMsNow) - started
  Aggregation.Command.perform
    (.ofRatio false elapsed 1000) listing
