import Aggregation.Duration
import Aggregation.Failure
import Aggregation.Run.Report
import Aggregation.Settings

/-
  The progress of a run as it is told to the user.

  A run is a list of events, and every event has one notice
  that words it.

  Key definitions include:
    * `Event`
    * `Notice`
    * `Event.notice`
-/

------------------------------------------------------------
-- Events
------------------------------------------------------------

namespace Aggregation

/- Something that happens during a run. -/
inductive Event where
  | started
  | nothingFound
  | markerCreated (path : Path)
  | processing (directory : Path) (rootFile : Option String)
  | composedWritten (path : Path)
  | indexWritten (path : Path)
  | wrapperWritten (path : Path)
  | gaveUp (directory : Path) (error : FileError)
  | summed (report : Report)
  | completed
  | aborted (failure : Failure)

------------------------------------------------------------
-- Notices
------------------------------------------------------------

/- A message to the user with its manner. -/
inductive Notice where
  | info (text : String)
  | success (text : String)
  | warning (text : String)
  | error (text : String)
  | banner (body title : String)
  | summary
      (entries : List (String × String))
      (title : String)
  deriving DecidableEq, Repr

/- Text of the banner that opens a run. -/
def bannerText (settings : Settings) : String :=
  "Starting component generation process...\n" ++
    "Components : " ++ settings.componentsDirectory.text ++
    "\nElements   : " ++ settings.elementsName.text ++ "/*" ++
    settings.sourceExtension.text

/- Entries of the summary of a run. -/
def summaryEntries (report : Report) :
    List (String × String) :=
  [("Components", toString report.components.length),
    ("Root-composed", toString (report.count .composed)),
    ("Barrel", toString (report.count .barrel)),
    ("Files written", toString report.filesWritten.length),
    ("Failures", toString report.failures.length),
    ("Duration", durationText report.duration)]

/- Wording of the start of work on a component. -/
def processingText
    (directory : Path) :
    (rootFile : Option String) → String
  | some file =>
      "Processing " ++ directory.text ++
        " with root file: " ++ file
  | none =>
      "Processing " ++ directory.text ++ " with no root file"

/- The notice of an event. -/
def Event.notice (settings : Settings) : Event → Notice
  | .started =>
      .banner (bannerText settings) "elementsgen"
  | .nothingFound =>
      .warning "No valid components found."
  | .markerCreated path =>
      .info ("Ensured folder file exists: " ++ path.text)
  | .processing directory rootFile =>
      .info (processingText directory rootFile)
  | .composedWritten path =>
      .info ("Generated component file with root: " ++
        path.text)
  | .indexWritten path =>
      .info ("Generated export file: " ++ path.text)
  | .wrapperWritten path =>
      .info ("Generated folder export file: " ++ path.text)
  | .gaveUp directory error =>
      .error ("Failed to generate " ++ directory.text ++
        ": " ++ error.message)
  | .summed report =>
      .summary (summaryEntries report) "Component Generation"
  | .completed =>
      .success "Component generation completed."
  | .aborted failure =>
      .error ("Error: " ++ failure.message)

end Aggregation
