import Aggregation.Disk.Writing
import Aggregation.Template.Basic

/-
  What can go wrong while a library is aggregated.

  Key definitions include:
    * `Cause`
    * `FileError`
    * `Failure`
    * `Failure.message`
-/

------------------------------------------------------------
-- File Errors
------------------------------------------------------------

namespace Aggregation

open Disk (Fault)

/- Why a path could not be scanned or written. -/
inductive Cause where
  | noComponentsDirectory
  | componentsNotDirectory
  | listing (fault : Fault)
  | status (fault : Fault)
  | writing (fault : Fault)
  | noted (text : String)
  deriving DecidableEq, Repr

/- Wording of a cause. -/
def Cause.text : Cause → String
  | .noComponentsDirectory =>
      "Components directory does not exist"
  | .componentsNotDirectory =>
      "Components path is not a directory"
  | .listing fault =>
      "Cannot list directory (" ++ fault.text ++ ")"
  | .status fault =>
      "Cannot stat path (" ++ fault.text ++ ")"
  | .writing fault =>
      "Failed to write file (" ++ fault.text ++ ")"
  | .noted text => text

/- A path with the reason why it was given up. -/
structure FileError where
  path : Path
  cause : Cause
  deriving DecidableEq, Repr

/- Wording of a file error. -/
def FileError.message (error : FileError) : String :=
  error.cause.text ++ ": " ++ error.path.text

------------------------------------------------------------
-- Failures
------------------------------------------------------------

/- A reason why a request did not succeed. -/
inductive Failure where
  | file (error : FileError)
  | system (path : Path) (fault : Fault)
  | rendering (error : RenderError)
  | components (failures : List (Path × FileError))
  deriving DecidableEq, Repr

/- Wording of a fault that a path met. -/
def systemMessage (path : Path) (fault : Fault) : String :=
  match fault.number with
  | some _ =>
      fault.numbered ++ ": " ++ Text.quoted path.text
  | none => fault.text

/- Wording of the failures of components. -/
def componentsMessage (failures : List (Path × FileError)) :
    String :=
  toString failures.length ++ " component(s) failed: " ++
    Text.joinWith "; "
      (failures.map fun (directory, error) =>
        directory.text ++ ": " ++ error.message)

/- Wording of a failure. -/
def Failure.message : Failure → String
  | .file error => error.message
  | .system path fault => systemMessage path fault
  | .rendering error => error.message
  | .components failures => componentsMessage failures

/-
  Failure of a write.  A null character in the path is not
  the file system's refusal and stays as it is.
-/
def Failure.ofWriting (path : Path) (fault : Fault) :
    Failure :=
  if fault = .nullCharacter then
    .system path fault
  else
    .file ⟨path, .writing fault⟩

end Aggregation
