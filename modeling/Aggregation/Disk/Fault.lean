/-
  Reasons why a file system refuses a request.

  Key definitions include:
    * `Fault`
    * `Fault.text`
    * `Fault.number`
    * `Fault.meansAbsent`
-/

------------------------------------------------------------
-- Faults
------------------------------------------------------------

namespace Aggregation

namespace Disk

/- A reason to refuse a request. -/
inductive Fault where
  | missing
  | notDirectory
  | isDirectory
  | exists
  | nameTooLong
  | tooManyLinks
  | denied
  | notPermitted
  | notEmpty
  | insideItself
  | nullCharacter
  deriving DecidableEq, Repr

/- Wording of a fault. -/
def Fault.text : Fault → String
  | .missing => "No such file or directory"
  | .notDirectory => "Not a directory"
  | .isDirectory => "Is a directory"
  | .exists => "File exists"
  | .nameTooLong => "File name too long"
  | .tooManyLinks => "Too many levels of symbolic links"
  | .denied => "Permission denied"
  | .notPermitted => "Operation not permitted"
  | .notEmpty => "Directory not empty"
  | .insideItself => "Invalid argument"
  | .nullCharacter => "embedded null byte"

/-
  Number of a fault.  A null character is refused before the
  file system is asked and has none.
-/
def Fault.number : Fault → Option Nat
  | .missing => some 2
  | .notDirectory => some 20
  | .isDirectory => some 21
  | .exists => some 17
  | .nameTooLong => some 36
  | .tooManyLinks => some 40
  | .denied => some 13
  | .notPermitted => some 1
  | .notEmpty => some 39
  | .insideItself => some 22
  | .nullCharacter => none

/- A fault with its number in front. -/
def Fault.numbered (fault : Fault) : String :=
  match fault.number with
  | some number =>
      "[Errno " ++ toString number ++ "] " ++ fault.text
  | none => fault.text

/-
  Faults that only say that nothing is there.  A test for a
  file or directory answers no on these and fails on others.
-/
def Fault.meansAbsent : Fault → Bool
  | .missing | .notDirectory | .tooManyLinks
  | .nullCharacter => true
  | _ => false

end Disk

end Aggregation
