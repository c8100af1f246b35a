import Aggregation.Disk.Viewer

/-
  Accounts that requests are made for.

  Permission bits do not bind the superuser.  Only the
  superuser can act for another account.

  Key definitions include:
    * `Account`
    * `Account.actAs`
    * `Viewer.ofAccount`
-/

------------------------------------------------------------
-- Accounts
------------------------------------------------------------

namespace Aggregation

namespace Disk

/- Whose requests the file system serves. -/
inductive Account where
  | superuser
  | owner
  | stranger
  deriving DecidableEq, Repr

/- Act for another account. -/
def Account.actAs :
    Account → Account → Except Fault Account
  | .superuser, other => .ok other
  | account, other =>
      if account = other then .ok account
      else .error .notPermitted

/- The view that an account has from a working directory. -/
def Viewer.ofAccount
    (account : Account)
    (home : Location) :
    Viewer :=
  ⟨home, account ≠ .superuser, .stored⟩

end Disk

end Aggregation
