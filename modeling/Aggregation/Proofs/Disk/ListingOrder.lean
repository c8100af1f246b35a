import Aggregation.Proofs.Disk.Resolution

/-
  What the order of listings does not show in.

  Where a path leads is the same in any order of listings,
  and so is what a test says of it.  Only listings differ,
  and they name the same entries.

  Key definitions include:
    * `Viewer.relisted`

  Key theorems include:
    * `FileTree.resolve_relisted`
    * `FileTree.test_relisted`
    * `FileTree.list_relisted`
-/

------------------------------------------------------------
-- Viewers
------------------------------------------------------------

namespace Aggregation

namespace Disk

/- The same viewer, to whom directories list otherwise. -/
def Viewer.relisted
    (viewer : Viewer)
    (order : ListingOrder) :
    Viewer :=
  { viewer with order := order }

namespace FileTree

variable {tree : FileTree}
variable {viewer : Viewer}
variable {order : ListingOrder}
variable {path : Path}

------------------------------------------------------------
-- Paths
------------------------------------------------------------

theorem followWith_relisted
    (atLink :
      Location → List String →
        Except Fault Destination)
    (location : Location)
    (names : List String) :
    tree.followWith (viewer.relisted order) atLink location
        names =
      tree.followWith viewer atLink location names := by
  induction names generalizing location with
  | nil => rfl
  | cons name names ih =>
      have hStep :
          tree.step (viewer.relisted order) location name =
            tree.step viewer location name :=
        rfl
      rw [followWith_cons, followWith_cons, hStep]
      simp only [ih]

theorem follow_relisted (links : Nat) :
    tree.follow (viewer.relisted order) links =
      tree.follow viewer links := by
  induction links with
  | zero =>
      funext location names
      exact followWith_relisted _ location names
  | succ links ih =>
      funext location names
      unfold follow
      rw [ih]
      exact followWith_relisted _ location names

/- A path leads where it leads in any order. -/
theorem resolve_relisted :
    tree.resolve (viewer.relisted order) path =
      tree.resolve viewer path := by
  unfold resolve
  rw [follow_relisted]
  rfl

theorem status_relisted :
    tree.status (viewer.relisted order) path =
      tree.status viewer path := by
  unfold status
  rw [resolve_relisted]

------------------------------------------------------------
-- Questions
------------------------------------------------------------

/- A test has the same answer in any order. -/
theorem test_relisted (accepts : Node → Bool) :
    tree.test (viewer.relisted order) path accepts =
      tree.test viewer path accepts := by
  unfold test
  rw [status_relisted]

/-
  In any order a directory lists the same entries, or it is
  refused for the same reason.
-/
theorem list_relisted :
    (∃ fault,
      tree.list (viewer.relisted order) path =
          .error fault ∧
        tree.list viewer path = .error fault) ∨
    ∃ names others,
      tree.list (viewer.relisted order) path = .ok names ∧
        tree.list viewer path = .ok others ∧
          names.Perm others := by
  unfold list
  rw [status_relisted]
  cases tree.status viewer path with
  | error fault => exact .inl ⟨fault, rfl, rfl⟩
  | ok found =>
      rcases found with ⟨location, node⟩
      cases node with
      | file content permissions =>
          exact .inl ⟨.notDirectory, rfl, rfl⟩
      | link target =>
          exact .inl ⟨.notDirectory, rfl, rfl⟩
      | directory permissions =>
          have hMay :
              (viewer.relisted order).may permissions.read =
                viewer.may permissions.read :=
            rfl
          simp only [hMay]
          by_cases hRead :
              viewer.may permissions.read = true
          · simp only [if_pos hRead]
            exact .inr ⟨_, _, rfl, rfl,
              (order.isPerm location _).trans
                (viewer.order.isPerm location _).symm⟩
          · simp only [if_neg hRead]
            exact .inl ⟨.denied, rfl, rfl⟩

end FileTree

end Disk

end Aggregation
