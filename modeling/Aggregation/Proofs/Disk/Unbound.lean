import Aggregation.Proofs.Disk.Sparing

/-
  Requests that permission bits do not refuse.

  A request of a viewer whom the bits bind is refused, or it
  ends as if there were no bits.  No denial is ever taken
  for the absence of what was asked for.

  Key definitions include:
    * `Viewer.unbound`

  Key theorems include:
    * `FileTree.resolve_unbound`
    * `FileTree.test_unbound`
    * `FileTree.list_unbound`
    * `Store.save_unbound`
-/

------------------------------------------------------------
-- Viewers
------------------------------------------------------------

namespace Aggregation

namespace Disk

/- The same viewer, whom no permission bits bind. -/
def Viewer.unbound (viewer : Viewer) : Viewer :=
  { viewer with bound := false }

@[simp] theorem Viewer.may_unbound
    (viewer : Viewer)
    (granted : Bool) :
    viewer.unbound.may granted = true := by
  simp [Viewer.unbound, Viewer.may]

variable {viewer : Viewer}

/- What may not be done is the only thing that is denied. -/
theorem may_of_ne_denied
    {α : Type}
    {granted : Bool}
    {answer : Except Fault α}
    (hSeen :
      (if viewer.may granted then answer
        else .error .denied) ≠ .error .denied) :
    viewer.may granted = true := by
  by_cases hMay : viewer.may granted = true
  · exact hMay
  · rw [if_neg hMay] at hSeen
    exact absurd rfl hSeen

------------------------------------------------------------
-- Paths
------------------------------------------------------------

namespace FileTree

variable {tree : FileTree}
variable {location : Location}
variable {path : Path}

theorem enter_unbound
    (hSeen :
      tree.enter viewer location ≠ .error .denied) :
    tree.enter viewer.unbound location =
      tree.enter viewer location := by
  unfold enter at hSeen ⊢
  cases hNode : tree.node? location with
  | none => rfl
  | some node =>
      cases node with
      | file content permissions => rfl
      | link target => rfl
      | directory permissions =>
          simp only [hNode] at hSeen
          simp only [Viewer.may_unbound,
            may_of_ne_denied hSeen]

theorem step_unbound
    {name : String}
    (hSeen :
      tree.step viewer location name ≠ .error .denied) :
    tree.step viewer.unbound location name =
      tree.step viewer location name := by
  have hEnter :
      tree.enter viewer location ≠ .error .denied := by
    intro hDenied
    apply hSeen
    unfold step
    simp only [hDenied]
  unfold step
  rw [enter_unbound hEnter]

/-
  Names are followed alike, given that the targets of links
  are.
-/
theorem followWith_unbound
    {atLink atLinkUnbound :
      Location → List String →
        Except Fault Destination}
    (hAtLink :
      ∀ start names,
        atLink start names ≠ .error .denied →
          atLinkUnbound start names = atLink start names)
    {names : List String}
    (hSeen :
      tree.followWith viewer atLink location names ≠
        .error .denied) :
    tree.followWith viewer.unbound atLinkUnbound location
        names =
      tree.followWith viewer atLink location names := by
  induction names generalizing location with
  | nil => rfl
  | cons name names ih =>
      rw [followWith_cons] at hSeen
      have hStep :
          tree.step viewer location name ≠
            .error .denied := by
        intro hDenied
        rw [hDenied] at hSeen
        exact hSeen rfl
      rw [followWith_cons, followWith_cons,
        step_unbound hStep]
      cases hTaken : tree.step viewer location name with
      | error fault => rfl
      | ok taken =>
          rw [hTaken] at hSeen
          cases taken with
          | onward next => exact ih hSeen
          | linked target => exact hAtLink _ _ hSeen
          | nothing => rfl

theorem follow_unbound
    {links : Nat}
    {names : List String}
    (hSeen :
      tree.follow viewer links location names ≠
        .error .denied) :
    tree.follow viewer.unbound links location names =
      tree.follow viewer links location names := by
  induction links generalizing location names with
  | zero => exact followWith_unbound (fun _ _ _ => rfl) hSeen
  | succ links ih =>
      exact followWith_unbound (fun _ _ => ih) hSeen

/- A path that is not denied leads where it leads anyway. -/
theorem resolve_unbound
    (hSeen :
      tree.resolve viewer path ≠ .error .denied) :
    tree.resolve viewer.unbound path =
      tree.resolve viewer path := by
  unfold resolve at hSeen ⊢
  cases hAdmits : admits path with
  | error fault => rfl
  | ok admitted =>
      simp only [hAdmits] at hSeen ⊢
      exact follow_unbound hSeen

theorem refuseSlash_unbound
    {answer : Except Fault Destination}
    (hSeen :
      tree.refuseSlash viewer answer ≠ .error .denied) :
    tree.refuseSlash viewer.unbound answer =
      tree.refuseSlash viewer answer := by
  unfold refuseSlash at hSeen ⊢
  cases answer with
  | error fault => rfl
  | ok destination =>
      cases destination with
      | vacant parent name => rfl
      | present reached node =>
          have hEnter :
              tree.enter viewer reached ≠
                .error .denied := by
            intro hDenied
            simp only [hDenied] at hSeen
            exact hSeen rfl
          simp only [enter_unbound hEnter]

theorem followToCreate_unbound
    {links : Nat}
    {names : List String}
    (hSeen :
      tree.followToCreate viewer links location names ≠
        .error .denied) :
    tree.followToCreate viewer.unbound links location names =
      tree.followToCreate viewer links location names := by
  induction links generalizing location names with
  | zero => exact followWith_unbound (fun _ _ _ => rfl) hSeen
  | succ links ih =>
      refine followWith_unbound ?_ hSeen
      intro start others hTarget
      cases hSlash : beforeSlash others with
      | none =>
          simp only [hSlash] at hTarget
          exact ih hTarget
      | some above =>
          simp only [hSlash] at hTarget
          have hAbove :
              tree.follow viewer links start above ≠
                .error .denied := by
            intro hDenied
            rw [hDenied] at hTarget
            exact hTarget rfl
          simp only [follow_unbound hAbove]
          exact refuseSlash_unbound hTarget

theorem resolveToCreate_unbound
    (hSeen :
      tree.resolveToCreate viewer path ≠ .error .denied) :
    tree.resolveToCreate viewer.unbound path =
      tree.resolveToCreate viewer path := by
  unfold resolveToCreate at hSeen ⊢
  cases hAdmits : admits path with
  | error fault => rfl
  | ok admitted =>
      simp only [hAdmits] at hSeen ⊢
      exact followToCreate_unbound hSeen

------------------------------------------------------------
-- Questions
------------------------------------------------------------

theorem status_unbound
    (hSeen : tree.status viewer path ≠ .error .denied) :
    tree.status viewer.unbound path =
      tree.status viewer path := by
  have hPath :
      tree.resolve viewer path ≠ .error .denied := by
    intro hDenied
    apply hSeen
    unfold status
    rw [hDenied]
  unfold status
  rw [resolve_unbound hPath]

/- A denial is no answer to a test. -/
theorem test_unbound
    {accepts : Node → Bool}
    (hSeen :
      tree.test viewer path accepts ≠ .error .denied) :
    tree.test viewer.unbound path accepts =
      tree.test viewer path accepts := by
  have hStatus :
      tree.status viewer path ≠ .error .denied := by
    intro hDenied
    apply hSeen
    unfold test
    rw [hDenied]
    rfl
  unfold test
  rw [status_unbound hStatus]

/- A listing that is not denied is complete. -/
theorem list_unbound
    (hSeen : tree.list viewer path ≠ .error .denied) :
    tree.list viewer.unbound path =
      tree.list viewer path := by
  have hStatus :
      tree.status viewer path ≠ .error .denied := by
    intro hDenied
    apply hSeen
    unfold list
    rw [hDenied]
  unfold list at hSeen ⊢
  rw [status_unbound hStatus]
  cases hHere : tree.status viewer path with
  | error fault => rfl
  | ok found =>
      rcases found with ⟨location, node⟩
      cases node with
      | file content permissions => rfl
      | link target => rfl
      | directory permissions =>
          simp only [hHere] at hSeen
          simp only [Viewer.may_unbound,
            may_of_ne_denied hSeen]
          rfl

theorem read_unbound
    (hSeen : tree.read viewer path ≠ .error .denied) :
    tree.read viewer.unbound path =
      tree.read viewer path := by
  have hStatus :
      tree.status viewer path ≠ .error .denied := by
    intro hDenied
    apply hSeen
    unfold read
    rw [hDenied]
  unfold read at hSeen ⊢
  rw [status_unbound hStatus]
  cases hHere : tree.status viewer path with
  | error fault => rfl
  | ok found =>
      rcases found with ⟨location, node⟩
      cases node with
      | directory permissions => rfl
      | link target => rfl
      | file content permissions =>
          simp only [hHere] at hSeen
          simp only [Viewer.may_unbound,
            may_of_ne_denied hSeen]

end FileTree

------------------------------------------------------------
-- Writing
------------------------------------------------------------

namespace Store

variable {store : Store}
variable {path : Path}
variable {content : ByteArray}

theorem holds_unbound
    (hSeen :
      store.holds viewer path content ≠ .error .denied) :
    store.holds viewer.unbound path content =
      store.holds viewer path content := by
  have hTest :
      store.tree.isFile? viewer path ≠ .error .denied := by
    intro hDenied
    apply hSeen
    unfold holds
    rw [hDenied]
  have hSame :
      store.tree.isFile? viewer.unbound path =
        store.tree.isFile? viewer path :=
    FileTree.test_unbound hTest
  unfold holds at hSeen ⊢
  rw [hSame]
  cases hFile : store.tree.isFile? viewer path with
  | error fault => rfl
  | ok isFile =>
      cases isFile with
      | false => rfl
      | true =>
          simp only [hFile] at hSeen ⊢
          have hRead :
              store.tree.read viewer path ≠
                .error .denied := by
            intro hDenied
            rw [hDenied] at hSeen
            exact hSeen rfl
          rw [FileTree.read_unbound hRead]

theorem overwrite_unbound
    (hSeen :
      store.overwrite viewer path content ≠
        .error .denied) :
    store.overwrite viewer.unbound path content =
      store.overwrite viewer path content := by
  have hPath :
      store.tree.resolveToCreate viewer path ≠
        .error .denied := by
    intro hDenied
    apply hSeen
    unfold overwrite
    rw [hDenied]
  unfold overwrite at hSeen ⊢
  rw [FileTree.resolveToCreate_unbound hPath]
  cases hThere : store.tree.resolveToCreate viewer path with
  | error fault => rfl
  | ok destination =>
      cases destination with
      | present location node =>
          cases node with
          | directory permissions => rfl
          | link target => rfl
          | file old permissions =>
              simp only [hThere] at hSeen
              simp only [Viewer.may_unbound,
                may_of_ne_denied hSeen]
      | vacant parent name =>
          cases hParent : store.tree.node? parent with
          | none => simp only [hParent]
          | some node =>
              cases node with
              | file old permissions => simp only [hParent]
              | link target => simp only [hParent]
              | directory permissions =>
                  simp only [hThere, hParent] at hSeen
                  simp only [hParent, Viewer.may_unbound,
                    may_of_ne_denied hSeen]

/-
  A file below a directory that is there is written as if
  there were no bits, unless that is denied.
-/
theorem replace_unbound
    (hDirectory :
      store.tree.LeadsToDirectory viewer path.parent)
    (hNamed : path.parent.name ≠ ".")
    (hSeen :
      (store.replace viewer path content).2 ≠
        .error .denied) :
    store.replace viewer.unbound path content =
      store.replace viewer path content := by
  rcases hDirectory with ⟨location, permissions, hStatus⟩
  have hParent := FileTree.status_eq_ok_iff.mp hStatus
  have hParentUnbound :
      store.tree.resolve viewer.unbound path.parent =
        .ok (.present location
          (.directory permissions)) := by
    rw [FileTree.resolve_unbound (by simp [hParent])]
    exact hParent
  have hThere :
      FileTree.ensureDirectory viewer path.anchor
          store.tree path.parent.names =
        (store.tree, .ok ()) :=
    Slot.ensureDirectory_eq_ok hParent hNamed
  have hThereUnbound :
      FileTree.ensureDirectory viewer.unbound path.anchor
          store.tree path.parent.names =
        (store.tree, .ok ()) :=
    Slot.ensureDirectory_eq_ok hParentUnbound hNamed
  unfold replace at hSeen ⊢
  simp only [hThere] at hSeen
  simp only [hThere, hThereUnbound]
  have hOverwrite :
      store.overwrite viewer path content ≠
        .error .denied := by
    intro hDenied
    rw [hDenied] at hSeen
    exact hSeen rfl
  rw [overwrite_unbound hOverwrite]

theorem save_unbound
    {skipUnchanged : Bool}
    {text : String}
    (hDirectory :
      store.tree.LeadsToDirectory viewer path.parent)
    (hNamed : path.parent.name ≠ ".")
    (hSeen :
      (store.save viewer skipUnchanged path text).2 ≠
        .error .denied) :
    store.save viewer.unbound skipUnchanged path text =
      store.save viewer skipUnchanged path text := by
  rw [save_eq] at hSeen
  rw [save_eq, save_eq]
  cases skipUnchanged with
  | false => exact replace_unbound hDirectory hNamed hSeen
  | true =>
      simp only [if_true] at hSeen ⊢
      have hHolds :
          store.holds viewer path text.toUTF8 ≠
            .error .denied := by
        intro hDenied
        rw [hDenied] at hSeen
        exact hSeen rfl
      rw [holds_unbound hHolds]
      cases hAnswer :
          store.holds viewer path text.toUTF8 with
      | error fault => rfl
      | ok unchanged =>
          rw [hAnswer] at hSeen
          cases unchanged with
          | true => rfl
          | false =>
              exact replace_unbound hDirectory hNamed hSeen

end Store

end Disk

end Aggregation
