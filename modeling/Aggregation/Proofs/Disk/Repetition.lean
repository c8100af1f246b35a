import Aggregation.Proofs.Disk.Slot

/-
  Writing the same thing again.

  A request to write that is repeated meets the entry that
  it left, so it has the same outcome and changes nothing.

  Key definitions include:
    * `Slot.mayRepeat`
    * `FileTree.SameNodes`
    * `Store.WrittenAt`

  Key theorems include:
    * `Slot.write_write`
    * `Slot.save_writtenAt`
    * `Slot.save_again`
-/

------------------------------------------------------------
-- Entries Written Again
------------------------------------------------------------

namespace Aggregation

namespace Disk

namespace Slot

variable {slot : Slot}
variable {viewer : Viewer}
variable {skipUnchanged : Bool}
variable {bytes : ByteArray}
variable {entry : Option Node}

theorem beq_bytes_iff (left right : ByteArray) :
    (left == right) = true ↔ left = right := by
  have hData :
      (left.data == right.data) = true ↔
        left.data = right.data :=
    beq_iff_eq
  rw [ByteArray.ext_iff]
  exact hData

/- A refused request leaves the entry as it is. -/
theorem write_eq_error
    {fault : Fault}
    (hWrite :
      (slot.write viewer skipUnchanged bytes entry).2 =
        .error fault) :
    (slot.write viewer skipUnchanged bytes entry).1 =
      entry := by
  unfold write at hWrite ⊢
  generalize
    (if skipUnchanged = true then
      slot.holds viewer bytes entry
    else .ok false) = unchanged at hWrite ⊢
  cases unchanged with
  | error other => rfl
  | ok same =>
      cases same with
      | true => rfl
      | false =>
          cases hOver : slot.overwrite viewer bytes entry with
          | error other => rfl
          | ok node => simp [hOver] at hWrite

/-
  What a viewer needs on a file, for a request that finds
  its bytes there already.
-/
def mayRepeat
    (viewer : Viewer)
    (skipUnchanged : Bool)
    (permissions : Permissions) :
    Bool :=
  if skipUnchanged then
    viewer.may permissions.read
  else
    viewer.may permissions.write

/- A request to write what is there is met. -/
theorem write_same
    {permissions : Permissions}
    (hReach : slot.reach viewer = .ok ())
    (hMay :
      mayRepeat viewer skipUnchanged permissions = true) :
    slot.write viewer skipUnchanged bytes
        (some (.file bytes permissions)) =
      (some (.file bytes permissions),
        .ok !skipUnchanged) := by
  unfold mayRepeat at hMay
  cases skipUnchanged with
  | true =>
      have hSame : (bytes == bytes) = true :=
        (beq_bytes_iff bytes bytes).mpr rfl
      simp only [if_true] at hMay
      simp [write, holds, hReach, hMay, hSame]
  | false =>
      simp only [Bool.false_eq_true, if_false] at hMay
      simp [write, overwrite, hReach, hMay]

/- Who may do anything may repeat it. -/
theorem may_true (viewer : Viewer) :
    viewer.may true = true := by
  simp [Viewer.may]

/- An overwritten entry is a file of the given bytes. -/
theorem overwrite_eq_ok
    {node : Node}
    (hOver : slot.overwrite viewer bytes entry = .ok node) :
    slot.reach viewer = .ok () ∧
      ∃ permissions,
        node = .file bytes permissions ∧
          viewer.may permissions.write = true ∧
          (entry = none ∧ permissions = .all ∨
            ∃ old, entry = some (.file old permissions)) := by
  unfold overwrite at hOver
  cases hReach : slot.reach viewer with
  | error fault => simp [hReach] at hOver
  | ok reached =>
      refine ⟨rfl, ?_⟩
      simp only [hReach] at hOver
      cases entry with
      | none =>
          simp only at hOver
          split at hOver
          · injection hOver with hNode
            exact ⟨.all, hNode.symm, may_true viewer,
              .inl ⟨rfl, rfl⟩⟩
          · contradiction
      | some there =>
          cases there with
          | directory permissions => simp at hOver
          | link target => simp at hOver
          | file old permissions =>
              simp only at hOver
              split at hOver
              · rename_i hMay
                injection hOver with hNode
                exact ⟨permissions, hNode.symm, hMay,
                  .inr ⟨old, rfl⟩⟩
              · contradiction

/-
  Bytes that are already there are the whole content of a
  file that can be read.
-/
theorem holds_eq_ok
    {same : Bool}
    (hReach : slot.reach viewer = .ok ())
    (hHolds : slot.holds viewer bytes entry = .ok same) :
    (same = true →
        ∃ permissions,
          entry = some (.file bytes permissions)) ∧
      ∀ old permissions,
        entry = some (.file old permissions) →
          viewer.may permissions.read = true := by
  unfold holds at hHolds
  simp only [hReach] at hHolds
  cases entry with
  | none =>
      injection hHolds with hSame
      subst hSame
      simp
  | some there =>
      cases there with
      | directory permissions =>
          injection hHolds with hSame
          subst hSame
          simp
      | link target =>
          injection hHolds with hSame
          subst hSame
          simp
      | file old permissions =>
          simp only at hHolds
          split at hHolds
          · rename_i hMay
            injection hHolds with hSame
            refine ⟨?_, ?_⟩
            · intro hTrue
              rw [hTrue, beq_bytes_iff] at hSame
              exact ⟨permissions, by rw [hSame]⟩
            · intro other others hEntry
              injection hEntry with hEntry
              injection hEntry with _ hPermissions
              rw [← hPermissions]
              exact hMay
          · contradiction

/- Bytes are nowhere that cannot be reached. -/
theorem holds_eq_true
    (hHolds : slot.holds viewer bytes entry = .ok true) :
    slot.reach viewer = .ok () := by
  unfold holds at hHolds
  cases hReach : slot.reach viewer with
  | error fault =>
      simp only [hReach] at hHolds
      split at hHolds
      · injection hHolds with hFalse
        contradiction
      · contradiction
  | ok reached => rfl

/- A request that is met leaves a file of its bytes. -/
theorem write_eq_ok
    {wrote : Bool}
    (hWrite :
      (slot.write viewer skipUnchanged bytes entry).2 =
        .ok wrote) :
    slot.reach viewer = .ok () ∧
      ∃ permissions,
        (slot.write viewer skipUnchanged bytes entry).1 =
            some (.file bytes permissions) ∧
          mayRepeat viewer skipUnchanged permissions =
            true := by
  unfold write at hWrite ⊢
  generalize hAsked :
    (if skipUnchanged = true then
      slot.holds viewer bytes entry
    else .ok false) = unchanged at hWrite ⊢
  cases unchanged with
  | error fault => simp at hWrite
  | ok same =>
      cases same with
      | true =>
          split at hAsked
          · rename_i hSkip
            have hReach := holds_eq_true hAsked
            have hFound := holds_eq_ok hReach hAsked
            rcases hFound.1 rfl with ⟨permissions, hEntry⟩
            refine ⟨hReach, permissions, hEntry, ?_⟩
            unfold mayRepeat
            rw [if_pos hSkip]
            exact hFound.2 bytes permissions hEntry
          · injection hAsked with hFalse
            contradiction
      | false =>
          simp only at hWrite ⊢
          cases hOver : slot.overwrite viewer bytes entry with
          | error fault => simp [hOver] at hWrite
          | ok node =>
              rcases overwrite_eq_ok hOver with
                ⟨hReach, permissions, hNode, hMay, hOld⟩
              refine ⟨hReach, permissions, by rw [hNode], ?_⟩
              unfold mayRepeat
              split
              · rename_i hSkip
                rw [if_pos hSkip] at hAsked
                rcases hOld with ⟨_, hAll⟩ | ⟨old, hEntry⟩
                · rw [hAll]
                  exact may_true viewer
                · exact (holds_eq_ok hReach hAsked).2 old
                    permissions hEntry
              · exact hMay

/- A request asked again is met or refused as before. -/
theorem write_write :
    slot.write viewer skipUnchanged bytes
        (slot.write viewer skipUnchanged bytes entry).1 =
      ((slot.write viewer skipUnchanged bytes entry).1,
        (slot.write viewer skipUnchanged bytes entry).2.map
          fun _ => !skipUnchanged) := by
  cases hWrite :
      (slot.write viewer skipUnchanged bytes entry).2 with
  | error fault =>
      have hKept := write_eq_error hWrite
      rw [hKept]
      exact Prod.ext hKept hWrite
  | ok wrote =>
      rcases write_eq_ok hWrite with
        ⟨hReach, permissions, hFile, hMay⟩
      rw [hFile]
      exact write_same hReach hMay

/- A request keeps an entry or writes a file there. -/
theorem write_rewritten :
    Rewritten entry
      (slot.write viewer skipUnchanged bytes entry).1 := by
  unfold write
  generalize
    (if skipUnchanged = true then
      slot.holds viewer bytes entry
    else .ok false) = unchanged
  cases unchanged with
  | error fault => exact .kept entry
  | ok same =>
      cases same with
      | true => exact .kept entry
      | false =>
          cases hOver : slot.overwrite viewer bytes entry with
          | error fault => exact .kept entry
          | ok node =>
              rcases overwrite_eq_ok hOver with
                ⟨_, permissions, hNode, _, hOld⟩
              simp only [hNode]
              rcases hOld with ⟨hNone, _⟩ | ⟨old, hFile⟩
              · rw [hNone]
                exact .created bytes permissions
              · rw [hFile]
                exact .replaced old bytes permissions

/- An entry changes only if it can be reached. -/
theorem write_ne
    (hChanged :
      (slot.write viewer skipUnchanged bytes entry).1 ≠
        entry) :
    slot.reach viewer = .ok () := by
  cases hWrite :
      (slot.write viewer skipUnchanged bytes entry).2 with
  | error fault => exact absurd (write_eq_error hWrite) hChanged
  | ok wrote => exact (write_eq_ok hWrite).1

end Slot

------------------------------------------------------------
-- Stores Written at Some Places
------------------------------------------------------------

/- Two trees have the same nodes at the same locations. -/
def FileTree.SameNodes (left right : FileTree) : Prop :=
  ∀ location, right.node? location = left.node? location

/-
  A store that has grown from an earlier one, at some places
  only.
-/
structure Store.WrittenAt
    (before after : Store)
    (places : Location → Prop) :
    Prop where
  grows : FileTree.Grows before.tree after.tree
  changed :
    ∀ location,
      after.tree.node? location ≠
          before.tree.node? location →
        places location

namespace Store

variable {before middle after : Store}
variable {places others : Location → Prop}

theorem WrittenAt.refl
    (store : Store)
    (places : Location → Prop) :
    store.WrittenAt store places where
  grows := .refl store.tree
  changed := fun _ hChanged => absurd rfl hChanged

theorem WrittenAt.trans
    (hFirst : before.WrittenAt middle places)
    (hSecond : middle.WrittenAt after places) :
    before.WrittenAt after places where
  grows := hFirst.grows.trans hSecond.grows
  changed := by
    intro location hChanged
    by_cases hMiddle :
        middle.tree.node? location =
          before.tree.node? location
    · rw [← hMiddle] at hChanged
      exact hSecond.changed location hChanged
    · exact hFirst.changed location hMiddle

theorem WrittenAt.mono
    (hWritten : before.WrittenAt after places)
    (hMore : ∀ location, places location → others location) :
    before.WrittenAt after others where
  grows := hWritten.grows
  changed := fun location hChanged =>
    hMore location (hWritten.changed location hChanged)

/- What is no place of a write stays as it is. -/
theorem WrittenAt.node?_eq
    (hWritten : before.WrittenAt after places)
    {location : Location}
    (hOther : ¬places location) :
    after.tree.node? location =
      before.tree.node? location := by
  refine Classical.byContradiction fun hChanged => ?_
  exact hOther (hWritten.changed location hChanged)

end Store

------------------------------------------------------------
-- Requests to Save
------------------------------------------------------------

namespace Slot

variable {slot : Slot}
variable {store again : Store}
variable {viewer : Viewer}
variable {skipUnchanged : Bool}
variable {content : String}

/- A place that a request to save can change. -/
def IsPlace
    (slot : Slot)
    (viewer : Viewer)
    (location : Location) :
    Prop :=
  slot.reach viewer = .ok () ∧ location = slot.place

/- Saving a file at a slot changes nothing but its entry. -/
theorem save_writtenAt
    (hFree : store.tree.IsLinkFree)
    (hSlot : slot.IsIn store.tree viewer)
    (skipUnchanged : Bool)
    (content : String) :
    store.WrittenAt
      (store.save viewer skipUnchanged slot.path content).1
      (slot.IsPlace viewer) := by
  have hChanged :=
    (save_path hFree hSlot skipUnchanged content).2
  refine ⟨?_, ?_⟩
  · intro location
    by_cases hPlace : location = slot.place
    · rw [hPlace, hChanged.here]
      exact write_rewritten
    · rw [hChanged.others location hPlace]
      exact .kept _
  · intro location hNe
    have hPlace : location = slot.place := by
      refine Decidable.byContradiction fun hOther => ?_
      exact hNe (hChanged.others location hOther)
    rw [hPlace, hChanged.here] at hNe
    exact ⟨write_ne hNe, hPlace⟩

/- A file that was saved is there. -/
theorem save_eq_ok
    (hFree : store.tree.IsLinkFree)
    (hSlot : slot.IsIn store.tree viewer)
    {wrote : Bool}
    (hSave :
      (store.save viewer skipUnchanged slot.path
          content).2 = .ok wrote) :
    slot.reach viewer = .ok () ∧
      ∃ permissions,
        (store.save viewer skipUnchanged slot.path
            content).1.tree.node? slot.place =
          some (.file content.toUTF8 permissions) := by
  rcases save_path hFree hSlot skipUnchanged content with
    ⟨hAnswer, hChanged⟩
  rw [hAnswer] at hSave
  rcases write_eq_ok hSave with
    ⟨hReach, permissions, hFile, _⟩
  exact ⟨hReach, permissions, hChanged.here.trans hFile⟩

/- A refused request leaves the entry of a slot alone. -/
theorem save_eq_error
    (hFree : store.tree.IsLinkFree)
    (hSlot : slot.IsIn store.tree viewer)
    {fault : Fault}
    (hSave :
      (store.save viewer skipUnchanged slot.path
          content).2 = .error fault) :
    (store.save viewer skipUnchanged slot.path
        content).1.tree.node? slot.place =
      store.tree.node? slot.place := by
  rcases save_path hFree hSlot skipUnchanged content with
    ⟨hAnswer, hChanged⟩
  rw [hAnswer] at hSave
  exact hChanged.here.trans (write_eq_error hSave)

/-
  Saving a file again, where the entry is as the first
  request left it, is met or refused as before and changes
  nothing.
-/
theorem save_again
    (hFree : store.tree.IsLinkFree)
    (hSlot : slot.IsIn store.tree viewer)
    (hFreeAgain : again.tree.IsLinkFree)
    (hSlotAgain : slot.IsIn again.tree viewer)
    (hEntry :
      again.tree.node? slot.place =
        (store.save viewer skipUnchanged slot.path
            content).1.tree.node? slot.place) :
    let first :=
      store.save viewer skipUnchanged slot.path content
    let second :=
      again.save viewer skipUnchanged slot.path content
    second.2 = first.2.map (fun _ => !skipUnchanged) ∧
      again.tree.SameNodes second.1.tree ∧
      (skipUnchanged = true →
        second.1.written = again.written) := by
  rcases save_path hFree hSlot skipUnchanged content with
    ⟨hFirst, hFirstChanged⟩
  rcases save_path hFreeAgain hSlotAgain skipUnchanged
      content with
    ⟨hSecond, hSecondChanged⟩
  rw [hFirstChanged.here] at hEntry
  rw [hEntry, write_write] at hSecond hSecondChanged
  refine ⟨?_, ?_, ?_⟩
  · rw [hFirst]
    exact hSecond
  · intro location
    by_cases hPlace : location = slot.place
    · rw [hPlace, hSecondChanged.here, hEntry]
    · exact hSecondChanged.others location hPlace
  · intro hSkip
    have hSilent :
        hasWritten
            ((slot.write viewer skipUnchanged
              content.toUTF8
                (store.tree.node? slot.place)).2.map
                  fun _ => !skipUnchanged) = false := by
      rw [hSkip]
      cases (slot.write viewer true content.toUTF8
          (store.tree.node? slot.place)).2 with
      | error fault => rfl
      | ok wrote => rfl
    rw [hSecondChanged.written, hSilent]
    simp

end Slot

end Disk

end Aggregation
