import Aggregation.Text.Uppercase

/-
  Upper-casing does not go on.

  The upper case of a character starts with a character that
  is its own upper case.  That is a fact about the whole
  table.  It is checked on two sets of code points, each of
  them a number with one bit for each of its members.

  Key definitions include:
    * `maskOf`
    * `CaseRun.codes`
    * `casedCodes`
    * `capitalCodes`

  Key theorems include:
    * `upperCodes_of_not_mem`
    * `exists_upperCodes`
    * `exists_upper`
-/

------------------------------------------------------------
-- Sets of Code Points
------------------------------------------------------------

namespace Aggregation

namespace Text

/- The number that has the bits of some code points. -/
def maskOf : List Nat → Nat
  | [] => 0
  | code :: rest => 1 <<< code ||| maskOf rest

/- The bits of a set are those of its members. -/
theorem testBit_maskOf
    {codes : List Nat}
    {code : Nat}
    (hCode : code ∈ codes) :
    (maskOf codes).testBit code = true := by
  induction codes with
  | nil => exact absurd hCode List.not_mem_nil
  | cons first rest ih =>
      unfold maskOf
      rw [Nat.testBit_or, Bool.or_eq_true]
      rcases List.mem_cons.mp hCode with hFirst | hRest
      · left
        rw [hFirst, Nat.testBit_shiftLeft, Nat.sub_self]
        simp
      · exact .inr (ih hRest)

/- Sets without a common bit have no common member. -/
theorem not_mem_of_maskOf
    {left right : List Nat}
    (hApart : maskOf left &&& maskOf right = 0)
    {code : Nat}
    (hLeft : code ∈ left) :
    code ∉ right := by
  intro hRight
  have hBit :
      (maskOf left &&& maskOf right).testBit code =
        true := by
    rw [Nat.testBit_and, testBit_maskOf hLeft,
      testBit_maskOf hRight]
    rfl
  rw [hApart, Nat.zero_testBit] at hBit
  contradiction

------------------------------------------------------------
-- Code Points of the Table
------------------------------------------------------------

/- Code points of a run. -/
def CaseRun.codes (run : CaseRun) : List Nat :=
  (List.range ((run.last - run.first) / run.step + 1)).map
    fun index => run.first + run.step * index

theorem CaseRun.mem_codes
    {run : CaseRun}
    {code : Nat}
    (hCovers : run.covers code = true) :
    code ∈ run.codes := by
  simp only [covers, Bool.and_eq_true, decide_eq_true_eq,
    beq_iff_eq] at hCovers
  rcases hCovers with ⟨⟨hFirst, hLast⟩, hStep⟩
  refine List.mem_map.mpr
    ⟨(code - run.first) / run.step, ?_, ?_⟩
  · rw [List.mem_range]
    have hBound :
        (code - run.first) / run.step ≤
          (run.last - run.first) / run.step :=
      Nat.div_le_div_right (by omega)
    omega
  · have hWhole := Nat.div_add_mod (code - run.first) run.step
    omega

/- Code points that have another upper case than themselves. -/
def casedCodes : List Nat :=
  upperExpansions.map (·.1) ++
    upperRuns.flatMap CaseRun.codes

/- Code points with which another upper case starts. -/
def capitalCodes : List Nat :=
  upperExpansions.filterMap (·.2.head?) ++
    upperRuns.flatMap fun run => run.codes.map run.image

theorem capitalCodes_apart :
    maskOf capitalCodes &&& maskOf casedCodes = 0 := by
  decide +kernel

/- No expansion of the table is empty. -/
theorem upperExpansions_ne_nil :
    ∀ entry ∈ upperExpansions, entry.2 ≠ [] := by
  decide +kernel

------------------------------------------------------------
-- Upper Case
------------------------------------------------------------

/- What the table does not have is its own upper case. -/
theorem upperCodes_of_not_mem
    {code : Nat}
    (hPlain : code ∉ casedCodes) :
    upperCodes code = [code] := by
  unfold casedCodes at hPlain
  rw [List.mem_append, not_or] at hPlain
  have hLookup : upperExpansions.lookup code = none := by
    rw [List.lookup_eq_none_iff]
    intro entry hEntry
    rw [bne_iff_ne]
    intro hSame
    exact hPlain.1
      (List.mem_map.mpr ⟨entry, hEntry, hSame.symm⟩)
  have hFind :
      upperRuns.find? (fun run => run.covers code) =
        none := by
    rw [List.find?_eq_none]
    intro run hRun hCovers
    exact hPlain.2 (List.mem_flatMap.mpr
      ⟨run, hRun, CaseRun.mem_codes hCovers⟩)
  unfold upperCodes
  rw [hLookup, hFind]

/-
  The upper case of a code point starts with one that stands
  for itself.
-/
theorem exists_upperCodes (code : Nat) :
    ∃ first rest,
      upperCodes code = first :: rest ∧
        upperCodes first = [first] := by
  have hCapital :
      ∀ first ∈ capitalCodes, upperCodes first = [first] :=
    fun first hFirst => upperCodes_of_not_mem
      (not_mem_of_maskOf capitalCodes_apart hFirst)
  cases hLookup : upperExpansions.lookup code with
  | some codes =>
      have hCodes : upperCodes code = codes := by
        unfold upperCodes
        rw [hLookup]
      rcases List.lookup_eq_some_iff.mp hLookup with
        ⟨before, after, hTable, _⟩
      have hEntry : (code, codes) ∈ upperExpansions := by
        rw [hTable]
        exact List.mem_append_cons_self
      cases codes with
      | nil =>
          exact absurd rfl (upperExpansions_ne_nil _ hEntry)
      | cons first rest =>
          refine ⟨first, rest, hCodes, hCapital first ?_⟩
          exact List.mem_append_left _
            (List.mem_filterMap.mpr ⟨_, hEntry, rfl⟩)
  | none =>
      cases hFind :
          upperRuns.find? (fun run => run.covers code) with
      | some run =>
          have hCodes :
              upperCodes code = [run.image code] := by
            unfold upperCodes
            rw [hLookup, hFind]
          refine ⟨_, [], hCodes, hCapital _ ?_⟩
          refine List.mem_append_right _
            (List.mem_flatMap.mpr
              ⟨run, List.mem_of_find?_eq_some hFind, ?_⟩)
          have hCovers := List.find?_some hFind
          exact List.mem_map_of_mem
            (CaseRun.mem_codes hCovers)
      | none =>
          have hCodes : upperCodes code = [code] := by
            unfold upperCodes
            rw [hLookup, hFind]
          exact ⟨code, [], hCodes, hCodes⟩

/- A code point of no character stands for the null one. -/
theorem toNat_ofNat_eq_or (code : Nat) :
    (Char.ofNat code).toNat = code ∨
      Char.ofNat code = '\x00' := by
  unfold Char.ofNat
  by_cases hValid : code.isValidChar
  · rw [dif_pos hValid]
    exact .inl rfl
  · rw [dif_neg hValid]
    exact .inr rfl

/-
  The upper case of a character starts with a character that
  is its own upper case.
-/
theorem exists_upper (character : Char) :
    ∃ first rest,
      upper character = first :: rest ∧
        upper first = [first] := by
  rcases exists_upperCodes character.toNat with
    ⟨first, rest, hCodes, hFirst⟩
  refine ⟨Char.ofNat first, rest.map Char.ofNat, ?_, ?_⟩
  · unfold upper
    rw [hCodes, List.map_cons]
  · rcases toNat_ofNat_eq_or first with hValid | hNull
    · unfold upper
      rw [hValid, hFirst, List.map_singleton]
    · rw [hNull]
      decide

end Text

end Aggregation
