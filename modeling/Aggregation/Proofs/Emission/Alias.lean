import Aggregation.Emission.Context
import Aggregation.Proofs.Naming
import Mathlib.Data.List.Perm.Subperm

/-
  The alias under which a module imports its root.

  The alias is the configured one with the least number of
  underscores in front that keeps it apart from all names
  that are taken.  Identifiers hold no underscores, so there
  are two at most.

  Key definitions include:
    * `underscored`
    * `IsLeastAlias`
    * `SettlesOn`
    * `IsRootAlias`

  Key theorems include:
    * `freshAlias_least`
    * `rootAlias_isLeastAlias`
    * `rootAlias_isRootAlias`
    * `composedContext_alias`
-/

------------------------------------------------------------
-- Underscored Names
------------------------------------------------------------

namespace Aggregation

/- A name with some number of underscores in front. -/
def underscored : Nat → String → String
  | 0, name => name
  | count + 1, name => underscored count ("_" ++ name)

/- Every underscore makes a name longer. -/
theorem length_underscored
    (count : Nat)
    (name : String) :
    (underscored count name).length =
      count + name.length := by
  induction count generalizing name with
  | zero => simp [underscored]
  | succ count ih =>
      have hMark : ("_" : String).length = 1 := rfl
      rw [underscored, ih, String.length_append, hMark]
      omega

/- Different numbers of underscores make different names. -/
theorem underscored_injective
    (name : String)
    {left right : Nat}
    (hSame :
      underscored left name = underscored right name) :
    left = right := by
  have hLength := congrArg String.length hSame
  rw [length_underscored, length_underscored] at hLength
  omega

/-
  An alias that is not taken, with as few underscores in
  front as possible.
-/
structure IsLeastAlias
    (taken : List String)
    (name chosen : String) :
    Prop where
  fresh : chosen ∉ taken
  least :
    ∃ count,
      chosen = underscored count name ∧
        ∀ fewer < count, underscored fewer name ∈ taken

------------------------------------------------------------
-- Bounded Search
------------------------------------------------------------

/- A search passes over taken names only. -/
theorem freshAlias_least
    (taken : List String)
    (tries : Nat)
    (name : String) :
    ∃ count ≤ tries,
      freshAlias taken tries name = underscored count name ∧
        (∀ fewer < count, underscored fewer name ∈ taken) ∧
        (count < tries →
          freshAlias taken tries name ∉ taken) := by
  induction tries generalizing name with
  | zero =>
      refine ⟨0, Nat.le_refl 0, rfl, ?_, ?_⟩
      · intro fewer hFewer
        omega
      · intro hLess
        omega
  | succ tries ih =>
      unfold freshAlias
      by_cases hTaken : taken.contains name = true
      · rw [if_pos hTaken]
        rcases ih ("_" ++ name) with
          ⟨count, hBound, hName, hBelow, hFresh⟩
        refine ⟨count + 1, by omega, hName, ?_, ?_⟩
        · intro fewer hFewer
          cases fewer with
          | zero => simpa [underscored] using hTaken
          | succ fewer => exact hBelow fewer (by omega)
        · intro hLess
          exact hFresh (by omega)
      · rw [if_neg hTaken]
        refine ⟨0, by omega, rfl, ?_, ?_⟩
        · intro fewer hFewer
          omega
        · intro _
          simpa using hTaken

/-
  As many tries as there are taken names suffice.  If all
  failed, there would be one more taken name than there are.
-/
theorem freshAlias_isLeastAlias
    (taken : List String)
    (name : String) :
    IsLeastAlias taken name
      (freshAlias taken taken.length name) := by
  rcases freshAlias_least taken taken.length name with
    ⟨count, hBound, hName, hBelow, hFresh⟩
  refine ⟨?_, count, hName, hBelow⟩
  intro hTaken
  have hAll : count = taken.length := by
    by_contra hLess
    exact hFresh (by omega) hTaken
  let tried :=
    (List.range (taken.length + 1)).map fun fewer =>
      underscored fewer name
  have hSubset : tried ⊆ taken := by
    intro candidate hCandidate
    rcases List.mem_map.mp hCandidate with
      ⟨fewer, hFewer, rfl⟩
    rw [List.mem_range] at hFewer
    by_cases hLast : fewer = count
    · rw [hLast, ← hName]
      exact hTaken
    · exact hBelow fewer (by omega)
  have hNodup : tried.Nodup := by
    refine List.pairwise_map.mpr
      (List.nodup_range.imp ?_)
    intro left right hNe hSame
    exact hNe (underscored_injective name hSame)
  have hLength :=
    (List.subperm_of_subset hNodup hSubset).length_le
  rw [List.length_map, List.length_range] at hLength
  omega

/- The alias of a root is fresh and least. -/
theorem rootAlias_isLeastAlias
    (settings : Settings)
    (identifier : String)
    (elements : List Element) :
    IsLeastAlias (takenNames settings identifier elements)
      settings.rootAlias
      (rootAlias settings identifier elements) :=
  freshAlias_isLeastAlias _ _

------------------------------------------------------------
-- Loops
------------------------------------------------------------

/-
  The loop that puts an underscore in front of a name for as
  long as the name is taken, with the number of its rounds.
-/
inductive SettlesOn (taken : List String) :
    String → (rounds : Nat) → String → Prop where
  | stop
      {name : String}
      (hFree : name ∉ taken) :
      SettlesOn taken name 0 name
  | round
      {name chosen : String}
      {rounds : Nat}
      (hTaken : name ∈ taken)
      (hRest : SettlesOn taken ("_" ++ name) rounds chosen) :
      SettlesOn taken name (rounds + 1) chosen

/- The loop ends at the least number of underscores. -/
theorem settlesOn_underscored
    {taken : List String}
    {name : String}
    {count : Nat}
    (hBelow :
      ∀ fewer < count, underscored fewer name ∈ taken)
    (hFree : underscored count name ∉ taken) :
    SettlesOn taken name count (underscored count name) := by
  induction count generalizing name with
  | zero => exact .stop hFree
  | succ count ih =>
      refine .round (hBelow 0 (Nat.zero_lt_succ count)) ?_
      refine ih ?_ hFree
      intro fewer hFewer
      exact hBelow (fewer + 1) (Nat.succ_lt_succ hFewer)

theorem toList_underscored
    (count : Nat)
    (name : String) :
    (underscored count name).toList =
      List.replicate count '_' ++ name.toList := by
  induction count generalizing name with
  | zero => rfl
  | succ count ih =>
      have hMark : ("_" : String).toList = ['_'] := rfl
      rw [underscored, ih, String.toList_append, hMark,
        List.replicate_succ', List.append_assoc]

------------------------------------------------------------
-- Two Underscores at Most
------------------------------------------------------------

variable {settings : Settings}

/- A name without an underscore does not start with one. -/
theorem ne_underscore
    {name : String}
    (hPlain : '_' ∉ name.toList)
    (rest : String) :
    name ≠ "_" ++ rest := by
  rintro rfl
  rw [String.toList_append] at hPlain
  exact hPlain List.mem_cons_self

theorem underscore_not_mem_typeNameOf (name : String) :
    '_' ∉ (typeNameOf (normalize name)).toList := by
  unfold typeNameOf
  rw [String.toList_append, List.mem_append, not_or]
  exact ⟨underscore_not_mem_normalize name, by decide⟩

/- Of names with an underscore only the type can be taken. -/
theorem eq_typeName_of_mem_takenNames
    {name rest : String}
    {names : List String}
    (hTaken :
      "_" ++ rest ∈
        takenNames settings (normalize name)
          (properties settings (normalize name) names)) :
    settings.typeName = "_" ++ rest := by
  rcases List.mem_append.mp hTaken with hOwn | hElement
  · simp only [List.mem_cons, List.not_mem_nil, or_false]
      at hOwn
    rcases hOwn with hName | hType | hSame
    · exact absurd hName.symm
        (ne_underscore (underscore_not_mem_normalize name)
          rest)
    · exact absurd hType.symm
        (ne_underscore (underscore_not_mem_typeNameOf name)
          rest)
    · exact hSame.symm
  · rcases List.mem_map.mp hElement with
      ⟨element, hProperty, hSame⟩
    rcases List.mem_map.mp hProperty with
      ⟨other, _, rfl⟩
    exact absurd hSame
      (ne_underscore (underscore_not_mem_normalize other)
        rest)

/-
  How the alias of a root is found.  It has as few
  underscores in front as keep it apart from all other names
  of the module, and the loop takes a round for each.
-/
structure IsRootAlias
    (settings : Settings)
    (identifier : String)
    (elements : List Element)
    (rounds : Nat)
    (chosen : String) :
    Prop where
  settles :
    SettlesOn (takenNames settings identifier elements)
      settings.rootAlias rounds chosen
  spelled :
    chosen.toList =
      List.replicate rounds '_' ++ settings.rootAlias.toList
  apart :
    chosen ≠ identifier ∧
      chosen ≠ identifier ++ "Type" ∧
      chosen ≠ settings.typeName ∧
      ∀ element ∈ elements, chosen ≠ element.identifier
  least :
    ∀ fewer < rounds,
      underscored fewer settings.rootAlias ∈
        takenNames settings identifier elements
  bounded : rounds ≤ 2
  twice :
    rounds = 2 →
      settings.typeName = "_" ++ settings.rootAlias

/-
  The loop for the alias of a root ends after two rounds.  A
  third one would need two names of the type.
-/
theorem rootAlias_isRootAlias
    (settings : Settings)
    (name : String)
    (names : List String) :
    let identifier := normalize name
    let elements := properties settings identifier names
    ∃ rounds,
      IsRootAlias settings identifier elements rounds
        (rootAlias settings identifier elements) := by
  intro identifier elements
  rcases rootAlias_isLeastAlias settings identifier elements
    with ⟨hFresh, count, hChosen, hBelow⟩
  rw [hChosen] at hFresh ⊢
  have hOnce :
      1 < count →
        settings.typeName =
          underscored 1 settings.rootAlias :=
    fun hMore => eq_typeName_of_mem_takenNames
      (hBelow 1 hMore)
  have hApart := hFresh
  unfold takenNames at hApart
  simp only [List.mem_append, List.mem_cons,
    List.not_mem_nil, or_false, List.mem_map, not_or,
    not_exists, not_and] at hApart
  refine ⟨count, {
    settles := settlesOn_underscored hBelow hFresh
    spelled := toList_underscored count settings.rootAlias
    apart :=
      ⟨hApart.1.1, hApart.1.2.1, hApart.1.2.2,
        fun element hElement hSame =>
          hApart.2 element hElement hSame.symm⟩
    least := hBelow
    bounded := ?_
    twice := fun hTwo => hOnce (by omega) }⟩
  by_contra hMore
  have hTwice :
      settings.typeName =
        underscored 2 settings.rootAlias :=
    eq_typeName_of_mem_takenNames (hBelow 2 (by omega))
  have hSame :=
    underscored_injective settings.rootAlias
      ((hOnce (by omega)).symm.trans hTwice)
  contradiction

/-
  The context of a composed module has the alias that the
  loop settles on, among the names of that same context.
-/
theorem composedContext_alias
    (settings : Settings)
    (directory : Path)
    (names : List String)
    (rootFile : Option String) :
    let context :=
      composedContext settings directory names rootFile
    let identifier := normalize directory.name
    let elements := properties settings identifier names
    ∃ chosen rounds,
      context.lookup "root_alias" = some (.text chosen) ∧
      context.lookup "component_name" =
        some (.text identifier) ∧
      context.lookup "type_name" =
        some (.text settings.typeName) ∧
      context.lookup "elements" =
        some (elementsValue elements) ∧
      IsRootAlias settings identifier elements rounds
        chosen := by
  intro context identifier elements
  rcases rootAlias_isRootAlias settings directory.name names
    with ⟨rounds, hAlias⟩
  exact ⟨_, rounds, rfl, rfl, rfl, rfl, hAlias⟩

/- Two underscores, where the type is named with one. -/
example :
    rootAlias
        { Settings.standard with typeName := "_Root" }
        "Button" [Element.ofName ".svelte" "root"] =
      "__Root" := by
  decide +kernel

end Aggregation
