import Aggregation.Settings

/-
  Paths continued by several names.

  A trail lists the names below a path, outermost first.  A
  text without slashes continues a path by one name.

  Key definitions include:
    * `Path.descend`
    * `Path.IsClean`
    * `Path.IsNamed`
    * `Settings.HasPlainNames`

  Key theorems include:
    * `Path.descend_append`
    * `Path.descend_injective`
    * `Path.join_eq_child`
-/

------------------------------------------------------------
-- Trails
------------------------------------------------------------

namespace Aggregation

namespace Path

variable {path : Path}

/- The path that a trail leads to. -/
def descend (path : Path) (trail : List Name) : Path :=
  ⟨path.anchor, trail.reverse ++ path.names⟩

@[simp] theorem descend_nil (path : Path) :
    path.descend [] = path :=
  rfl

@[simp] theorem descend_cons
    (path : Path)
    (name : Name)
    (rest : List Name) :
    path.descend (name :: rest) =
      (path.child name).descend rest := by
  simp [descend, child]

/- Trails are followed one after the other. -/
theorem descend_append
    (path : Path)
    (trail rest : List Name) :
    path.descend (trail ++ rest) =
      (path.descend trail).descend rest := by
  simp [descend]

/- Different trails lead to different paths. -/
theorem descend_injective
    (path : Path)
    {left right : List Name}
    (hSame : path.descend left = path.descend right) :
    left = right := by
  unfold descend at hSame
  injection hSame with _ hNames
  exact List.reverse_inj.mp
    (List.append_cancel_right hNames)

/- Only the empty trail stays at a path. -/
theorem descend_eq_self_iff
    (path : Path)
    (trail : List Name) :
    path.descend trail = path ↔ trail = [] := by
  constructor
  · intro hSame
    exact descend_injective path
      (hSame.trans (descend_nil path).symm)
  · intro hEmpty
    rw [hEmpty, descend_nil]

------------------------------------------------------------
-- Single Names
------------------------------------------------------------

/- A text without slashes is a single segment. -/
theorem splitOn_of_plain
    {text : String}
    (hPlain : '/' ∉ text.toList) :
    Text.splitOn (· == '/') text.toList = [text.toList] := by
  apply Text.splitOn_eq_singleton
  intro character hCharacter
  rw [beq_eq_false_iff_ne]
  intro hSlash
  exact hPlain (hSlash ▸ hCharacter)

/- A text without slashes continues a path by one name. -/
theorem join_eq_child
    (path : Path)
    {text : String}
    (hPlain : '/' ∉ text.toList)
    (hNonempty : text ≠ "")
    (hHere : text ≠ ".") :
    path.join text = path.child text := by
  have hSplit := splitOn_of_plain hPlain
  have hAnchor : anchorOf text.toList = .relative := by
    cases hChars : text.toList with
    | nil => rfl
    | cons first rest =>
        have hFirst : first ≠ '/' := by
          intro hSlash
          apply hPlain
          rw [hChars, hSlash]
          exact List.mem_cons_self
        simp [anchorOf, hFirst]
  have hRead : ofString text = ⟨.relative, [text]⟩ := by
    simp [ofString, hAnchor, segments, hSplit, hNonempty,
      hHere]
  simp [join, hRead, child]

/- The last name of a path is looked up last. -/
@[simp] theorem steps_cons
    (anchor : Anchor)
    (name : Name)
    (above : List Name) :
    steps ⟨anchor, name :: above⟩ =
      above.reverse ++ [name] := by
  simp [steps]

------------------------------------------------------------
-- Clean Paths
------------------------------------------------------------

/- No name of a path is a single dot. -/
def IsClean (path : Path) : Prop :=
  "." ∉ path.names

/- Paths that are read from a text are clean. -/
theorem ofString_isClean (text : String) :
    (ofString text).IsClean := by
  unfold IsClean ofString segments
  simp

theorem IsClean.parent
    (hClean : path.IsClean) :
    path.parent.IsClean :=
  fun hDot => hClean (List.mem_of_mem_tail hDot)

theorem IsClean.name_ne
    (hClean : path.IsClean) :
    path.name ≠ "." := by
  rcases path with ⟨anchor, names⟩
  cases names with
  | nil => simp [Path.name]
  | cons name above =>
      intro hDot
      have hName : name = "." := hDot
      exact hClean (hName ▸ List.mem_cons_self)

theorem IsClean.child
    (hClean : path.IsClean)
    {name : Name}
    (hName : name ≠ ".") :
    (path.child name).IsClean := by
  intro hDot
  rcases List.mem_cons.mp hDot with hSame | hAbove
  · exact hName hSame.symm
  · exact hClean hAbove

theorem IsClean.join
    (hClean : path.IsClean)
    (text : String) :
    (path.join text).IsClean := by
  unfold Path.join
  simp only
  split
  · intro hDot
    rcases List.mem_append.mp hDot with hText | hPath
    · exact ofString_isClean text hText
    · exact hClean hPath
  · exact ofString_isClean text

/- A path says more than where to start from. -/
def IsNamed (path : Path) : Prop :=
  path.names = [] → path.anchor ≠ .relative

theorem IsNamed.join
    (hNamed : path.IsNamed)
    (text : String) :
    (path.join text).IsNamed := by
  unfold Path.join
  simp only
  split
  · intro hNames
    exact hNamed (List.append_eq_nil_iff.mp hNames).2
  · rename_i hAnchor
    exact fun _ => hAnchor

/- What lies below a clean path is clean. -/
theorem IsClean.descend
    (hClean : path.IsClean)
    {trail : List Name}
    (hTrail : "." ∉ trail) :
    (path.descend trail).IsClean := by
  intro hDot
  rcases List.mem_append.mp hDot with hBelow | hPath
  · exact hTrail (List.mem_reverse.mp hBelow)
  · exact hClean hPath

theorem descend_isNamed
    (path : Path)
    {trail : List Name}
    (hTrail : trail ≠ []) :
    (path.descend trail).IsNamed := by
  intro hNames
  rcases List.append_eq_nil_iff.mp hNames with
    ⟨hReverse, _⟩
  exact absurd (List.reverse_eq_nil_iff.mp hReverse) hTrail

end Path

------------------------------------------------------------
-- Plain Settings
------------------------------------------------------------

/-
  Settings whose folder and generated files are named by
  single names below a component.
-/
structure Settings.HasPlainNames (settings : Settings) :
    Prop where
  elements : '/' ∉ settings.elementsName.text.toList
  index : '/' ∉ settings.indexName.text.toList
  output : '/' ∉ settings.outputExtension.text.toList
  notHere : settings.elementsName.text ≠ "."
  notAbove : settings.elementsName.text ≠ ".."

namespace Settings

variable {settings : Settings}

theorem elementsName_ne_empty (settings : Settings) :
    settings.elementsName.text ≠ "" := by
  intro hEmpty
  exact settings.elementsName.nonempty (by rw [hEmpty]; rfl)

/- The folder of elements is one name below a component. -/
theorem HasPlainNames.join_elementsName
    (hPlain : settings.HasPlainNames)
    (path : Path) :
    path.join settings.elementsName.text =
      path.child settings.elementsName.text :=
  path.join_eq_child hPlain.elements
    settings.elementsName_ne_empty hPlain.notHere

/- An extension has a point and something behind it. -/
theorem two_le_length_extension (extension : Extension) :
    2 ≤ extension.text.toList.length := by
  have hDotted := extension.dotted
  unfold isExtension at hDotted
  split at hDotted
  · rename_i hChars
    simp [hChars]
  · contradiction

/-
  A base name with an extension is longer than any of the
  names that mean a directory.
-/
theorem three_le_length_fileName
    (label : Label)
    (extension : Extension) :
    3 ≤ (label.text ++ extension.text).toList.length := by
  have hLabel : 0 < label.text.toList.length :=
    List.length_pos_iff.mpr label.nonempty
  have hExtension := two_le_length_extension extension
  rw [String.toList_append, List.length_append]
  omega

/- A name of three characters is no name of a directory. -/
theorem ne_dots_of_three_le
    {name : String}
    (hLong : 3 ≤ name.toList.length) :
    name ≠ "" ∧ name ≠ "." ∧ name ≠ ".." := by
  refine ⟨?_, ?_, ?_⟩
  · rintro rfl
    exact absurd hLong (by decide)
  · rintro rfl
    exact absurd hLong (by decide)
  · rintro rfl
    exact absurd hLong (by decide)

theorem aggregationName_ne_dots (settings : Settings) :
    settings.aggregationName ≠ "" ∧
      settings.aggregationName ≠ "." ∧
      settings.aggregationName ≠ ".." :=
  ne_dots_of_three_le
    (three_le_length_fileName settings.elementsName
      settings.outputExtension)

theorem indexFileName_ne_dots (settings : Settings) :
    settings.indexFileName ≠ "" ∧
      settings.indexFileName ≠ "." ∧
      settings.indexFileName ≠ ".." :=
  ne_dots_of_three_le
    (three_le_length_fileName settings.indexName
      settings.outputExtension)

theorem HasPlainNames.aggregationName
    (hPlain : settings.HasPlainNames) :
    '/' ∉ settings.aggregationName.toList := by
  unfold Settings.aggregationName
  rw [String.toList_append, List.mem_append]
  rintro (hElements | hOutput)
  · exact hPlain.elements hElements
  · exact hPlain.output hOutput

theorem HasPlainNames.indexFileName
    (hPlain : settings.HasPlainNames) :
    '/' ∉ settings.indexFileName.toList := by
  unfold Settings.indexFileName
  rw [String.toList_append, List.mem_append]
  rintro (hIndex | hOutput)
  · exact hPlain.index hIndex
  · exact hPlain.output hOutput

/- The aggregation file is one name below a component. -/
theorem HasPlainNames.join_aggregationName
    (hPlain : settings.HasPlainNames)
    (path : Path) :
    path.join settings.aggregationName =
      path.child settings.aggregationName :=
  path.join_eq_child hPlain.aggregationName
    settings.aggregationName_ne_dots.1
    settings.aggregationName_ne_dots.2.1

/- The index is one name below the folder of elements. -/
theorem HasPlainNames.join_indexFileName
    (hPlain : settings.HasPlainNames)
    (path : Path) :
    path.join settings.indexFileName =
      path.child settings.indexFileName :=
  path.join_eq_child hPlain.indexFileName
    settings.indexFileName_ne_dots.1
    settings.indexFileName_ne_dots.2.1

end Settings

end Aggregation
