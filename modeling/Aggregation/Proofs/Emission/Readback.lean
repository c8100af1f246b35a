import Aggregation.Proofs.Emission.Alias
import Aggregation.Proofs.Emission.Modules
import Mathlib.Data.List.Basic

/-
  Generated modules read back.

  Every line for an element quotes the file of the element,
  so a name without quotation marks can be read from it.
  Lines for elements are told from what follows by their
  first character.  Hence a composed module determines its
  root and its properties, and an index its elements.

  Key definitions include:
    * `QuotedLine`

  Key theorems include:
    * `QuotedLine.read`
    * `QuotedLine.flatMap_injective`
    * `count_of_append_name`
    * `modules_determine`
-/

------------------------------------------------------------
-- Quoted Names
------------------------------------------------------------

namespace Aggregation

/- A name without a quotation mark. -/
def IsUnquoted (name : String) : Prop :=
  '\'' ∉ name.toList

instance : DecidablePred IsUnquoted :=
  fun name => inferInstanceAs (Decidable ('\'' ∉ name.toList))

/- No quotation mark is in the upper case of a character. -/
theorem IsUnquoted.normalize
    {name : String}
    (hName : IsUnquoted name) :
    IsUnquoted (normalize name) :=
  fun hMark => hName
    (mem_of_mem_normalize (by decide +kernel) hMark)

/- A first quotation mark parts a text in one way only. -/
theorem eq_of_append_mark
    {mark : Char}
    {left right rest others : List Char}
    (hLeft : mark ∉ left)
    (hRight : mark ∉ right)
    (hSame : left ++ mark :: rest = right ++ mark :: others) :
    left = right ∧ rest = others := by
  induction left generalizing right with
  | nil =>
      cases right with
      | nil =>
          injection hSame with _ hRest
          exact ⟨rfl, hRest⟩
      | cons first more =>
          injection hSame with hFirst _
          rw [hFirst] at hRight
          exact absurd List.mem_cons_self hRight
  | cons first more ih =>
      cases right with
      | nil =>
          injection hSame with hFirst _
          rw [hFirst] at hLeft
          exact absurd List.mem_cons_self hLeft
      | cons other longer =>
          injection hSame with hFirst hMore
          rcases ih
              (fun hMark =>
                hLeft (List.mem_cons_of_mem first hMark))
              (fun hMark =>
                hRight (List.mem_cons_of_mem other hMark))
              hMore with
            ⟨hNames, hRest⟩
          exact ⟨by rw [hFirst, hNames], hRest⟩

/-
  Unquoted names that are followed by one text and then by a
  quotation mark.  The text may hold quotation marks, and
  the first one ends both names alike.
-/
theorem eq_of_append_text
    {left right : List Char}
    (hLeft : '\'' ∉ left)
    (hRight : '\'' ∉ right)
    (text : List Char)
    {rest others : List Char}
    (hSame :
      left ++ (text ++ '\'' :: rest) =
        right ++ (text ++ '\'' :: others)) :
    left = right ∧ rest = others := by
  rcases List.eq_append_cons_of_mem
      (List.mem_append_right text
        (List.mem_singleton_self '\'')) with
    ⟨before, after, hText, hBefore⟩
  have hSplit :
      ∀ name more : List Char,
        name ++ (text ++ '\'' :: more) =
          (name ++ before) ++ '\'' :: (after ++ more) := by
    intro name more
    calc
      name ++ (text ++ '\'' :: more) =
          name ++ ((text ++ ['\'']) ++ more) := by
        rw [List.append_assoc, List.singleton_append]
      _ = (name ++ before) ++ '\'' :: (after ++ more) := by
        rw [hText]
        simp only [List.append_assoc, List.cons_append]
  have hNames : left = right := by
    have hParts := hSame
    rw [hSplit, hSplit] at hParts
    have hMarks :=
      eq_of_append_mark
        (List.not_mem_append hLeft hBefore)
        (List.not_mem_append hRight hBefore) hParts
    exact List.append_cancel_right hMarks.1
  refine ⟨hNames, ?_⟩
  rw [hNames] at hSame
  have hRest :=
    List.append_cancel_left (List.append_cancel_left hSame)
  injection hRest

------------------------------------------------------------
-- Lines
------------------------------------------------------------

/-
  A line that names an identifier and then quotes the file
  of its element.
-/
structure QuotedLine where
  opening : List Char
  middle : List Char
  folder : List Char
  extension : List Char
  ending : List Char
  opening_plain : '\'' ∉ opening
  middle_plain : '\'' ∉ middle

namespace QuotedLine

variable {line : QuotedLine}
variable {rest others : List Char}

/- The line for an element of some name. -/
def text (line : QuotedLine) (name : String) : List Char :=
  line.opening ++ ((normalize name).toList ++
    (line.middle ++ '\'' :: (line.folder ++ (name.toList ++
      (line.extension ++ '\'' :: line.ending)))))

/- The name can be read from its line. -/
theorem read
    {name other : String}
    (hName : IsUnquoted name)
    (hOther : IsUnquoted other)
    (hSame :
      line.text name ++ rest = line.text other ++ others) :
    name = other ∧ rest = others := by
  have hFront :
      ∀ {word : String}, IsUnquoted word →
        '\'' ∉ line.opening ++
          ((normalize word).toList ++ line.middle) :=
    fun hWord => List.not_mem_append line.opening_plain
      (List.not_mem_append hWord.normalize line.middle_plain)
  have hSplit :
      ∀ word more,
        line.text word ++ more =
          (line.opening ++
              ((normalize word).toList ++ line.middle)) ++
            '\'' :: (line.folder ++ (word.toList ++
              (line.extension ++
                '\'' :: (line.ending ++ more)))) := by
    intro word more
    simp only [text, List.append_assoc, List.cons_append]
  rw [hSplit, hSplit] at hSame
  have hFiles :=
    (eq_of_append_mark (hFront hName) (hFront hOther)
      hSame).2
  have hNames :=
    eq_of_append_text hName hOther line.extension
      (List.append_cancel_left hFiles)
  exact ⟨String.toList_inj.mp hNames.1,
    List.append_cancel_left hNames.2⟩

/-
  All names can be read from their lines, if what follows
  does not start like a line.
-/
theorem flatMap_injective
    {first : Char}
    (hFirst : line.opening.head? = some first)
    (hRest : rest.head? ≠ some first)
    (hOthers : others.head? ≠ some first)
    {left right : List String}
    (hLeft : ∀ name ∈ left, IsUnquoted name)
    (hRight : ∀ name ∈ right, IsUnquoted name)
    (hSame :
      left.flatMap line.text ++ rest =
        right.flatMap line.text ++ others) :
    left = right := by
  have hHead :
      ∀ (name : String) (names : List String) more,
        ((name :: names).flatMap line.text ++ more).head? =
          some first := by
    intro name names more
    cases hOpening : line.opening with
    | nil => simp [hOpening] at hFirst
    | cons letter letters =>
        simpa [text, hOpening] using hFirst
  induction left generalizing right with
  | nil =>
      cases right with
      | nil => rfl
      | cons other right =>
          rw [List.flatMap_nil, List.nil_append] at hSame
          rw [hSame] at hRest
          exact absurd (hHead other right others) hRest
  | cons name left ih =>
      cases right with
      | nil =>
          rw [List.flatMap_nil, List.nil_append] at hSame
          rw [← hSame] at hOthers
          exact absurd (hHead name left rest) hOthers
      | cons other right =>
          rcases List.forall_mem_cons.mp hLeft with
            ⟨hName, hLeft⟩
          rcases List.forall_mem_cons.mp hRight with
            ⟨hOther, hRight⟩
          rw [List.flatMap_cons, List.flatMap_cons,
            List.append_assoc, List.append_assoc] at hSame
          rcases read hName hOther hSame with
            ⟨hFound, hMore⟩
          rw [hFound, ih hLeft hRight hMore]

end QuotedLine

------------------------------------------------------------
-- Aliases
------------------------------------------------------------

/- Underscores in front of a name make another text. -/
theorem ne_append_underscores
    (name : List Char)
    (count : Nat)
    {rest others : List Char} :
    name ++ ' ' :: rest ≠
      List.replicate (count + 1) '_' ++
        (name ++ ' ' :: others) := by
  rw [List.replicate_succ, List.cons_append]
  induction name with
  | nil =>
      intro hSame
      injection hSame with hFirst
      exact absurd hFirst (by decide)
  | cons first name ih =>
      intro hSame
      injection hSame with hFirst hRest
      apply ih
      have hName :
          name ++ ' ' :: rest =
            List.replicate count '_' ++
              (first :: name ++ ' ' :: others) :=
        hRest
      -- The underscore of the name moves to the front.
      rw [hName, hFirst, List.cons_append, List.append_cons,
        ← List.replicate_succ', List.replicate_succ,
        List.cons_append]

/-
  Underscores in front of one name can be counted, if it is
  followed by a blank.
-/
theorem count_of_append_name
    (name : List Char)
    {count other : Nat}
    {rest others : List Char}
    (hSame :
      List.replicate count '_' ++ (name ++ ' ' :: rest) =
        List.replicate other '_' ++
          (name ++ ' ' :: others)) :
    count = other := by
  induction count generalizing other with
  | zero =>
      cases other with
      | zero => rfl
      | succ other =>
          exact absurd hSame
            (ne_append_underscores name other)
  | succ count ih =>
      cases other with
      | zero =>
          exact absurd hSame.symm
            (ne_append_underscores name count)
      | succ other =>
          rw [List.replicate_succ, List.replicate_succ,
            List.cons_append, List.cons_append] at hSame
          injection hSame with _ hRest
          rw [ih hRest]

------------------------------------------------------------
-- Modules
------------------------------------------------------------

variable (settings : Settings)

/- Line that imports an element. -/
def importForm : QuotedLine where
  opening := "import ".toList
  middle := " from ".toList
  folder :=
    "./".toList ++ settings.elementsName.text.toList ++ ['/']
  extension := settings.sourceExtension.text.toList
  ending := ";\n".toList
  opening_plain := by decide
  middle_plain := by decide

/- Line that exports an element. -/
def exportForm : QuotedLine where
  opening := "export \x7b default as ".toList
  middle := " \x7d from ".toList
  folder := "./".toList
  extension := settings.sourceExtension.text.toList
  ending := ";\n".toList
  opening_plain := by decide
  middle_plain := by decide

theorem toList_unlines (lines : List String) :
    (unlines lines).toList =
      lines.flatMap fun line => line.toList ++ ['\n'] := by
  induction lines with
  | nil => rfl
  | cons line rest ih =>
      rw [unlines, String.toList_append,
        String.toList_append, ih]
      rfl

/- Lines for elements are the lines of their names. -/
theorem flatMap_elementsOf
    (form : QuotedLine)
    (line : Element → String)
    (hLine :
      ∀ name,
        (line (Element.ofName settings.sourceExtension.text
            name)).toList ++ ['\n'] =
          form.text name)
    (names : List String) :
    (unlines ((elementsOf settings.sourceExtension.text
        names).map line)).toList =
      names.flatMap form.text := by
  rw [toList_unlines]
  unfold elementsOf
  rw [List.map_map, List.flatMap_map]
  exact List.flatMap_congr fun name _ => hLine name

theorem importLineOf_eq (name : String) :
    (importLineOf settings (normalize name)
        (name ++ settings.sourceExtension.text)).toList ++
        ['\n'] =
      (importForm settings).text name := by
  unfold importLineOf importForm QuotedLine.text
  simp only [String.toList_append, List.append_assoc]
  rfl

theorem exportLineOf_eq (name : String) :
    (exportLineOf (Element.ofName
        settings.sourceExtension.text name)).toList ++
        ['\n'] =
      (exportForm settings).text name := by
  unfold exportLineOf exportForm QuotedLine.text
    Element.ofName
  simp only [String.toList_append, List.append_assoc]
  rfl

/- Text of a composed module up to the alias of the root. -/
def composedOpening : List Char :=
  (unlines
      [settings.header,
        "import type \x7b " ++ settings.typeName ++
          " \x7d from '" ++ settings.typeModule ++
            "';"]).toList ++
    "import ".toList

/- Text between the alias of the root and its file. -/
def rootMiddle : List Char :=
  "from './".toList ++ settings.elementsName.text.toList ++
    ['/']

/- Imports stand behind the head and before a blank line. -/
theorem composedLines_eq
    (identifier rootName rootFile : String)
    (elements : List Element) :
    ∃ later,
      composedLines settings identifier rootName rootFile
          elements =
        [settings.header,
            "import type \x7b " ++ settings.typeName ++
              " \x7d from '" ++ settings.typeModule ++
                "';"] ++
          ([importLineOf settings rootName rootFile] ++
            (elements.map (fun element =>
              importLineOf settings element.identifier
                element.file) ++
              ([""] ++ later))) := by
  unfold composedLines
  simp only [List.append_assoc, List.cons_append,
    List.nil_append]
  exact ⟨_, rfl⟩

theorem toList_rootLine (rootName rootFile : String) :
    (importLineOf settings rootName rootFile).toList =
      "import ".toList ++ (rootName.toList ++
        ' ' :: (rootMiddle settings ++
          (rootFile.toList ++ '\'' :: [';']))) := by
  unfold importLineOf rootMiddle
  simp only [String.toList_append, List.append_assoc]
  rfl

/-
  A composed module has the alias, the file of the root and
  the lines of its elements in a row, and then a blank line.
-/
theorem toList_composed
    (identifier rootName rootFile : String)
    (names : List String) :
    ∃ tail,
      (unlines (composedLines settings identifier rootName
          rootFile (elementsOf
            settings.sourceExtension.text names))).toList =
        composedOpening settings ++
          (rootName.toList ++
            ' ' :: (rootMiddle settings ++
              (rootFile.toList ++
                '\'' :: ([';', '\n'] ++
                  (names.flatMap
                      (importForm settings).text ++
                    '\n' :: tail))))) := by
  have hImports :=
    flatMap_elementsOf settings (importForm settings)
      (fun element =>
        importLineOf settings element.identifier
          element.file)
      (importLineOf_eq settings) names
  rcases composedLines_eq settings identifier rootName
      rootFile (elementsOf settings.sourceExtension.text
        names) with
    ⟨later, hLines⟩
  have hBlank : (unlines [""]).toList = ['\n'] := rfl
  have hRoot :
      (unlines [importLineOf settings rootName
          rootFile]).toList =
        (importLineOf settings rootName rootFile).toList ++
          ['\n'] := by
    rw [toList_unlines, List.flatMap_singleton]
  refine ⟨(unlines later).toList, ?_⟩
  rw [hLines, unlines_append, unlines_append, unlines_append,
    unlines_append, String.toList_append,
    String.toList_append, String.toList_append,
    String.toList_append, hImports, hBlank, hRoot,
    toList_rootLine]
  simp only [composedOpening, List.append_assoc,
    List.cons_append, List.nil_append]

/- An index without elements exports nothing. -/
theorem toList_index (names : List String) :
    (unlines (indexLines settings (elementsOf
        settings.sourceExtension.text names))).toList =
      settings.header.toList ++
        ('\n' :: if names = [] then
            "export \x7b\x7d;\n".toList
          else
            names.flatMap (exportForm settings).text) := by
  have hExports :=
    flatMap_elementsOf settings (exportForm settings)
      exportLineOf (exportLineOf_eq settings) names
  have hHeader :
      ∀ lines,
        (unlines (settings.header :: lines)).toList =
          settings.header.toList ++
            '\n' :: (unlines lines).toList := by
    intro lines
    rw [unlines, String.toList_append,
      String.toList_append, List.append_assoc]
    rfl
  unfold indexLines
  rw [hHeader]
  cases names with
  | nil => rfl
  | cons name names =>
      rw [if_neg (List.cons_ne_nil name names), ← hExports]
      rfl

------------------------------------------------------------
-- Reading Modules
------------------------------------------------------------

/-
  Two composed modules of one text have the same alias, then
  the same root, and then the same lines of elements.
-/
theorem composedLines_injective
    (identifier : String)
    {names others : List String}
    {root other rootName otherName : String}
    {rounds otherRounds : Nat}
    (hRootName :
      rootName.toList =
        List.replicate rounds '_' ++
          settings.rootAlias.toList)
    (hOtherName :
      otherName.toList =
        List.replicate otherRounds '_' ++
          settings.rootAlias.toList)
    (hNames : ∀ name ∈ root :: names, IsUnquoted name)
    (hOthers : ∀ name ∈ other :: others, IsUnquoted name)
    (hSame :
      unlines (composedLines settings identifier rootName
          root (elementsOf settings.sourceExtension.text
            names)) =
        unlines (composedLines settings identifier otherName
          other (elementsOf settings.sourceExtension.text
            others))) :
    root = other ∧ names = others := by
  rcases List.forall_mem_cons.mp hNames with ⟨hRoot, hNames⟩
  rcases List.forall_mem_cons.mp hOthers with
    ⟨hOther, hOthers⟩
  rcases toList_composed settings identifier rootName root
      names with
    ⟨tail, hText⟩
  rcases toList_composed settings identifier otherName other
      others with
    ⟨otherTail, hOtherText⟩
  rw [← String.toList_inj, hText, hOtherText] at hSame
  have hAliases := List.append_cancel_left hSame
  rw [hRootName, hOtherName, List.append_assoc,
    List.append_assoc] at hAliases
  -- Once the counts agree, all up to the root can go.
  have hRounds :=
    count_of_append_name settings.rootAlias.toList hAliases
  rw [hRounds] at hAliases
  have hRoots :=
    List.append_cancel_left (List.append_cancel_left hAliases)
  injection hRoots with _ hRoots
  rcases eq_of_append_mark hRoot hOther
      (List.append_cancel_left hRoots) with
    ⟨hFiles, hLines⟩
  have hFirst :
      (importForm settings).opening.head? = some 'i' :=
    rfl
  exact ⟨String.toList_inj.mp hFiles,
    QuotedLine.flatMap_injective hFirst (by simp) (by simp)
      hNames hOthers (List.append_cancel_left hLines)⟩

/- An index without elements has no line of an element. -/
theorem emptyIndex_ne
    {names : List String}
    (hNames : names ≠ []) :
    "export \x7b\x7d;\n".toList ≠
      names.flatMap (exportForm settings).text := by
  intro hSame
  cases names with
  | nil => exact hNames rfl
  | cons name names =>
      have hSpaced :
          (exportForm settings).opening =
            "export \x7b".toList ++
              ' ' :: "default as ".toList :=
        rfl
      have hClosed :
          "export \x7b\x7d;\n".toList =
            "export \x7b".toList ++ '\x7d' :: ";\n".toList :=
        rfl
      rw [hClosed, List.flatMap_cons, QuotedLine.text,
        hSpaced, List.append_assoc, List.append_assoc] at hSame
      injection List.append_cancel_left hSame with hMark _
      exact absurd hMark (by decide)

/- Two indexes of one text have the same elements. -/
theorem indexLines_injective
    {names others : List String}
    (hNames : ∀ name ∈ names, IsUnquoted name)
    (hOthers : ∀ name ∈ others, IsUnquoted name)
    (hSame :
      unlines (indexLines settings (elementsOf
          settings.sourceExtension.text names)) =
        unlines (indexLines settings (elementsOf
          settings.sourceExtension.text others))) :
    names = others := by
  rw [← String.toList_inj, toList_index, toList_index]
    at hSame
  have hLines := List.append_cancel_left hSame
  injection hLines with _ hLines
  by_cases hEmpty : names = []
  · by_cases hOther : others = []
    · rw [hEmpty, hOther]
    · rw [if_pos hEmpty, if_neg hOther] at hLines
      exact absurd hLines (emptyIndex_ne settings hOther)
  · by_cases hOther : others = []
    · rw [if_neg hEmpty, if_pos hOther] at hLines
      exact absurd hLines.symm (emptyIndex_ne settings hEmpty)
    · rw [if_neg hEmpty, if_neg hOther,
        ← List.append_nil (names.flatMap _),
        ← List.append_nil (others.flatMap _)] at hLines
      have hFirst :
          (exportForm settings).opening.head? = some 'e' :=
        rfl
      exact QuotedLine.flatMap_injective hFirst (by simp)
        (by simp) hNames hOthers hLines

variable (directory : Path)

/-
  The text of a composed module determines its root and the
  elements that are no spellings of the root; the text of an
  index determines its elements.
-/
theorem modules_determine :
    (∀ names others root other,
      (∀ name ∈ root :: names, IsUnquoted name) →
      (∀ name ∈ other :: others, IsUnquoted name) →
        ∃ text otherText,
          Template.composed.render
              (composedContext settings directory names
                (some root)) =
            .ok text ∧
          Template.composed.render
              (composedContext settings directory others
                (some other)) =
            .ok otherText ∧
          (text = otherText ↔
            root = other ∧
              besideRoot (normalize directory.name) names =
                besideRoot (normalize directory.name)
                  others)) ∧
    ∀ names others,
      (∀ name ∈ names, IsUnquoted name) →
      (∀ name ∈ others, IsUnquoted name) →
        ∃ text otherText,
          Template.barrelIndex.render
              (indexContext settings names) =
            .ok text ∧
          Template.barrelIndex.render
              (indexContext settings others) =
            .ok otherText ∧
          (text = otherText ↔ names = others) := by
  have hBeside :
      ∀ {root : String} {names : List String},
        (∀ name ∈ root :: names, IsUnquoted name) →
        ∀ name ∈ root ::
            besideRoot (normalize directory.name) names,
          IsUnquoted name := by
    intro root names hNames
    rcases List.forall_mem_cons.mp hNames with
      ⟨hRoot, hNames⟩
    exact List.forall_mem_cons.mpr ⟨hRoot, fun name hName =>
      hNames name (List.mem_of_mem_filter hName)⟩
  constructor
  · intro names others root other hNames hOthers
    rcases rootAlias_isRootAlias settings directory.name names
      with ⟨rounds, hAlias⟩
    rcases rootAlias_isRootAlias settings directory.name
      others with ⟨otherRounds, hOtherAlias⟩
    refine ⟨_, _, render_composed settings directory names root,
      render_composed settings directory others other, ?_, ?_⟩
    · exact fun hSame =>
        composedLines_injective settings
          (normalize directory.name) hAlias.spelled
          hOtherAlias.spelled (hBeside hNames)
          (hBeside hOthers) hSame
    · rintro ⟨hRoot, hNames⟩
      unfold rootNameOf properties
      rw [hRoot, hNames]
  · intro names others hNames hOthers
    refine ⟨_, _, render_index settings names,
      render_index settings others, ?_, ?_⟩
    · exact indexLines_injective settings hNames hOthers
    · intro hNames
      rw [hNames]

/-
  Two spellings of the root leave the same elements behind,
  so the modules are the same.  An index without elements is
  not the index of one element.
-/
theorem modules_determine_spellings :
    let settings := Settings.standard
    let directory := Path.ofString "lib/date-picker"
    (∃ text,
      Template.composed.render
          (composedContext settings directory
            ["date-picker", "group"] (some "date-picker.ts")) =
        .ok text ∧
      Template.composed.render
          (composedContext settings directory
            ["group", "date_picker"] (some "date-picker.ts")) =
        .ok text) ∧
    ∃ text otherText,
      Template.barrelIndex.render (indexContext settings []) =
        .ok text ∧
      Template.barrelIndex.render
          (indexContext settings ["group"]) =
        .ok otherText ∧
      text ≠ otherText := by
  intro settings directory
  rcases modules_determine settings directory with
    ⟨hComposed, hIndex⟩
  rcases hComposed ["date-picker", "group"]
      ["group", "date_picker"] "date-picker.ts"
      "date-picker.ts" (by decide +kernel)
      (by decide +kernel) with
    ⟨text, otherText, hText, hOtherText, hSame⟩
  rcases hIndex [] ["group"] (by decide) (by decide) with
    ⟨index, otherIndex, hEmpty, hGroup, hApart⟩
  have hTexts := hSame.mpr ⟨rfl, by decide +kernel⟩
  exact ⟨⟨text, hText, by rw [hTexts]; exact hOtherText⟩,
    index, otherIndex, hEmpty, hGroup,
    fun hEqual => absurd (hApart.mp hEqual) (by decide)⟩

end Aggregation
