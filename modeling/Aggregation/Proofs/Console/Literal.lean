import Aggregation.Console.Terminal
import Aggregation.Proofs.Console.Wrap

/-
  Messages that are shown as they are.

  An escaped message stands between the tags of its manner.
  A bracket of the message never joins with a tag, neither
  one that is escaped nor one that opens no tag, so reading
  the markup gives the message back.  Names of emoji between
  colons are not read as such here.

  Key definitions include:
    * `IsStyle`
    * `IsLiteral`

  Key theorems include:
    * `closesTag_escapeFrom`
    * `textOfChunks_escapeFrom`
    * `IsStyle.textOfChunks_between`
    * `Terminal.print_isLiteral`
-/

------------------------------------------------------------
-- Escaping
------------------------------------------------------------

namespace Aggregation

namespace Console

/-
  A bracket that opens a tag is escaped, and no other
  character is.
-/
theorem escapeFrom_cases
    {character : Char}
    (hPlain : '\\' ≠ character)
    (rest : List Char) :
    character = '[' ∧
        escapeFrom 0 (character :: rest) =
          '\\' :: '[' :: escapeFrom 0 rest ∨
      (character = '[' → opensTag rest = false) ∧
        escapeFrom 0 (character :: rest) =
          character :: escapeFrom 0 rest := by
  rw [escapeFrom, if_neg (by simp [hPlain.symm])]
  cases hTag : character == '[' && opensTag rest with
  | true =>
      have hBracket : character = '[' :=
        beq_iff_eq.mp (Bool.and_eq_true_iff.mp hTag).1
      rw [if_pos rfl, hBracket]
      exact .inl ⟨rfl, rfl⟩
  | false =>
      rw [if_neg Bool.false_ne_true]
      refine .inr ⟨?_, rfl⟩
      intro hBracket
      rw [hBracket] at hTag
      exact hTag

/- A text that opens a tag closes it. -/
theorem closesTag_of_opensTag
    {text : List Char}
    (hOpens : opensTag text = true) :
    closesTag text = true := by
  cases text with
  | nil => exact hOpens
  | cons first rest =>
      rcases Bool.and_eq_true_iff.mp hOpens with
        ⟨hStarts, hCloses⟩
      unfold closesTag
      split
      · rfl
      · split
        · rename_i hBracket
          rw [beq_iff_eq.mp hBracket] at hStarts
          exact absurd hStarts (by decide)
        · exact hCloses

variable {text after : List Char}

/-
  Escaping neither closes a tag nor opens one.  A backslash
  is passed over, and the bracket behind it still ends the
  search.
-/
theorem closesTag_escapeFrom
    (hText : '\\' ∉ text)
    (hAfter : closesTag after = false) :
    closesTag (escapeFrom 0 text ++ after) =
      closesTag text := by
  induction text with
  | nil => exact hAfter
  | cons first rest ih =>
      rw [List.mem_cons, not_or] at hText
      rcases escapeFrom_cases hText.1 rest with
        ⟨hBracket, hEscaped⟩ | ⟨_, hEscaped⟩
      · rw [hEscaped, hBracket]
        rfl
      · rw [hEscaped, List.cons_append, closesTag, closesTag,
          ih hText.2]

/- A bracket that opens no tag opens none when escaped. -/
theorem opensTag_escapeFrom
    (hText : '\\' ∉ text)
    (hAfter : closesTag after = false)
    (hPlain : opensTag text = false) :
    opensTag (escapeFrom 0 text ++ after) = false := by
  cases text with
  | nil =>
      rw [← Bool.not_eq_true]
      intro hOpens
      have hCloses : closesTag after = true :=
        closesTag_of_opensTag hOpens
      rw [hAfter] at hCloses
      exact Bool.false_ne_true hCloses
  | cons first rest =>
      rw [List.mem_cons, not_or] at hText
      rcases escapeFrom_cases hText.1 rest with
        ⟨_, hEscaped⟩ | ⟨_, hEscaped⟩
      · rw [hEscaped]
        rfl
      · rw [hEscaped, List.cons_append, opensTag,
          closesTag_escapeFrom hText.2 hAfter]
        exact hPlain

/- Escaping leaves the last character where it is. -/
theorem getLast?_escapeFrom
    (hText : '\\' ∉ text) :
    (escapeFrom 0 text).getLast? = text.getLast? := by
  induction text with
  | nil => rfl
  | cons first rest ih =>
      rw [List.mem_cons, not_or] at hText
      rcases escapeFrom_cases hText.1 rest with
        ⟨hBracket, hEscaped⟩ | ⟨_, hEscaped⟩
      · rw [hEscaped, hBracket, List.getLast?_cons,
          List.getLast?_cons, List.getLast?_cons, ih hText.2]
        rfl
      · rw [hEscaped, List.getLast?_cons,
          List.getLast?_cons, ih hText.2]

/- Without a backslash at the end, none is doubled. -/
theorem escape_eq
    (hText : '\\' ∉ text) :
    escape text = escapeFrom 0 text := by
  have hLast : (escapeFrom 0 text).getLast? ≠ some '\\' := by
    rw [getLast?_escapeFrom hText]
    exact fun hLast => hText (List.mem_of_getLast? hLast)
  rw [← List.head?_reverse] at hLast
  have hNone : slashesAtEnd (escapeFrom 0 text) = 0 := by
    unfold slashesAtEnd
    cases hReverse : (escapeFrom 0 text).reverse with
    | nil => rfl
    | cons last others =>
        rw [hReverse, List.head?_cons] at hLast
        rw [List.takeWhile_cons_of_neg
          (by simpa using hLast), List.length_nil]
  unfold escape
  simp only
  rw [if_neg (by omega)]

------------------------------------------------------------
-- Reading
------------------------------------------------------------

/- A character that is no bracket and no backslash. -/
theorem chunksFrom_other
    {character : Char}
    (hPlain : character ≠ '\\')
    (hBracket : character ≠ '[')
    (position : Nat)
    (rest : List Char) :
    chunksFrom (.outside 0) position (character :: rest) =
      .text [character] ::
        chunksFrom (.outside 0) (position + 1) rest := by
  rw [chunksFrom, if_neg (by simp [hPlain]),
    if_neg (by simp [hBracket])]
  rfl

/- A bracket that opens no tag. -/
theorem chunksFrom_bracket
    {rest : List Char}
    (hPlain : opensTag rest = false)
    (position : Nat) :
    chunksFrom (.outside 0) position ('[' :: rest) =
      .text ['['] ::
        chunksFrom (.outside 0) (position + 1) rest := by
  rw [chunksFrom, if_neg (by decide), if_pos (by decide),
    hPlain, if_neg Bool.false_ne_true]
  rfl

/- A bracket behind one backslash, tag or not. -/
theorem chunksFrom_escaped
    (position : Nat)
    (rest : List Char) :
    chunksFrom (.outside 0) position ('\\' :: '[' :: rest) =
      .text ['['] ::
        chunksFrom (.outside 0) (position + 2) rest := by
  rw [chunksFrom, if_pos (by decide), chunksFrom,
    if_neg (by decide), if_pos (by decide)]
  split <;> rfl

/- Text of chunks with another text in front. -/
theorem textOfChunks_text
    (openTags : List String)
    (characters : List Char)
    (rest : List Chunk) :
    textOfChunks openTags (.text characters :: rest) =
      (textOfChunks openTags rest).map
        (characters ++ ·) := by
  rw [textOfChunks]
  cases textOfChunks openTags rest with
  | error error => rfl
  | ok others => rfl

/-
  An escaped text is read as itself, whatever follows, as
  long as that closes no tag.
-/
theorem textOfChunks_escapeFrom
    (hText : '\\' ∉ text)
    (hAfter : closesTag after = false)
    (openTags : List String)
    (position : Nat) :
    ∃ later,
      textOfChunks openTags
          (chunksFrom (.outside 0) position
            (escapeFrom 0 text ++ after)) =
        (textOfChunks openTags
          (chunksFrom (.outside 0) later after)).map
            (text ++ ·) := by
  induction text generalizing position with
  | nil =>
      refine ⟨position, ?_⟩
      cases hLater : textOfChunks openTags
          (chunksFrom (.outside 0) position after) with
      | error error => exact hLater
      | ok others => exact hLater
  | cons first rest ih =>
      rw [List.mem_cons, not_or] at hText
      -- One character is read, and the rest by induction.
      have hStep :
          ∀ chunksHere : List Chunk, ∀ next,
            chunksHere =
                .text [first] ::
                  chunksFrom (.outside 0) next
                    (escapeFrom 0 rest ++ after) →
              ∃ later,
                textOfChunks openTags chunksHere =
                  (textOfChunks openTags
                    (chunksFrom (.outside 0) later
                      after)).map (first :: rest ++ ·) := by
        intro chunksHere next hChunks
        rcases ih hText.2 next with ⟨later, hRest⟩
        refine ⟨later, ?_⟩
        rw [hChunks, textOfChunks_text, hRest]
        cases textOfChunks openTags
            (chunksFrom (.outside 0) later after) with
        | error error => rfl
        | ok others => rfl
      rcases escapeFrom_cases hText.1 rest with
        ⟨hBracket, hEscaped⟩ | ⟨hOther, hEscaped⟩
      · rw [hEscaped]
        rw [hBracket] at hStep ⊢
        exact hStep _ (position + 2)
          (chunksFrom_escaped position _)
      · rw [hEscaped]
        by_cases hBracket : first = '['
        · have hPlain := hOther hBracket
          rw [hBracket] at hStep ⊢
          exact hStep _ (position + 1)
            (chunksFrom_bracket
              (opensTag_escapeFrom hText.2 hAfter hPlain)
              position)
        · exact hStep _ (position + 1)
            (chunksFrom_other (Ne.symm hText.1) hBracket
              position _)

------------------------------------------------------------
-- Tags
------------------------------------------------------------

/- A tag is read up to its closing bracket. -/
theorem chunksFrom_inside
    {more : List Char}
    (hMore : ']' ∉ more)
    (start : Nat)
    (content : List Char)
    (position : Nat)
    (rest : List Char) :
    ∃ later,
      chunksFrom (.inside start content) position
          (more ++ ']' :: rest) =
        .tag start (content ++ more) ::
          chunksFrom (.outside 0) later rest := by
  induction more generalizing content position with
  | nil =>
      refine ⟨position + 1, ?_⟩
      rw [List.nil_append, List.append_nil, chunksFrom,
        if_pos (by decide)]
  | cons first more ih =>
      rw [List.mem_cons, not_or] at hMore
      rcases ih hMore.2 (content ++ [first]) (position + 1)
        with ⟨later, hLater⟩
      refine ⟨later, ?_⟩
      rw [List.cons_append, chunksFrom,
        if_neg (by simp [Ne.symm hMore.1]), hLater,
        List.append_assoc, List.singleton_append]

/- A tag closes if no other bracket is in it. -/
theorem closesTag_of_plain
    {content : List Char}
    (hContent : '[' ∉ content)
    (rest : List Char) :
    closesTag (content ++ ']' :: rest) = true := by
  induction content with
  | nil => rfl
  | cons first content ih =>
      rw [List.mem_cons, not_or] at hContent
      rw [List.cons_append, closesTag, ih hContent.2,
        if_neg (c := (first == '[') = true)
          (by simp [Ne.symm hContent.1])]
      split <;> rfl

/- The content of a tag. -/
structure IsTag (content : List Char) : Prop where
  starts : content.head?.any startsTag = true
  apart : '[' ∉ content ∧ ']' ∉ content

/- A tag is read as a tag. -/
theorem chunksFrom_tag
    {content : List Char}
    (hContent : IsTag content)
    (position : Nat)
    (rest : List Char) :
    ∃ later,
      chunksFrom (.outside 0) position
          ('[' :: (content ++ ']' :: rest)) =
        .text [] :: .tag position content ::
          chunksFrom (.outside 0) later rest := by
  have hOpens : opensTag (content ++ ']' :: rest) = true := by
    cases content with
    | nil => exact absurd hContent.starts (by decide)
    | cons first content =>
        have hPlain : '[' ∉ content := fun hMark =>
          hContent.apart.1 (List.mem_cons_of_mem first hMark)
        rw [List.cons_append, opensTag,
          closesTag_of_plain hPlain]
        simpa using hContent.starts
  rcases chunksFrom_inside hContent.apart.2 position []
      (position + 1) rest with
    ⟨later, hLater⟩
  refine ⟨later, ?_⟩
  rw [chunksFrom, if_neg (by decide), if_pos (by decide),
    hOpens, if_pos rfl, if_pos (by decide), hLater]
  rfl

------------------------------------------------------------
-- Messages
------------------------------------------------------------

/- The end of markup is an empty text. -/
theorem textOfChunks_end
    (openTags : List String)
    (position : Nat) :
    textOfChunks openTags
        (chunksFrom (.outside 0) position []) =
      .ok [] :=
  rfl

/- An escaped text shows itself. -/
theorem textOfChunks_escape
    (hText : '\\' ∉ text) :
    textOfChunks [] (chunks (escape text)) = .ok text := by
  have hNothing : closesTag [] = false := rfl
  rcases textOfChunks_escapeFrom hText hNothing [] 0 with
    ⟨later, hShown⟩
  rw [List.append_nil, textOfChunks_end] at hShown
  rw [escape_eq hText, chunks, hShown, Except.map,
    List.append_nil]

/-
  The name of a style that can stand in a tag, as itself and
  behind a slash.
-/
structure IsStyle (style : List Char) : Prop where
  opening : IsTag style
  closing : IsTag ('/' :: style)
  unslashed : (style.head? == some '/') = false
  named : tagName style = style
  trimmed : Text.trim Text.isBlank style = style

/- A tag closes the one that was opened by its name. -/
theorem IsStyle.closeTag_own
    {style : List Char}
    (hStyle : IsStyle style)
    (position : Nat) :
    closeTag [styleName style] position
        ('/' :: style) =
      .ok [] := by
  have hSome : style.isEmpty = false := by
    cases style with
    | nil => exact absurd hStyle.opening.starts (by decide)
    | cons first rest => rfl
  have hClosing : (tagName ('/' :: style)).drop 1 = style := by
    have hNamed := hStyle.named
    unfold tagName at hNamed ⊢
    rw [List.takeWhile_cons_of_pos (by decide), hNamed]
    rfl
  unfold closeTag
  simp only [hClosing, hStyle.trimmed, hSome,
    Bool.false_eq_true, if_false, List.contains_eq_mem,
    List.mem_singleton, decide_true, if_true,
    List.erase_cons_head]

/-
  An escaped text between tags shows itself.  The closing
  tag starts with a bracket, so it closes no tag that the
  text has left open.
-/
theorem IsStyle.textOfChunks_between
    {style : List Char}
    (hStyle : IsStyle style)
    (hText : '\\' ∉ text) :
    textOfChunks []
        (chunks ('[' :: (style ++ ']' ::
          (escapeFrom 0 text ++
            '[' :: ('/' :: style ++ ']' :: []))))) =
      .ok text := by
  have hAfter :
      closesTag ('[' :: ('/' :: style ++ ']' :: [])) =
        false :=
    rfl
  rcases chunksFrom_tag hStyle.opening 0
      (escapeFrom 0 text ++
        '[' :: ('/' :: style ++ ']' :: [])) with
    ⟨first, hFirst⟩
  rcases textOfChunks_escapeFrom hText hAfter
      [styleName style] first with
    ⟨second, hSecond⟩
  rcases chunksFrom_tag hStyle.closing second [] with
    ⟨third, hThird⟩
  have hClosed :
      textOfChunks [styleName style]
          (chunksFrom (.outside 0) second
            ('[' :: ('/' :: style ++ ']' :: []))) =
        .ok [] := by
    rw [hThird, textOfChunks, textOfChunks,
      if_pos (by rfl), hStyle.closeTag_own]
    rfl
  rw [chunks, hFirst, textOfChunks,
    textOfChunks, hStyle.unslashed,
    if_neg Bool.false_ne_true, hStyle.named, hSecond,
    hClosed, Except.map, List.append_nil]
  rfl

/- Manners are named by styles. -/
theorem Manner.isStyle (manner : Manner) :
    IsStyle manner.style.toList := by
  cases manner <;>
    exact ⟨⟨by decide, by decide⟩, ⟨by decide, by decide⟩,
      by decide, by decide, by decide⟩

/- A message in a manner shows itself. -/
theorem Manner.textOfChunks_markup
    (manner : Manner)
    {message : String}
    (hText : '\\' ∉ message.toList) :
    textOfChunks []
        (chunks (manner.markup message)) =
      .ok message.toList := by
  rw [← manner.isStyle.textOfChunks_between hText]
  unfold Manner.markup
  rw [escape_eq hText]
  simp only [String.toList_append, List.append_assoc]
  rfl

------------------------------------------------------------
-- Terminals
------------------------------------------------------------

/-
  A message that a terminal can show as it is: printable
  characters without backslashes that fit on one line.
-/
structure IsLiteral (width : Nat) (message : String) :
    Prop where
  printable :
    ∀ character ∈ message.toList, IsPrintable character
  unescaped : '\\' ∉ message.toList
  fits : message.length ≤ width

/- The characters of a message are looked at one by one. -/
instance (width : Nat) (message : String) :
    Decidable (IsLiteral width message) :=
  decidable_of_iff
    (message.toList.all (fun character =>
        decide (IsPrintable character)) = true ∧
      '\\' ∉ message.toList ∧ message.length ≤ width)
    ⟨fun ⟨hPrintable, hPlain, hFits⟩ =>
      ⟨fun character hCharacter =>
        of_decide_eq_true
          (List.all_eq_true.mp hPrintable character
            hCharacter),
        hPlain, hFits⟩,
    fun hLiteral =>
      ⟨List.all_eq_true.mpr fun character hCharacter =>
        decide_eq_true
          (hLiteral.printable character hCharacter),
        hLiteral.unescaped, hLiteral.fits⟩⟩

/- Notices that consist of a message. -/
inductive IsMessage (message : String) : Notice → Prop where
  | info : IsMessage message (.info message)
  | success : IsMessage message (.success message)
  | warning : IsMessage message (.warning message)
  | error : IsMessage message (.error message)

namespace Terminal

/- Markup that shows a message is printed as the message. -/
theorem printMarkup_of_isLiteral
    (terminal : Terminal)
    {message : String}
    {markup : List Char}
    (hWidth : 0 < terminal.width)
    (hLiteral : IsLiteral terminal.width message)
    (hShown :
      textOfChunks [] (chunks markup) =
        .ok message.toList) :
    terminal.printMarkup id markup =
      .ok (message ++ "\n") := by
  have hText : plainText markup = .ok message.toList := by
    unfold plainText
    rw [hShown, Except.map,
      clean_of_printable hLiteral.printable]
  have hLines :
      (Layout.message terminal.width).lines message.toList =
        [message.toList] :=
    Layout.lines_of_fits hWidth hLiteral.printable
      (by rw [String.length_toList]; exact hLiteral.fits)
  have hLine :
      textOfLines [message.toList] = message ++ "\n" := by
    apply String.toList_inj.mp
    rw [textOfLines, List.flatMap_singleton,
      String.toList_ofList, String.toList_append]
    rfl
  unfold printMarkup
  rw [hText]
  simp only [hLines, List.map_id, hLine]

/-
  A message that fits on a line is printed as it is and
  never fails, whichever brackets it holds.
-/
theorem print_isLiteral
    (terminal : Terminal)
    (message : String)
    (notice : Notice)
    (hPlain : terminal.coloured = false)
    (hWidth : 0 < terminal.width)
    (hLiteral : IsLiteral terminal.width message)
    (hNotice : IsMessage message notice) :
    terminal.print notice = .ok (message ++ "\n") := by
  have hInfo :
      terminal.printPlain message =
        .ok (message ++ "\n") :=
    terminal.printMarkup_of_isLiteral hWidth hLiteral
      (textOfChunks_escape hLiteral.unescaped)
  have hStyled :
      ∀ manner,
        terminal.printStyled manner message =
          .ok (message ++ "\n") := by
    intro manner
    unfold printStyled
    rw [hPlain, if_neg Bool.false_ne_true]
    exact terminal.printMarkup_of_isLiteral hWidth hLiteral
      (manner.textOfChunks_markup hLiteral.unescaped)
  unfold print
  rw [if_neg (Nat.ne_of_gt hWidth)]
  cases hNotice with
  | info => exact hInfo
  | success => exact hStyled .success
  | warning => exact hStyled .warning
  | error => exact hStyled .error

/- A message with tags at both of its ends. -/
theorem print_isLiteral_brackets :
    let terminal : Terminal := ⟨24, false⟩
    let message := "[/bold red] a[[b]@c [#"
    IsLiteral terminal.width message ∧
      terminal.print (.error message) =
        .ok (message ++ "\n") := by
  intro terminal message
  have hLiteral : IsLiteral terminal.width message := by
    decide
  exact ⟨hLiteral,
    print_isLiteral terminal message _ rfl (by decide)
      hLiteral .error⟩

/- Without any width, not even an empty line is printed. -/
theorem print_not_isLiteral_withoutWidth :
    ¬ ∀ (terminal : Terminal) (message : String)
        (notice : Notice),
      terminal.coloured = false →
      IsLiteral terminal.width message →
      IsMessage message notice →
        terminal.print notice = .ok (message ++ "\n") := by
  intro hAll
  have hPrinted :=
    hAll ⟨0, false⟩ "" (.info "") rfl (by decide) .info
  injection hPrinted with hText
  exact absurd hText (by decide)

end Terminal

end Console

end Aggregation
