import Aggregation.Duration
import Aggregation.Number.Reading
import Aggregation.Proofs.Number.Rational
import Mathlib.Algebra.Order.Floor.Semifield
import Mathlib.Data.Rat.Floor
import Mathlib.Tactic.FieldSimp
import Mathlib.Tactic.NormNum

/-
  Durations and the texts that show them.

  A text denotes a number of seconds, which is near to the
  duration that it shows.  Longer durations never have texts
  that denote less.

  Key definitions include:
    * `readDuration`
    * `millisecondsOf`
    * `tenthsOf`
    * `shownSeconds`

  Key theorems include:
    * `millisecondsOf_near`
    * `millisecondsOf_lt`
    * `tenthsOf_near`
    * `shownSeconds_mono`
    * `durationText_mono`
    * `durationText_isFaithful`
-/

------------------------------------------------------------
-- Reading
------------------------------------------------------------

namespace Aggregation

open Number

/-
  The seconds that a text denotes: a whole number of
  milliseconds, or seconds with one decimal place.
-/
def readDuration (text : String) : Option ℚ :=
  let digits := text.toList.takeWhile Char.isDigit
  if digits.isEmpty then
    none
  else
    match text.toList.dropWhile Char.isDigit with
    | ['m', 's'] => some (digitsValue 0 digits / 1000)
    | ['.', tenth, 's'] =>
        if tenth.isDigit then
          some (digitsValue 0 digits +
            digitsValue 0 [tenth] / 10)
        else
          none
    | _ => none

/- A number is the value of its decimal digits. -/
theorem digitsValue_toString (number : Nat) :
    digitsValue 0 (toString number).toList = number := by
  have hStep :
      ∀ digits start,
        digitsValue start digits =
          Nat.ofDigitChars 10 digits start := by
    intro digits start
    unfold digitsValue
    rw [Nat.ofDigitChars_eq_foldl]
    simp only [Nat.mul_comm]
    rfl
  rw [hStep, Nat.toString_eq_repr, Nat.toList_repr,
    Nat.ofDigitChars_ten_toDigits]

/- Digits end where a character is no digit. -/
theorem span_toString
    (number : Nat)
    (first : Char)
    (hFirst : first.isDigit = false)
    (rest : List Char) :
    let text := (toString number).toList ++ first :: rest
    text.takeWhile Char.isDigit = (toString number).toList ∧
      text.dropWhile Char.isDigit = first :: rest := by
  have hDigits :
      ∀ digit ∈ (toString number).toList, digit.isDigit := by
    intro digit hDigit
    rw [Nat.toString_eq_repr, Nat.toList_repr] at hDigit
    exact Nat.isDigit_of_mem_toDigits (by decide) (by decide)
      hDigit
  constructor
  · rw [List.takeWhile_append_of_pos hDigits,
      List.takeWhile_cons_of_neg (by simp [hFirst]),
      List.append_nil]
  · rw [List.dropWhile_append_of_pos hDigits,
      List.dropWhile_cons_of_neg (by simp [hFirst])]

theorem isEmpty_toString (number : Nat) :
    (toString number).toList.isEmpty = false := by
  rw [Nat.toString_eq_repr, Nat.toList_repr,
    List.isEmpty_eq_false_iff]
  exact Nat.toDigits_ne_nil

theorem readDuration_milliseconds (count : Nat) :
    readDuration (toString count ++ "ms") =
      some (count / 1000 : ℚ) := by
  have hText :
      (toString count ++ "ms").toList =
        (toString count).toList ++ 'm' :: ['s'] := by
    rw [String.toList_append]
    rfl
  rcases span_toString count 'm' (by decide) ['s'] with
    ⟨hDigits, hRest⟩
  unfold readDuration
  simp only [hText, hDigits, hRest, isEmpty_toString,
    digitsValue_toString, Bool.false_eq_true, if_false]

/- Durations below zero are shown as nothing. -/
theorem readDuration_zero : readDuration "0ms" = some 0 := by
  have hRead := readDuration_milliseconds 0
  rw [Nat.cast_zero, zero_div] at hRead
  exact hRead

theorem readDuration_tenths
    (whole : Nat)
    {tenth : Nat}
    (hTenth : tenth < 10) :
    readDuration
        (toString whole ++ "." ++ toString tenth ++ "s") =
      some (whole + tenth / 10 : ℚ) := by
  have hDigit :
      (toString tenth).toList = [tenth.digitChar] := by
    rw [Nat.toString_eq_repr, Nat.toList_repr,
      Nat.toDigits_of_lt_base hTenth]
  have hText :
      (toString whole ++ "." ++ toString tenth ++
          "s").toList =
        (toString whole).toList ++
          '.' :: [tenth.digitChar, 's'] := by
    rw [String.toList_append, String.toList_append,
      String.toList_append, hDigit, List.append_assoc,
      List.append_assoc]
    rfl
  have hValue : digitsValue 0 [tenth.digitChar] = tenth := by
    rw [← hDigit, digitsValue_toString]
  rcases span_toString whole '.' (by decide)
      [tenth.digitChar, 's'] with
    ⟨hDigits, hRest⟩
  unfold readDuration
  simp only [hText, hDigits, hRest, isEmpty_toString,
    digitsValue_toString, Bool.false_eq_true, if_false,
    Nat.isDigit_digitChar, hTenth, decide_true, if_true,
    hValue]

------------------------------------------------------------
-- Milliseconds
------------------------------------------------------------

/- Milliseconds that are shown for less than a second. -/
def millisecondsOf (units : Nat) : Nat :=
  nearestUnits (units * 1000) 1 / unitsPerOne

/- Small whole numbers are significant. -/
theorem isSignificant_whole
    {count : Nat}
    (hCount : count < 2 ^ 53) :
    IsSignificant (count * unitsPerOne) :=
  ⟨count, 1074, hCount,
    congrArg (count * ·) (by decide +kernel)⟩

/- Rounding never goes beyond a whole number of units. -/
theorem millisecondsOf_near
    {units : Nat}
    (hBelow : units < unitsPerOne) :
    let floor := units * 1000 / unitsPerOne
    floor ≤ millisecondsOf units ∧
      millisecondsOf units ≤ floor + 1 := by
  intro floor
  have hFloor : floor < 1000 :=
    Nat.div_lt_of_lt_mul
      (Nat.mul_lt_mul_of_pos_right hBelow (by decide))
  have hWhole :
      ∀ count, count ≤ 1000 →
        nearestUnits (count * unitsPerOne) 1 =
          count * unitsPerOne :=
    fun count hCount =>
      (nearestUnits_isNearest _).exact
        (isSignificant_whole (by omega))
  have hMono :
      ∀ {less more}, less ≤ more →
        nearestUnits less 1 ≤ nearestUnits more 1 :=
    fun hLess => (nearestUnits_isNearest _).mono
      (nearestUnits_isNearest _) hLess
  constructor
  · apply (Nat.le_div_iff_mul_le unitsPerOne_pos).mpr
    rw [← hWhole floor (by omega)]
    exact hMono (Nat.div_mul_le_self _ _)
  · apply Nat.div_le_of_le_mul
    rw [Nat.mul_comm unitsPerOne,
      ← hWhole (floor + 1) (by omega)]
    apply hMono
    rw [Nat.add_mul, Nat.one_mul]
    exact (Nat.lt_div_mul_add unitsPerOne_pos).le

/-
  The units below a second end before the last place that
  a number just below a thousand seconds has, so that a
  product is never rounded up to a thousand.
-/
theorem product_lt
    {units : Nat}
    (hUnits : IsSignificant units)
    (hBelow : units < unitsPerOne) :
    nearestUnits (units * 1000) 1 < 1000 * unitsPerOne := by
  have hOne : unitsPerOne = 2 ^ 53 * 2 ^ 1021 := by
    decide +kernel
  have hTop :
      IsSignificant
        (1000 * (2 ^ 53 * 2 ^ 1021) - 1024 * 2 ^ 1021) :=
    ⟨1000 * 2 ^ 43 - 1, 1031, by decide, by decide +kernel⟩
  have hGap : units + 2 ^ 1021 ≤ unitsPerOne := by
    rcases hUnits.dvd_or_lt 1021 with hWhole | ⟨_, hLess⟩
    · have hApart :=
        le_dist_of_dvd hWhole
          (hOne ▸ Nat.dvd_mul_left (2 ^ 1021) (2 ^ 53))
          (Nat.ne_of_lt hBelow)
      rw [Nat.dist_eq_sub_of_le hBelow.le] at hApart
      omega
    · have hHalf :
          2 ^ (52 + 1021) + 2 ^ 1021 ≤ unitsPerOne := by
        decide +kernel
      omega
  have hNear :=
    (nearestUnits_isNearest (units * 1000)).nearest _ hTop
  rw [hOne] at hBelow hGap ⊢
  generalize 2 ^ 1021 = step at *
  unfold Nat.dist at hNear
  omega

theorem millisecondsOf_lt
    {units : Nat}
    (hUnits : IsSignificant units)
    (hBelow : units < unitsPerOne) :
    millisecondsOf units < 1000 := by
  have hProduct := product_lt hUnits hBelow
  rw [Nat.mul_comm 1000] at hProduct
  exact Nat.div_lt_of_lt_mul hProduct

theorem millisecondsOf_mono
    {units others : Nat}
    (hLess : units ≤ others) :
    millisecondsOf units ≤ millisecondsOf others :=
  Nat.div_le_div_right
    ((nearestUnits_isNearest _).mono
      (nearestUnits_isNearest _)
      (Nat.mul_le_mul_right 1000 hLess))

------------------------------------------------------------
-- Tenths
------------------------------------------------------------

/- Tenths that are shown from one second on. -/
def tenthsOf (units : Nat) : Nat :=
  roundDiv (units * 10) unitsPerOne

theorem tenthsOf_mono
    {units others : Nat}
    (hLess : units ≤ others) :
    tenthsOf units ≤ tenthsOf others :=
  Nat.le_of_mul_le_mul_right
    ((roundDiv_isNearest _ unitsPerOne_pos).mono
      (roundDiv_isNearest _ unitsPerOne_pos)
      (Nat.mul_le_mul_right 10 hLess))
    unitsPerOne_pos

/- Ten tenths are shown for one second. -/
theorem tenthsOf_one : tenthsOf unitsPerOne = 10 := by
  have hExact :=
    (roundDiv_isNearest (unitsPerOne * 10)
      unitsPerOne_pos).exact (Nat.dvd_mul_right _ _)
  rw [Nat.mul_comm unitsPerOne 10] at hExact
  unfold tenthsOf
  rw [Nat.mul_comm unitsPerOne 10]
  exact Nat.eq_of_mul_eq_mul_right unitsPerOne_pos hExact

/- The error of tenths, in rationals. -/
theorem abs_tenthsOf_sub (units : Nat) :
    |(tenthsOf units / 10 : ℚ) - rationalOf units| =
      rationalOf (2 * Nat.dist (tenthsOf units * unitsPerOne)
        (units * 10)) / 20 := by
  have hUnit := cast_unitsPerOne_pos.ne'
  have hTenths :
      (tenthsOf units / 10 : ℚ) - rationalOf units =
        (rationalOf (tenthsOf units * unitsPerOne) -
          rationalOf (units * 10)) / 10 := by
    unfold rationalOf
    rw [Nat.cast_mul, Nat.cast_mul]
    field_simp
    push_cast
    ring
  rw [hTenths, abs_div, abs_rationalOf_sub]
  unfold rationalOf
  rw [Nat.cast_mul, abs_of_pos (by norm_num : (0 : ℚ) < 10)]
  push_cast
  ring

theorem rationalOf_one : rationalOf unitsPerOne = 1 :=
  div_self cast_unitsPerOne_pos.ne'

/- Tenths are at most half a tenth off. -/
theorem tenthsOf_near (units : Nat) :
    |(tenthsOf units / 10 : ℚ) - rationalOf units| ≤
      1 / 20 := by
  rw [abs_tenthsOf_sub, ← rationalOf_one]
  apply div_le_div_of_nonneg_right _ (by norm_num)
  exact rationalOf_le_iff.mpr
    (roundDiv_near (units * 10) unitsPerOne_pos)

/- Tenths are even where they are half a tenth off. -/
theorem tenthsOf_even
    {units : Nat}
    (hHalf :
      |(tenthsOf units / 10 : ℚ) - rationalOf units| =
        1 / 20) :
    2 ∣ tenthsOf units := by
  apply roundDiv_even unitsPerOne_pos
  apply rationalOf_inj.mp
  rw [abs_tenthsOf_sub, ← rationalOf_one,
    div_left_inj' (by norm_num)] at hHalf
  exact hHalf

------------------------------------------------------------
-- Texts
------------------------------------------------------------

/- The text of a duration that is not below zero. -/
def shownText (units : Nat) : String :=
  if units < unitsPerOne then
    toString (millisecondsOf units) ++ "ms"
  else
    toString (tenthsOf units / 10) ++ "." ++
      toString (tenthsOf units % 10) ++ "s"

/- The seconds that this text denotes. -/
def shownSeconds (units : Nat) : ℚ :=
  if units < unitsPerOne then
    millisecondsOf units / 1000
  else
    tenthsOf units / 10

/- The decimal places of tenths are the tenths. -/
theorem whole_add_tenth (tenths : Nat) :
    ((tenths / 10 : Nat) + (tenths % 10 : Nat) / 10 : ℚ) =
      tenths / 10 :=
  calc
    ((tenths / 10 : Nat) + (tenths % 10 : Nat) / 10 : ℚ) =
        (10 * (tenths / 10) + tenths % 10 : Nat) / 10 := by
      push_cast
      ring
    _ = tenths / 10 := by
      rw [Nat.div_add_mod]

theorem readDuration_shownText (units : Nat) :
    readDuration (shownText units) =
      some (shownSeconds units) := by
  unfold shownText shownSeconds
  split_ifs
  · exact readDuration_milliseconds (millisecondsOf units)
  · rw [readDuration_tenths _ (Nat.mod_lt _ (by decide))]
    rw [whole_add_tenth]

theorem shownSeconds_nonneg (units : Nat) :
    0 ≤ shownSeconds units := by
  unfold shownSeconds
  split_ifs
  · exact div_nonneg (Nat.cast_nonneg _) (by norm_num)
  · exact div_nonneg (Nat.cast_nonneg _) (by norm_num)

/- Less than a second is never shown as a second. -/
theorem shownSeconds_mono
    {units others : Nat}
    (hUnits : IsSignificant units)
    (hLess : units ≤ others) :
    shownSeconds units ≤ shownSeconds others := by
  unfold shownSeconds
  by_cases hBelow : units < unitsPerOne
  · rw [if_pos hBelow]
    by_cases hOther : others < unitsPerOne
    · rw [if_pos hOther]
      exact div_le_div_of_nonneg_right
        (Nat.cast_le.mpr (millisecondsOf_mono hLess))
        (by norm_num)
    · rw [if_neg hOther]
      have hSecond := tenthsOf_mono (Nat.le_of_not_lt hOther)
      rw [tenthsOf_one] at hSecond
      calc
        (millisecondsOf units / 1000 : ℚ) ≤ 1000 / 1000 :=
          div_le_div_of_nonneg_right
            (Nat.cast_le_ofNat.mpr
              (millisecondsOf_lt hUnits hBelow).le)
            (by norm_num)
        _ = 10 / 10 := by norm_num
        _ ≤ tenthsOf others / 10 :=
          div_le_div_of_nonneg_right
            (Nat.ofNat_le_cast.mpr hSecond) (by norm_num)
  · rw [if_neg hBelow, if_neg (by omega)]
    exact div_le_div_of_nonneg_right
      (Nat.cast_le.mpr (tenthsOf_mono hLess)) (by norm_num)

/- A digit stands as it is. -/
theorem padDigits_one
    {digit : Nat}
    (hDigit : digit < 10) :
    padDigits 1 digit = toString digit := by
  have hLength : (toString digit).length = 1 := by
    rw [← String.length_toList, Nat.toString_eq_repr,
      Nat.toList_repr, Nat.toDigits_of_lt_base hDigit]
    rfl
  unfold padDigits
  simp only [hLength, Nat.sub_self, List.replicate_zero]
  rw [String.ofList_nil, String.empty_append]

/- A finite number that is not below zero. -/
theorem durationText_finite
    {negative : Bool}
    {units : Nat}
    (hUnits : Representable units)
    (hSign : (negative && units != 0) = false) :
    durationText (.finite negative units hUnits) =
      shownText units := by
  unfold durationText shownText
  simp only [Double.isBelowZero, Double.isBelowOne, hSign,
    Bool.false_eq_true, if_false, Bool.false_or,
    decide_eq_true_eq]
  split_ifs with hBelow
  · have hProduct := product_lt hUnits.significant hBelow
    have hRange :
        nearestUnits (units * 1000) 1 < unitsBound :=
      Nat.lt_trans hProduct (by decide +kernel)
    simp only [Double.times, Double.ofQuotient,
      dif_pos hRange, Double.wholePart, millisecondsOf]
  · have hPositive : negative = false := by
      have hSome := unitsPerOne_pos
      cases negative with
      | false => rfl
      | true => simp at hSign; omega
    have hTen : Nat.pow 10 1 = 10 := rfl
    have hTenth : tenthsOf units % 10 < 10 :=
      Nat.mod_lt _ (by decide)
    have hDigit := padDigits_one hTenth
    unfold tenthsOf at hDigit ⊢
    simp only [hPositive, Double.fixed, fixedText, hTen,
      hDigit, Bool.false_eq_true, if_false,
      String.empty_append]

/- The rational of a number tells its text. -/
theorem durationText_cases
    {number : Double}
    {value : ℚ}
    (hValue : number.rational? = some value) :
    value < 0 ∧ durationText number = "0ms" ∨
      ∃ units,
        Representable units ∧
          value = rationalOf units ∧
          durationText number = shownText units := by
  rcases number.rational?_cases hValue with
    ⟨negative, units, hUnits, hNumber,
      ⟨hSign, hValue⟩ | ⟨hSign, hPositive, hValue⟩⟩
  · right
    rw [hNumber]
    exact ⟨units, hUnits, hValue,
      durationText_finite hUnits hSign⟩
  · left
    rw [hNumber, hValue, neg_lt_zero]
    refine ⟨div_pos (Nat.cast_pos.mpr hPositive)
      cast_unitsPerOne_pos, ?_⟩
    simp only [durationText, Double.isBelowZero, hSign,
      if_true]

------------------------------------------------------------
-- Faithful Durations
------------------------------------------------------------

/- The text of less than a second. -/
structure ShowsMilliseconds
    (seconds : ℚ)
    (text : String)
    (count : Nat) :
    Prop where
  spelled : text = toString count ++ "ms"
  short : count ≤ 999
  floored :
    ∃ product,
      IsNearestDouble (seconds * 1000) product ∧
        count = ⌊product⌋₊
  near :
    count = ⌊seconds * 1000⌋₊ ∨
      count = ⌊seconds * 1000⌋₊ + 1

/- The text of a second and more. -/
structure ShowsTenths
    (seconds : ℚ)
    (text : String)
    (whole tenth : Nat) :
    Prop where
  spelled :
    text = toString whole ++ "." ++ toString tenth ++ "s"
  digit : tenth ≤ 9
  near : |(whole + tenth / 10 : ℚ) - seconds| ≤ 1 / 20
  even :
    |(whole + tenth / 10 : ℚ) - seconds| = 1 / 20 →
      Even tenth

theorem floor_rationalOf (units : Nat) :
    ⌊rationalOf units⌋₊ = units / unitsPerOne :=
  Nat.floor_div_eq_div units unitsPerOne

theorem showsMilliseconds
    {units : Nat}
    (hUnits : IsSignificant units)
    (hBelow : units < unitsPerOne) :
    ShowsMilliseconds (rationalOf units) (shownText units)
      (millisecondsOf units) := by
  have hThousand :
      rationalOf units * 1000 = rationalOf (units * 1000) := by
    unfold rationalOf
    rw [Nat.cast_mul]
    push_cast
    ring
  have hProduct := product_lt hUnits hBelow
  have hRange :
      nearestUnits (units * 1000) 1 < unitsBound :=
    Nat.lt_trans hProduct (by decide +kernel)
  refine ⟨?_, ?_, ?_, ?_⟩
  · unfold shownText
    rw [if_pos hBelow]
  · exact Nat.le_of_lt_succ (millisecondsOf_lt hUnits hBelow)
  · rw [hThousand]
    exact ⟨_,
      isNearestDouble_of_units
        (nearestUnits_isNearest (units * 1000)) hRange,
      (floor_rationalOf _).symm⟩
  · rw [hThousand, floor_rationalOf]
    have hNear := millisecondsOf_near hBelow
    omega

theorem showsTenths
    {units : Nat}
    (hAbove : unitsPerOne ≤ units) :
    ShowsTenths (rationalOf units) (shownText units)
      (tenthsOf units / 10) (tenthsOf units % 10) := by
  refine ⟨?_, ?_, ?_, ?_⟩
  · unfold shownText
    rw [if_neg (Nat.not_lt_of_le hAbove)]
  · exact Nat.le_of_lt_succ (Nat.mod_lt _ (by decide))
  · rw [whole_add_tenth]
    exact tenthsOf_near units
  · rw [whole_add_tenth, even_iff_two_dvd]
    intro hHalf
    exact (Nat.dvd_mod_iff (by decide)).mpr
      (tenthsOf_even hHalf)

/- A longer duration is never shown as less. -/
theorem durationText_mono
    {number later : Double}
    {seconds others : ℚ}
    (hSeconds : number.rational? = some seconds)
    (hOthers : later.rational? = some others)
    (hLess : seconds ≤ others) :
    ∃ shown shownLater,
      readDuration (durationText number) = some shown ∧
      readDuration (durationText later) = some shownLater ∧
      shown ≤ shownLater := by
  rcases durationText_cases hOthers with
    ⟨hBelow, hLater⟩ | ⟨more, _, hMore, hLater⟩
  · rcases durationText_cases hSeconds with
      ⟨_, hText⟩ | ⟨units, _, hUnits, _⟩
    · rw [hText, hLater]
      exact ⟨0, 0, readDuration_zero, readDuration_zero,
        le_rfl⟩
    · have hZero := rationalOf_nonneg units
      rw [← hUnits] at hZero
      exact absurd (hLess.trans_lt hBelow)
        (not_lt.mpr hZero)
  · rw [hLater]
    rcases durationText_cases hSeconds with
      ⟨_, hText⟩ | ⟨units, hUnits, hValue, hText⟩
    · rw [hText]
      exact ⟨0, _, readDuration_zero,
        readDuration_shownText more,
        shownSeconds_nonneg more⟩
    · rw [hText]
      rw [hValue, hMore, rationalOf_le_iff] at hLess
      exact ⟨_, _, readDuration_shownText units,
        readDuration_shownText more,
        shownSeconds_mono hUnits.significant hLess⟩

/-
  Texts of durations are near to the durations and in their
  order.
-/
theorem durationText_isFaithful :
    (∀ (number : Double) seconds,
      number.rational? = some seconds →
        (seconds < 0 → durationText number = "0ms") ∧
        (0 ≤ seconds → seconds < 1 →
          ∃ count,
            ShowsMilliseconds seconds (durationText number)
              count) ∧
        (1 ≤ seconds →
          ∃ whole tenth,
            ShowsTenths seconds (durationText number) whole
              tenth)) ∧
    ∀ (number later : Double) seconds others,
      number.rational? = some seconds →
      later.rational? = some others →
      seconds ≤ others →
        ∃ shown shownLater,
          readDuration (durationText number) = some shown ∧
          readDuration (durationText later) =
            some shownLater ∧
          shown ≤ shownLater := by
  constructor
  · intro number seconds hSeconds
    rcases durationText_cases hSeconds with
      ⟨hBelow, hText⟩ | ⟨units, hUnits, hValue, hText⟩
    · exact ⟨fun _ => hText,
        fun hAbove => absurd hBelow (not_lt.mpr hAbove),
        fun hAbove => absurd hBelow
          (not_lt.mpr (zero_le_one.trans hAbove))⟩
    · rw [hText, hValue]
      refine ⟨?_, ?_, ?_⟩
      · intro hBelow
        exact absurd hBelow
          (not_lt.mpr (rationalOf_nonneg units))
      · intro _ hBelow
        rw [← rationalOf_one, ← not_le, rationalOf_le_iff, not_le]
          at hBelow
        exact ⟨_, showsMilliseconds hUnits.significant
          hBelow⟩
      · intro hAbove
        rw [← rationalOf_one, rationalOf_le_iff] at hAbove
        exact ⟨_, _, showsTenths hAbove⟩
  · exact fun _ _ _ _ => durationText_mono

/- The last number below a second, and a tie above it. -/
theorem durationText_isFaithful_aroundSecond :
    let number := Double.ofRatio false (2 ^ 53 - 1) (2 ^ 53)
    let later := Double.ofRatio false 5 4
    (∃ count,
      ShowsMilliseconds (1 - 1 / 2 ^ 53)
        (durationText number) count) ∧
    (∃ whole tenth,
      ShowsTenths (5 / 4) (durationText later) whole
        tenth) ∧
    ∃ shown shownLater,
      readDuration (durationText number) = some shown ∧
      readDuration (durationText later) = some shownLater ∧
      shown ≤ shownLater := by
  intro number later
  have hNumber :
      number.rational? = some (1 - 1 / 2 ^ 53) := by
    decide +kernel
  have hLater : later.rational? = some (5 / 4) := by
    decide +kernel
  rcases durationText_isFaithful with ⟨hTexts, hOrder⟩
  exact ⟨(hTexts number _ hNumber).2.1 (by norm_num)
      (by norm_num),
    (hTexts later _ hLater).2.2 (by norm_num),
    hOrder number later _ _ hNumber hLater (by norm_num)⟩

example :
    durationText
        (Double.ofRatio false (2 ^ 53 - 1) (2 ^ 53)) =
      "999ms" := by
  decide +kernel

end Aggregation
