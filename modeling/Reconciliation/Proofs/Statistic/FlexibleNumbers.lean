import Reconciliation.Proofs.Calendar.Recognition
import Reconciliation.Proofs.Number.PlainText
import Reconciliation.Proofs.Statistic.CommonReading
import Reconciliation.Proofs.Statistic.Tolerance

/-! # Numbers under the flexible comparison

The flexible comparison looks for days before it looks for numbers. Two numbers that it accepts lie
within the tolerance, except where their texts spell one day without marks, the day in one digit on
one side and in two on the other (`ComparisonKind.flexible_accepts_numbers`): `2024111` and
`20241101` are the first of November.
-/

namespace Reconciliation

-- Powers stay those of the core library, whatever else is imported beside this module.
attribute [local instance (high)] instPowNat

/-! ## Values and their texts -/

namespace Scalar

variable {scalar : Scalar} {number : Binary64}

/-- The text of a value as it is looked at, without the blanks around it. -/
def trimmedText (scalar : Scalar) : List Char :=
  Text.trimBoth scalar.display.toList

theorem trimmedText_integer (value : Int64) :
    (integer value).trimmedText = signedDigits value.toInt := by
  unfold trimmedText display
  rw [String.toList_ofList]
  apply Text.trimBoth_eq_self
  intro c member
  unfold signedDigits at member
  split at member
  · rcases List.mem_cons.mp member with rfl | digit
    · rfl
    · exact Text.isBlank_of_isDigit (isDigit_of_mem_digitsOf digit)
  · exact Text.isBlank_of_isDigit (isDigit_of_mem_digitsOf member)

theorem trimmedText_float (value : Binary64) : (float value).trimmedText = value.plainText := by
  unfold trimmedText display
  rw [String.toList_ofList]
  exact Text.trimBoth_eq_self fun c => value.isBlank_of_mem_plainText

theorem number?_text (value : String) : (text value).number? =
    (Binary64.ofText? (text value).trimmedText).filter Binary64.isFinite :=
  rfl

/-- A value with a numeric view is spelled as a number. -/
theorem isSome_ofText?_trimmedText (view : scalar.number? = some number) :
    (Binary64.ofText? scalar.trimmedText).isSome := by
  cases scalar with
  | integer value =>
      rw [trimmedText_integer]
      unfold signedDigits
      split
      · change (Binary64.ofUnsignedText? true _).isSome
        rw [Binary64.ofUnsignedText?_digits (digits_digitsOf _)]
        rfl
      · rw [Binary64.ofText?_digits (digits_digitsOf _)]
        rfl
  | float value =>
      rw [trimmedText_float]
      exact value.isSome_ofText?_plainText
  | text value =>
      rw [number?_text, Option.filter_eq_some_iff] at view
      exact Option.isSome_of_eq_some view.1

/-- A value with a numeric view denotes a day if it spells the day without marks. -/
theorem recognise?_display {date : Date} (view : scalar.number? = some number) :
    Date.recognise? scalar.display = some date ↔
      date.FourDigitYear ∧ date.Unmarked scalar.trimmedText :=
  Date.recognise?_of_number (isSome_ofText?_trimmedText view)

theorem natOfDigits_lt_precision {cs : List Char} (digits : Digits cs) (short : cs.length ≤ 15) :
    natOfDigits cs < 2 ^ Binary64.precision := by
  apply Nat.lt_of_lt_of_le (natOfDigits_lt digits.all)
  exact Nat.le_trans (Nat.pow_le_pow_right (by decide) short) (by decide)

/-- A value of at most fifteen digits has the number that they denote as its numeric view. -/
theorem number?_of_digits (digits : Digits scalar.trimmedText)
    (short : scalar.trimmedText.length ≤ 15) :
    scalar.number? = some (.ofNat (natOfDigits scalar.trimmedText)) := by
  cases scalar with
  | integer value =>
      rw [trimmedText_integer] at digits ⊢
      have unsigned : ¬value.toInt < 0 := by
        intro negative
        unfold signedDigits at digits
        rw [if_pos negative] at digits
        exact absurd (digits.all '-' List.mem_cons_self) (by decide)
      have whole : Binary64.ofInt value.toInt = .ofNat value.toInt.natAbs := by
        unfold Binary64.ofInt
        rw [decide_eq_false unsigned]
        rfl
      unfold signedDigits
      rw [if_neg unsigned, natOfDigits_digitsOf, ← whole]
      rfl
  | float value =>
      rw [trimmedText_float] at digits short ⊢
      exact congrArg some (Binary64.eq_ofNat_of_plainText digits.all short)
  | text value =>
      rw [number?_text, Binary64.ofText?_digits digits, Option.filter_eq_some_iff]
      exact ⟨rfl, Binary64.isFinite_ofNat (natOfDigits_lt_precision digits short)⟩

/-- A value that spells a date without marks has the number of its digits as its numeric view. -/
theorem number_of_unmarked {date : Date} (short : date.FourDigitYear)
    (spelled : date.Unmarked scalar.trimmedText) (view : scalar.number? = some number) :
    number = .ofNat (natOfDigits scalar.trimmedText) ∧ number.isFinite = true := by
  obtain ⟨digits, places⟩ := spelled.eightDigits short
  have few : scalar.trimmedText.length ≤ 15 := Nat.le_trans places (by decide)
  have same := Option.some.inj (view.symm.trans (number?_of_digits digits few))
  refine ⟨same, ?_⟩
  rw [same]
  exact Binary64.isFinite_ofNat (natOfDigits_lt_precision digits few)

end Scalar

namespace ComparisonKind

variable {left right : Scalar} {a b : Binary64}

section

variable {day other : Date} (leftDay : Date.recognise? left.display = some day)
  (rightDay : Date.recognise? right.display = some other)
include leftDay rightDay

/-- Where dates are looked for, values that both denote a day are compared as days. -/
theorem flexibleString_accepts_of_days (tryNumeric : Bool) (tolerance : Tolerance) :
    (flexibleString true tryNumeric tolerance).accepts (.scalar (some left))
      (.scalar (some right)) = decide (day = other) := by
  change flexiblyEqual true tryNumeric tolerance left right = _
  simp only [flexiblyEqual, leftDay, rightDay, if_true, Option.bind_some, Option.map_some]

theorem flexible_accepts_of_days :
    flexible.accepts (.scalar (some left)) (.scalar (some right)) = decide (day = other) :=
  flexibleString_accepts_of_days leftDay rightDay true .standard

end

/-- Numbers of which one denotes no day are compared as numbers. -/
theorem flexible_accepts_of_noDay
    (noDay : Date.recognise? left.display = none ∨ Date.recognise? right.display = none)
    (leftView : left.number? = some a) (rightView : right.number? = some b) :
    flexible.accepts (.scalar (some left)) (.scalar (some right)) =
      Tolerance.standard.accepts a b := by
  have noDays : readBoth? true (Date.recognise? ·.display) left right = none :=
    readBoth?_eq_none true noDay
  have reading : commonReading true true left right = .numbers a b :=
    (commonReading_eq_numbers_iff ..).mpr ⟨noDays, rfl, leftView, rightView⟩
  change flexiblyEqual true true .standard left right = _
  rw [flexiblyEqual_eq_agrees, reading, CommonReading.agrees]

/-- Two texts spell one day without marks, first with the day in one digit and then in two. -/
def SpelledTwice (brief long : List Char) : Prop :=
  ∃ date : Date, date.FourDigitYear ∧ date.day < 10 ∧
    brief = date.unmarked (digitsOf date.day) ∧ long = date.unmarked (paddedDigits 2 date.day)

/-- **Numbers that the flexible comparison accepts lie within the tolerance or spell one day in two
ways**, and such spellings are accepted. -/
theorem flexible_accepts_numbers (leftView : left.number? = some a)
    (rightView : right.number? = some b) :
    let millionth : Binary64 := .ofDecimal false 1 (-6)
    (flexible.accepts (.scalar (some left)) (.scalar (some right)) = true →
      (a.sub b).abs.le (millionth.add (millionth.mul b.abs)) = true ∨
        SpelledTwice left.trimmedText right.trimmedText ∨
        SpelledTwice right.trimmedText left.trimmedText) ∧
    (SpelledTwice left.trimmedText right.trimmedText ∨
        SpelledTwice right.trimmedText left.trimmedText →
      flexible.accepts (.scalar (some left)) (.scalar (some right)) = true) := by
  intro millionth
  have bound : Tolerance.standard.accepts a b =
      (a.sub b).abs.le (millionth.add (millionth.mul b.abs)) := by
    simp only [Tolerance.accepts, Tolerance.standard, Tolerance.millionth, millionth]
  rw [← bound]
  constructor
  · intro accepted
    cases leftDay : Date.recognise? left.display with
    | none =>
        rw [flexible_accepts_of_noDay (.inl leftDay) leftView rightView] at accepted
        exact .inl accepted
    | some day =>
        cases rightDay : Date.recognise? right.display with
        | none =>
            rw [flexible_accepts_of_noDay (.inr rightDay) leftView rightView] at accepted
            exact .inl accepted
        | some other =>
            rw [flexible_accepts_of_days leftDay rightDay] at accepted
            obtain rfl := of_decide_eq_true accepted
            obtain ⟨short, spelledLeft⟩ := (Scalar.recognise?_display leftView).mp leftDay
            obtain ⟨-, spelledRight⟩ := (Scalar.recognise?_display rightView).mp rightDay
            have sameText (same : left.trimmedText = right.trimmedText) :
                Tolerance.standard.accepts a b = true := by
              obtain ⟨leftNumber, finite⟩ := Scalar.number_of_unmarked short spelledLeft leftView
              obtain ⟨rightNumber, -⟩ := Scalar.number_of_unmarked short spelledRight rightView
              rw [← same, ← leftNumber] at rightNumber
              rw [rightNumber]
              exact Tolerance.accepts_self finite
            rcases spelledLeft with leftLong | ⟨single, leftBrief⟩
            · rcases spelledRight with rightLong | ⟨single, rightBrief⟩
              · exact .inl (sameText (leftLong.trans rightLong.symm))
              · exact .inr (.inr ⟨day, short, single, rightBrief, leftLong⟩)
            · rcases spelledRight with rightLong | ⟨single, rightBrief⟩
              · exact .inr (.inl ⟨day, short, single, leftBrief, rightLong⟩)
              · exact .inl (sameText (leftBrief.trans rightBrief.symm))
  · rintro (⟨date, short, single, brief, long⟩ | ⟨date, short, single, brief, long⟩)
    · have leftDay := (Scalar.recognise?_display leftView).mpr ⟨short, .inr ⟨single, brief⟩⟩
      have rightDay := (Scalar.recognise?_display rightView).mpr ⟨short, .inl long⟩
      rw [flexible_accepts_of_days leftDay rightDay]
      exact decide_eq_true rfl
    · have leftDay := (Scalar.recognise?_display leftView).mpr ⟨short, .inl long⟩
      have rightDay := (Scalar.recognise?_display rightView).mpr ⟨short, .inr ⟨single, brief⟩⟩
      rw [flexible_accepts_of_days leftDay rightDay]
      exact decide_eq_true rfl

/-- An integer and a text that both spell the first of November. -/
theorem flexible_accepts_numbers_november :
    let left : Scalar := .integer 2024111
    let right : Scalar := .text " 20241101"
    ∃ a b, left.number? = some a ∧ right.number? = some b ∧
      flexible.accepts (.scalar (some left)) (.scalar (some right)) = true := by
  intro left right
  have leftView : left.number? = some (.ofInt 2024111) := rfl
  have rightView : right.number? = some (.ofNat (natOfDigits right.trimmedText)) :=
    Scalar.number?_of_digits ⟨by decide, List.all_eq_true.mp (by decide)⟩ (by decide)
  refine ⟨_, _, leftView, rightView, (flexible_accepts_numbers leftView rightView).2 (.inl ?_)⟩
  exact ⟨⟨2024, 11, 1, by decide⟩, by decide, by decide, by decide, by decide⟩

/-- Numbers that differ by more than eighteen millions are accepted. -/
theorem flexible_accepts_distant_numbers :
    let left : Scalar := .text "2024111"
    let right : Scalar := .text "20241101"
    left.number?.isSome ∧ right.number?.isSome ∧
      flexible.accepts (.scalar (some left)) (.scalar (some right)) = true ∧
      numericallyEqual .standard left right = false := by
  decide +kernel

end ComparisonKind

end Reconciliation
