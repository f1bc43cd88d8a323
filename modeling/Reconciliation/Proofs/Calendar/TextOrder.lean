import Reconciliation.Partition
import Reconciliation.Proofs.Calendar.DateText

/-! # Texts that sort as dates do

Digits of one width sort as the numbers they write, so in every text layout the dates of the years
`0` to `9999` sort as their texts do (`render_lt_render_iff`). Outside these years a text starts
with a sign, and both signs sort before every digit: the text of an earlier date still sorts where
it belongs, the text of a later date sorts first instead of last.
-/

namespace Reconciliation

-- Powers stay those of the core library, whatever else is imported beside this module.
attribute [local instance (high)] instPowNat

/-! ## Digits -/

/-- Behind heads of one length, texts are compared only if the heads are equal. -/
theorem append_lt_append_iff {first second : List Char} (lengths : first.length = second.length)
    {rest other : List Char} :
    first ++ rest < second ++ other ↔ first < second ∨ first = second ∧ rest < other := by
  induction first generalizing second with
  | nil =>
      rw [List.eq_nil_of_length_eq_zero lengths.symm]
      simp
  | cons c first ih =>
      cases second with
      | nil => cases lengths
      | cons d second =>
          simp only [List.length_cons, Nat.add_right_cancel_iff] at lengths
          simp only [List.cons_append, List.cons_lt_cons_iff, ih lengths, List.cons.injEq]
          constructor
          · rintro (less | ⟨same, less | ⟨rest, less⟩⟩)
            · exact .inl (.inl less)
            · exact .inl (.inr ⟨same, less⟩)
            · exact .inr ⟨⟨same, rest⟩, less⟩
          · rintro ((less | ⟨same, less⟩) | ⟨⟨same, rest⟩, less⟩)
            · exact .inl less
            · exact .inr ⟨same, .inl less⟩
            · exact .inr ⟨same, .inr ⟨rest, less⟩⟩

theorem natOfDigits_cons (c : Char) (digits : List Char) :
    natOfDigits (c :: digits) =
      (c.toNat - '0'.toNat) * 10 ^ digits.length + natOfDigits digits := by
  change Nat.ofDigitChars 10 digits (10 * 0 + (c.toNat - '0'.toNat)) = _
  rw [Nat.ofDigitChars_eq_ofDigitChars_zero, Nat.mul_zero, Nat.zero_add, Nat.mul_comm]
  rfl

/-- The code of a digit lies between those of the first and the last digit. -/
theorem digit_bounds {c : Char} (digit : c.isDigit = true) :
    '0'.toNat ≤ c.toNat ∧ c.toNat ≤ '9'.toNat := by
  simp only [Char.isDigit, Bool.and_eq_true, decide_eq_true_eq] at digit
  exact ⟨digit.1, digit.2⟩

theorem natOfDigits_lt {digits : List Char} (all : ∀ c ∈ digits, c.isDigit = true) :
    natOfDigits digits < 10 ^ digits.length := by
  induction digits with
  | nil => decide
  | cons c digits ih =>
      have below := ih fun d member => all d (List.mem_cons_of_mem _ member)
      have bounds := digit_bounds (all c List.mem_cons_self)
      have head : c.toNat - '0'.toNat ≤ 9 := by
        have nine : '9'.toNat = '0'.toNat + 9 := rfl
        omega
      have scaled := Nat.mul_le_mul_right (10 ^ digits.length) head
      rw [natOfDigits_cons, List.length_cons, Nat.pow_succ]
      omega

/-- Digits of one length sort as the numbers that they write. -/
theorem digits_lt_iff {first second : List Char} (lengths : first.length = second.length)
    (digits : ∀ c ∈ first, c.isDigit = true) (digits' : ∀ c ∈ second, c.isDigit = true) :
    first < second ↔ natOfDigits first < natOfDigits second := by
  induction first generalizing second with
  | nil =>
      rw [List.eq_nil_of_length_eq_zero lengths.symm]
      simp
  | cons c first ih =>
      cases second with
      | nil => cases lengths
      | cons d second =>
          simp only [List.length_cons, Nat.add_right_cancel_iff] at lengths
          have rest : ∀ c ∈ first, c.isDigit = true := fun c member =>
            digits c (List.mem_cons_of_mem _ member)
          have rest' : ∀ c ∈ second, c.isDigit = true := fun c member =>
            digits' c (List.mem_cons_of_mem _ member)
          have below := natOfDigits_lt rest
          have below' := natOfDigits_lt rest'
          have bounds := digit_bounds (digits c List.mem_cons_self)
          have bounds' := digit_bounds (digits' d List.mem_cons_self)
          rw [List.cons_lt_cons_iff, ih lengths rest rest', natOfDigits_cons, natOfDigits_cons,
            lengths]
          rw [lengths] at below
          rcases Nat.lt_trichotomy c.toNat d.toNat with less | same | more
          · have scaled := Nat.mul_le_mul_right (10 ^ second.length)
              (show c.toNat - '0'.toNat + 1 ≤ d.toNat - '0'.toNat by omega)
            rw [Nat.add_mul] at scaled
            exact iff_of_true (.inl less) (by omega)
          · obtain rfl := Char.toNat_inj.mp same
            simp only [Nat.add_lt_add_iff_left, true_and]
            exact ⟨fun either => either.resolve_left (Char.lt_irrefl c), .inr⟩
          · have scaled := Nat.mul_le_mul_right (10 ^ second.length)
              (show d.toNat - '0'.toNat + 1 ≤ c.toNat - '0'.toNat by omega)
            rw [Nat.add_mul] at scaled
            refine iff_of_false ?_ (by omega)
            rintro (less | ⟨same, _⟩)
            · exact absurd less (Nat.lt_asymm more)
            · exact absurd (congrArg Char.toNat same) (Nat.ne_of_gt more)

theorem paddedDigits_lt_iff {width m n : Nat} (positive : 0 < width) (smallM : m < 10 ^ width)
    (smallN : n < 10 ^ width) : paddedDigits width m < paddedDigits width n ↔ m < n := by
  have lengths : (paddedDigits width m).length = (paddedDigits width n).length := by
    rw [length_paddedDigits positive smallM, length_paddedDigits positive smallN]
  rw [digits_lt_iff lengths (fun _ => isDigit_of_mem_paddedDigits)
    (fun _ => isDigit_of_mem_paddedDigits), natOfDigits_paddedDigits, natOfDigits_paddedDigits]

/-! ## Dates -/

namespace Date

/-- A year that is written in four digits without a sign. -/
def FourDigitYear (date : Date) : Prop :=
  0 ≤ date.year ∧ date.year ≤ 9999

instance (date : Date) : Decidable date.FourDigitYear :=
  inferInstanceAs (Decidable (_ ∧ _))

theorem yearText_of_fourDigit {date : Date} (short : date.FourDigitYear) :
    yearText date.year = paddedDigits 4 date.year.toNat :=
  if_pos short

theorem yearText_of_not_fourDigit {date : Date} (signed : ¬date.FourDigitYear) :
    yearText date.year =
      (if date.year < 0 then '-' else '+') :: paddedDigits 4 date.year.natAbs :=
  if_neg signed

theorem lt_iff_fields {a b : Date} :
    a < b ↔ a.year < b.year ∨ a.year = b.year ∧
      (a.month < b.month ∨ a.month = b.month ∧ a.day < b.day) := by
  have monthA := a.isDay.2.1.2
  have monthB := b.isDay.2.1.2
  have dayA := Nat.le_trans a.isDay.2.2.2 (daysInMonth_le a.year a.month)
  have dayB := Nat.le_trans b.isDay.2.2.2 (daysInMonth_le b.year b.month)
  simp only [lt_iff_rank, rank]
  omega

theorem year_le_year {a b : Date} (order : a ≤ b) : a.year ≤ b.year := by
  refine Int.not_lt.mp fun later => ?_
  exact Std.not_lt.mpr order (lt_iff_fields.mpr (.inl later))

end Date

namespace TextLayout

/-- What stands between the numbers of a date. -/
def separator : TextLayout → List Char
  | .compact => []
  | .dashed => ['-']
  | .slashed => ['/']

theorem toList_render (layout : TextLayout) (date : Date) :
    (layout.render date).toList =
      yearText date.year ++ (layout.separator ++
        (paddedDigits 2 date.month ++ (layout.separator ++ paddedDigits 2 date.day))) := by
  cases layout <;>
    simp [render, TextLayout.layout, Date.dayLayout, Layout.write, LayoutItem.write, separator]

variable {layout : TextLayout} {a b : Date}

/-- **The texts of four-digit years sort as their dates.** -/
theorem render_lt_render_iff (shortA : a.FourDigitYear) (shortB : b.FourDigitYear) :
    layout.render a < layout.render b ↔ a < b := by
  obtain ⟨lowA, highA⟩ := shortA
  obtain ⟨lowB, highB⟩ := shortB
  have smallA : a.year.toNat < 10 ^ 4 := by omega
  have smallB : b.year.toNat < 10 ^ 4 := by omega
  have years : (paddedDigits 4 a.year.toNat).length = (paddedDigits 4 b.year.toNat).length := by
    rw [length_paddedDigits (by decide) smallA, length_paddedDigits (by decide) smallB]
  have months : (paddedDigits 2 a.month).length = (paddedDigits 2 b.month).length := by
    rw [length_paddedDigits (by decide) a.month_lt, length_paddedDigits (by decide) b.month_lt]
  have irreflexive : ¬layout.separator < layout.separator := List.lt_irrefl _
  rw [String.lt_iff, toList_render, toList_render, Date.yearText_of_fourDigit ⟨lowA, highA⟩,
    Date.yearText_of_fourDigit ⟨lowB, highB⟩, append_lt_append_iff years, append_lt_append_iff rfl,
    append_lt_append_iff months, append_lt_append_iff rfl,
    paddedDigits_lt_iff (by decide) smallA smallB,
    paddedDigits_lt_iff (by decide) a.month_lt b.month_lt,
    paddedDigits_lt_iff (by decide) a.day_lt b.day_lt, Date.lt_iff_fields]
  simp only [irreflexive, false_or, true_and]
  have sameYear : paddedDigits 4 a.year.toNat = paddedDigits 4 b.year.toNat ↔ a.year = b.year :=
    ⟨fun same => by have := paddedDigits_injective same; omega, fun same => by rw [same]⟩
  have sameMonth : paddedDigits 2 a.month = paddedDigits 2 b.month ↔ a.month = b.month :=
    ⟨paddedDigits_injective, fun same => by rw [same]⟩
  rw [sameYear, sameMonth]
  omega

/-- **A signed year sorts before every four-digit year.** -/
theorem render_lt_render_of_signed (signed : ¬a.FourDigitYear) (short : b.FourDigitYear) :
    layout.render a < layout.render b := by
  obtain ⟨c, digits, written⟩ : ∃ c digits, paddedDigits 4 b.year.toNat = c :: digits := by
    apply List.exists_cons_of_length_pos
    obtain ⟨low, high⟩ := short
    rw [length_paddedDigits (by decide) (show b.year.toNat < 10 ^ 4 by omega)]
    decide
  have digit : c.isDigit = true :=
    isDigit_of_mem_paddedDigits (show c ∈ paddedDigits 4 b.year.toNat from
      written ▸ List.mem_cons_self)
  have sign : (if a.year < 0 then '-' else '+') < c := by
    have zero := (digit_bounds digit).1
    split <;> exact Nat.lt_of_lt_of_le (by decide) zero
  rw [String.lt_iff, toList_render, toList_render, Date.yearText_of_not_fourDigit signed,
    Date.yearText_of_fourDigit short, written]
  exact List.cons_lt_cons_iff.mpr (.inl sign)

/-- The text of a date sorts no later than the text of a four-digit year if the date comes no
later, unless its own year is too long. -/
theorem render_le_render_iff (notLong : a.year ≤ 9999) (short : b.FourDigitYear) :
    layout.render a ≤ layout.render b ↔ a ≤ b := by
  by_cases shortA : a.FourDigitYear
  · rw [← String.not_lt, render_lt_render_iff short shortA, Std.not_lt]
  · have negative : a.year < 0 := Int.not_le.mp fun low => shortA ⟨low, notLong⟩
    refine iff_of_true (Std.le_of_lt (render_lt_render_of_signed shortA short)) ?_
    have before : a < b := Date.lt_iff_fields.mpr (.inl (Int.lt_of_lt_of_le negative short.1))
    exact Std.le_of_lt before

/-- No text of a four-digit year sorts before that of a longer year. -/
theorem not_render_lt_render_of_long (short : a.FourDigitYear) (long : 9999 < b.year) :
    ¬layout.render a < layout.render b := by
  have signed : ¬b.FourDigitYear := fun bounds => absurd bounds.2 (Int.not_le.mpr long)
  exact Std.not_lt.mpr (Std.le_of_lt (render_lt_render_of_signed signed short))

end TextLayout

end Reconciliation
