import Reconciliation.Number.DecimalText
import Reconciliation.Proofs.Number.NumeralText
import Reconciliation.Proofs.Number.Shortest
import Reconciliation.Proofs.Text.Blank

/-! # Plain spellings read back

The plain spelling of every number denotes a number (`isSome_ofText?_plainText`). One of at most
fifteen digits and nothing else denotes the number that it spells (`eq_ofNat_of_plainText`): the
shortest decimal lies within half a spacing of its number, and a whole number of that size is a
multiple of the spacing.
-/

namespace Reconciliation

-- Powers stay those of the core library, whatever else is imported beside this module.
attribute [local instance (high)] instPowNat

section

variable {n zeros : Nat}

theorem digits_zeros (n zeros : Nat) : Digits (digitsOf n ++ List.replicate zeros '0') := by
  apply (digits_digitsOf n).append
  intro c member
  rw [List.eq_of_mem_replicate member]
  rfl

/-- Zeros after the digits of a number make it a multiple of a power of ten. -/
theorem natOfDigits_zeros :
    natOfDigits (digitsOf n ++ List.replicate zeros '0') = n * 10 ^ zeros := by
  change Nat.ofDigitChars 10 (Nat.toDigits 10 n ++ List.replicate zeros '0') 0 = _
  rw [Nat.ofDigitChars_append, Nat.ofDigitChars_ten_toDigits, Nat.ofDigitChars_replicate_zero,
    Nat.mul_comm]

theorem succ_mul_le_of_length {places : Nat}
    (short : (digitsOf n ++ List.replicate zeros '0').length ≤ places) :
    (n + 1) * 10 ^ zeros ≤ 10 ^ places := by
  have below : n < 10 ^ (digitsOf n).length :=
    (Nat.length_toDigits_le_iff (by decide) (digits_digitsOf n).length_pos).mp (Nat.le_refl _)
  rw [List.length_append, List.length_replicate] at short
  calc (n + 1) * 10 ^ zeros
      ≤ 10 ^ (digitsOf n).length * 10 ^ zeros := Nat.mul_le_mul_right _ below
    _ = 10 ^ ((digitsOf n).length + zeros) := (Nat.pow_add ..).symm
    _ ≤ 10 ^ places := Nat.pow_le_pow_right (by decide) short

end

namespace Decimal

/-- A decimal is spelled by digits, with a point among them where it has a fraction. -/
theorem plainText_cases (decimal : Decimal) :
    (0 ≤ decimal.exponent ∧
      decimal.plainText =
        digitsOf decimal.digits ++ List.replicate decimal.exponent.toNat '0') ∨
    ∃ whole fraction, Digits whole ∧ (∀ c ∈ fraction, c.isDigit = true) ∧
      decimal.plainText = whole ++ '.' :: fraction := by
  have positive := (digits_digitsOf decimal.digits).length_pos
  unfold plainText
  dsimp only
  split
  · next whole => exact .inl ⟨whole, rfl⟩
  · next fractional =>
      right
      split
      · next inside =>
          refine ⟨_, _, ⟨?_, ?_⟩, ?_, rfl⟩
          · apply List.length_pos_iff.mp
            rw [List.length_take]
            omega
          · intro c member
            exact isDigit_of_mem_digitsOf (List.mem_of_mem_take member)
          · intro c member
            exact isDigit_of_mem_digitsOf (List.mem_of_mem_drop member)
      · refine ⟨['0'], _, digits_digitsOf 0, ?_, rfl⟩
        intro c member
        rcases List.mem_append.mp member with zero | digit
        · rw [List.eq_of_mem_replicate zero]
          rfl
        · exact isDigit_of_mem_digitsOf digit

/-- No blank stands in the spelling of a decimal. -/
theorem isBlank_of_mem_plainText {decimal : Decimal} {c : Char}
    (member : c ∈ decimal.plainText) : Text.isBlank c = false := by
  rcases decimal.plainText_cases with ⟨_, same⟩ | ⟨whole, fraction, digits, all, same⟩
  · rw [same] at member
    exact Text.isBlank_of_isDigit ((digits_zeros _ _).all c member)
  · rw [same, List.mem_append, List.mem_cons] at member
    rcases member with before | rfl | after
    · exact Text.isBlank_of_isDigit (digits.all c before)
    · rfl
    · exact Text.isBlank_of_isDigit (all c after)

end Decimal

namespace Binary64

variable {tie : Tie} {units num : Nat}

theorem near_of_holds (inside : (roundingInterval units).holds num 1 = true) :
    4 * units ≤ num + 2 * spacing units ∧ num ≤ 4 * units + 2 * spacing units := by
  obtain ⟨low, high, -⟩ := bounds_of_holds inside
  have := gapBelow_le units
  omega

theorem eq_of_near {step a b : Nat} (positive : 0 < step) (wholeA : step ∣ a) (wholeB : step ∣ b)
    (low : 4 * a ≤ 4 * b + 2 * step) (high : 4 * b ≤ 4 * a + 2 * step) : a = b := by
  obtain ⟨i, rfl⟩ := wholeA
  obtain ⟨j, rfl⟩ := wholeB
  have below : step * i < step * (j + 1) := by
    rw [Nat.mul_succ]
    omega
  have above : step * j < step * (i + 1) := by
    rw [Nat.mul_succ]
    omega
  have := Nat.lt_of_mul_lt_mul_left below
  have := Nat.lt_of_mul_lt_mul_left above
  rw [show i = j by omega]

/-- A whole number near to a magnitude is the magnitude. -/
theorem units_eq_of_holds {n : Nat} (representable : Representable units) (positive : 0 < units)
    (short : n ≤ 10 ^ (15 : Nat))
    (inside : (roundingInterval units).holds (4 * (n * 2 ^ unitBits)) 1 = true) :
    units = n * 2 ^ unitBits := by
  obtain ⟨low, high⟩ := near_of_holds inside
  have fine := spacing_le positive
  have bound : 2 * n < 2 ^ precision := Nat.lt_of_le_of_lt (Nat.mul_le_mul_left 2 short) (by decide)
  have small : units < 2 ^ (unitBits + precision) := by
    apply Nat.lt_of_le_of_lt _ (units_lt bound)
    rw [Nat.mul_assoc]
    omega
  exact eq_of_near (spacing_pos units) (spacing_dvd_of_significant representable.2)
    (Nat.dvd_mul_left_of_dvd (spacing_dvd_two_pow small) n) low high

/-- The shortest decimal of a number, if it is whole and not too long, is the number. -/
theorem units_eq_of_shortest (representable : Representable units) (positive : 0 < units)
    {digits : Nat} {exponent : Int} (shortest : shortest tie units = ⟨digits, exponent⟩)
    (whole : 0 ≤ exponent) (short : (digits + 1) * 10 ^ exponent.toNat ≤ 10 ^ (15 : Nat)) :
    units = digits * 10 ^ exponent.toNat * 2 ^ unitBits := by
  have inside := roundsTo_shortest tie positive representable.1
  rw [shortest, RoundsTo, gridStep_of_nonneg whole] at inside
  apply units_eq_of_holds representable positive
  · exact Nat.le_trans (Nat.mul_le_mul_right _ (Nat.le_succ digits)) short
  · rw [Nat.mul_assoc digits]
    exact inside

/-! ## Spellings of numbers -/

/-- The digits of a decimal denote a number, whatever their sign. -/
theorem isSome_ofUnsignedText?_plainText (negative : Bool) (decimal : Decimal) :
    (ofUnsignedText? negative decimal.plainText).isSome := by
  rcases decimal.plainText_cases with ⟨_, same⟩ | ⟨whole, fraction, digits, all, same⟩
  · rw [same, ofUnsignedText?_digits (digits_zeros _ _)]
    rfl
  · rw [same]
    exact isSome_ofUnsignedText?_point digits all

/-- The plain text of a decimal has no sign of its own. -/
theorem ofText?_plainText (decimal : Decimal) :
    ofText? decimal.plainText = ofUnsignedText? false decimal.plainText := by
  rcases decimal.plainText_cases with ⟨_, same⟩ | ⟨whole, fraction, digits, _, same⟩
  · rw [same]
    exact ofText?_append (digits_digitsOf _)
  · rw [same]
    exact ofText?_append digits

/-- The decimal that a magnitude is spelled as. -/
def spelled (units : Nat) : Decimal :=
  if units = 0 then ⟨0, 0⟩ else shortest .up units

theorem plainText_finite (negative : Bool) (units : Nat) (representable : Representable units) :
    (finite negative units representable).plainText =
      withSign negative (spelled units).plainText := by
  unfold plainText spelled
  dsimp only
  split <;> rfl

/-- Every number is spelled as a number. -/
theorem isSome_ofText?_plainText (number : Binary64) : (ofText? number.plainText).isSome := by
  cases number with
  | nan => decide +kernel
  | infinite negative => cases negative <;> decide +kernel
  | finite negative units representable =>
      rw [plainText_finite]
      cases negative with
      | true => exact isSome_ofUnsignedText?_plainText true _
      | false =>
          change (ofText? (spelled units).plainText).isSome
          rw [ofText?_plainText]
          exact isSome_ofUnsignedText?_plainText false _

/-- No blank stands in the spelling of a number. -/
theorem isBlank_of_mem_plainText (number : Binary64) {c : Char} (member : c ∈ number.plainText) :
    Text.isBlank c = false := by
  cases number with
  | nan =>
      have noBlank : (plainText .nan).all fun c => !Text.isBlank c := by decide
      exact (Bool.not_eq_true' _).mp (List.all_eq_true.mp noBlank c member)
  | infinite negative =>
      have noBlank : (plainText (.infinite negative)).all fun c => !Text.isBlank c := by
        cases negative <;> decide
      exact (Bool.not_eq_true' _).mp (List.all_eq_true.mp noBlank c member)
  | finite negative units representable =>
      rw [plainText_finite] at member
      cases negative with
      | false => exact Decimal.isBlank_of_mem_plainText member
      | true =>
          rcases List.mem_cons.mp member with rfl | member
          · rfl
          · exact Decimal.isBlank_of_mem_plainText member

theorem units_eq_of_spelled (representable : Representable units)
    (whole : 0 ≤ (spelled units).exponent)
    (short : ((spelled units).digits + 1) * 10 ^ (spelled units).exponent.toNat ≤ 10 ^ (15 : Nat)) :
    units = (spelled units).digits * 10 ^ (spelled units).exponent.toNat * 2 ^ unitBits := by
  unfold spelled at *
  by_cases zero : units = 0
  · rw [if_pos zero, zero, Nat.zero_mul, Nat.zero_mul]
  · rw [if_neg zero] at whole short ⊢
    exact units_eq_of_shortest representable (Nat.pos_of_ne_zero zero) rfl whole short

/-- **At most fifteen digits spell the number that they denote.** -/
theorem eq_ofNat_of_plainText {number : Binary64}
    (all : ∀ c ∈ number.plainText, c.isDigit = true) (short : number.plainText.length ≤ 15) :
    number = .ofNat (natOfDigits number.plainText) := by
  cases number with
  | nan => exact absurd (all 'N' List.mem_cons_self) (by decide)
  | infinite negative => cases negative <;> exact absurd (all _ List.mem_cons_self) (by decide)
  | finite negative units representable =>
      rw [plainText_finite] at all short ⊢
      cases negative with
      | true => exact absurd (all '-' List.mem_cons_self) (by decide)
      | false =>
          change (spelled units).plainText.length ≤ 15 at short
          change _ = ofNat (natOfDigits (spelled units).plainText)
          rcases (spelled units).plainText_cases with ⟨whole, digits⟩ | ⟨_, _, _, _, point⟩
          · rw [digits] at short ⊢
            have bound := succ_mul_le_of_length short
            have exact := units_eq_of_spelled representable whole bound
            have fits := Nat.le_trans (Nat.mul_le_mul_right _ (Nat.le_succ _)) bound
            obtain ⟨_, held⟩ := @ofRatio_eq_finite _ false (Nat.lt_of_le_of_lt fits (by decide))
            rw [natOfDigits_zeros, ofNat, held]
            simp only [← exact]
          · change ∀ c ∈ (spelled units).plainText, _ at all
            rw [point] at all
            exact absurd (all '.' (List.mem_append_right _ List.mem_cons_self)) (by decide)

end Binary64

end Reconciliation
