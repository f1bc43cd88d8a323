import Reconciliation.Calendar.Layout

/-! # Dates are known by their texts

Digits read back as the number that was written, whatever zeros stand before them. Month and day
take two places each, so a written date splits from its end, and its text determines the date for
every year of the calendar, signed and long ones included (`text_injective`).
-/

namespace Reconciliation

-- Powers stay those of the core library, whatever else is imported beside this module.
attribute [local instance (high)] instPowNat

/-! ## Digits -/

/-- The digits of a number read back as the number. -/
theorem natOfDigits_digitsOf (n : Nat) : natOfDigits (digitsOf n) = n :=
  Nat.ofDigitChars_ten_toDigits

/-- Zeros before the digits of a number do not change what they read back as. -/
theorem natOfDigits_paddedDigits (width n : Nat) : natOfDigits (paddedDigits width n) = n := by
  change Nat.ofDigitChars 10 (List.replicate _ '0' ++ Nat.toDigits 10 n) 0 = n
  rw [Nat.ofDigitChars_append, Nat.ofDigitChars_replicate_zero, Nat.mul_zero,
    Nat.ofDigitChars_ten_toDigits]

/-- The padded digits determine the number. -/
theorem paddedDigits_injective {width m n : Nat}
    (same : paddedDigits width m = paddedDigits width n) : m = n := by
  rw [← natOfDigits_paddedDigits width m, same, natOfDigits_paddedDigits]

theorem digitsOf_injective {m n : Nat} (same : digitsOf m = digitsOf n) : m = n := by
  rw [← natOfDigits_digitsOf m, same, natOfDigits_digitsOf]

theorem digitsOf_ne_nil (n : Nat) : digitsOf n ≠ [] :=
  Nat.toDigits_ne_nil

/-- The digits of a number are digits. -/
theorem isDigit_of_mem_digitsOf {n : Nat} {c : Char} (member : c ∈ digitsOf n) :
    c.isDigit = true :=
  Nat.isDigit_of_mem_toDigits (by decide) (by decide) member

theorem isDigit_of_mem_paddedDigits {width n : Nat} {c : Char}
    (member : c ∈ paddedDigits width n) : c.isDigit = true := by
  rcases List.mem_append.mp member with zero | digit
  · rw [(List.mem_replicate.mp zero).2]
    rfl
  · exact isDigit_of_mem_digitsOf digit

/-- A number that fits is written in exactly as many places. -/
theorem length_paddedDigits {width n : Nat} (positive : 0 < width) (fits : n < 10 ^ width) :
    (paddedDigits width n).length = width := by
  have bound : (Nat.toDigits 10 n).length ≤ width :=
    (Nat.length_toDigits_le_iff (by decide) positive).mpr fits
  simp only [paddedDigits, digitsOf, List.length_append, List.length_replicate]
  omega

/-- The signed digits determine the integer. -/
theorem signedDigits_injective {i j : Int} (same : signedDigits i = signedDigits j) : i = j := by
  have noMinus : ∀ {n : Nat} {rest : List Char}, '-' :: rest ≠ digitsOf n := by
    intro n rest digits
    have minus : '-'.isDigit = true :=
      isDigit_of_mem_digitsOf (n := n) (digits ▸ List.mem_cons_self)
    revert minus
    decide
  unfold signedDigits at same
  split at same
  · split at same
    · have := digitsOf_injective (List.cons.inj same).2
      omega
    · exact (noMinus same).elim
  · split at same
    · exact (noMinus same.symm).elim
    · have := digitsOf_injective same
      omega

/-- Two texts that end in two places each are equal only if their ends are. -/
theorem append_twoDigits_inj {first second : List Char} {m n : Nat} (smallM : m < 100)
    (smallN : n < 100) (same : first ++ paddedDigits 2 m = second ++ paddedDigits 2 n) :
    first = second ∧ m = n := by
  have lengths : (paddedDigits 2 m).length = (paddedDigits 2 n).length := by
    rw [length_paddedDigits (by decide) smallM, length_paddedDigits (by decide) smallN]
  obtain ⟨heads, tails⟩ := List.append_inj' same lengths
  exact ⟨heads, paddedDigits_injective tails⟩

/-! ## Years -/

/-- Digits do not start with a sign. -/
theorem sign_ne_paddedDigits {sign : Char} {rest : List Char} {width n : Nat}
    (noDigit : sign.isDigit = false) : sign :: rest ≠ paddedDigits width n := by
  intro same
  have digit : sign.isDigit = true :=
    isDigit_of_mem_paddedDigits (show sign ∈ paddedDigits width n from same ▸ List.mem_cons_self)
  rw [noDigit] at digit
  cases digit

/-- The sign of a long or negative year is no digit. -/
theorem yearSign_noDigit (year : Int) : (if year < 0 then '-' else '+').isDigit = false := by
  split <;> rfl

/-- The text of a year determines it. -/
theorem yearText_injective {a b : Int} (same : yearText a = yearText b) : a = b := by
  unfold yearText at same
  by_cases shortA : 0 ≤ a ∧ a ≤ 9999 <;> by_cases shortB : 0 ≤ b ∧ b ≤ 9999
  · rw [if_pos shortA, if_pos shortB] at same
    have := paddedDigits_injective same
    omega
  · rw [if_pos shortA, if_neg shortB] at same
    exact (sign_ne_paddedDigits (yearSign_noDigit b) same.symm).elim
  · rw [if_neg shortA, if_pos shortB] at same
    exact (sign_ne_paddedDigits (yearSign_noDigit a) same).elim
  · rw [if_neg shortA, if_neg shortB] at same
    obtain ⟨signs, digits⟩ := List.cons.inj same
    have := paddedDigits_injective digits
    by_cases negativeA : a < 0 <;> by_cases negativeB : b < 0 <;>
      simp only [negativeA, negativeB, if_true, if_false] at signs
    · omega
    · cases signs
    · cases signs
    · omega

/-! ## Dates -/

namespace Date

theorem month_lt (date : Date) : date.month < 100 := by
  have := date.isDay.2.1.2
  omega

/-- A day of the month has two places. -/
theorem day_lt (date : Date) : date.day < 100 := by
  have := date.isDay.2.2.2
  have := daysInMonth_le date.year date.month
  omega

/-- The year, month and day determine the date. -/
theorem eq_of_fields {a b : Date} (years : a.year = b.year) (months : a.month = b.month)
    (days : a.day = b.day) : a = b := by
  cases a
  cases b
  cases years
  cases months
  cases days
  rfl

/-- The text of a year and a month determines both. -/
theorem write_yearMonth_inj {a b : Date}
    (same : Layout.write [.year, .mark '-', .month] a = Layout.write [.year, .mark '-', .month] b) :
    a.year = b.year ∧ a.month = b.month := by
  simp only [Layout.write, LayoutItem.write, List.flatMap_cons, List.flatMap_nil,
    List.append_nil] at same
  rw [← List.append_assoc, ← List.append_assoc] at same
  obtain ⟨heads, months⟩ := append_twoDigits_inj a.month_lt b.month_lt same
  exact ⟨yearText_injective (List.append_cancel_right heads), months⟩

/-- The standard text ends in the day, after the year and the month. -/
theorem toList_text (date : Date) :
    date.text.toList =
      (Layout.write [.year, .mark '-', .month] date ++ ['-']) ++ paddedDigits 2 date.day := by
  simp [text, dayLayout, Layout.write, LayoutItem.write]

/-- **The standard text determines the date.** -/
theorem text_injective {a b : Date} (same : a.text = b.text) : a = b := by
  have lists := congrArg String.toList same
  rw [toList_text, toList_text] at lists
  obtain ⟨heads, days⟩ := append_twoDigits_inj a.day_lt b.day_lt lists
  obtain ⟨years, months⟩ := write_yearMonth_inj (List.append_cancel_right heads)
  exact eq_of_fields years months days

end Date

end Reconciliation
