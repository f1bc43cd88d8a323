import Reconciliation.Proofs.Calendar.Spelling

/-! # The standard text of a date reads back

The text `YYYY-MM-DD` reads back as its date for every year of the calendar: a year of more or less
than four digits has a sign, after which digits are read as far as they go.
-/

namespace Reconciliation

variable {cs rest : List Char}

/-- A text that begins with no blank has none to skip. -/
theorem Text.trimStart_cons {c : Char} (visible : Text.isBlank c = false) :
    Text.trimStart (c :: cs) = c :: cs := by
  apply Text.trimStart_of_head
  rintro _ ⟨⟩
  exact visible

/-- Digits up to a character that is none are all read. -/
theorem readDigits?_all (digits : Digits cs) (ends : ∀ c ∈ rest.head?, c.isDigit = false) :
    readDigits? (cs ++ rest).length (cs ++ rest) = some (natOfDigits cs, rest) := by
  have taken := Numeral.takeWhile_digits digits.all ends
  unfold readDigits?
  rw [List.take_length, taken]
  simp [digits.nonempty]

/-- Every year reads back from its text. -/
theorem readYear?_yearText (year : Int) (ends : ∀ c ∈ rest.head?, c.isDigit = false) :
    readYear? (yearText year ++ rest) = some (year, rest) := by
  unfold yearText
  split
  · next short =>
      rw [readYear?_append (digits_paddedDigits 4 _)
        (length_paddedDigits (by decide) (by omega)), natOfDigits_paddedDigits,
        Int.toNat_of_nonneg short.1]
  · next long =>
      have read := readDigits?_all (digits_paddedDigits 4 year.natAbs) ends
      rw [natOfDigits_paddedDigits] at read
      split
      · next negative =>
          rw [List.cons_append, readYear?, Text.trimStart_cons rfl]
          simp only [read, Option.map_some]
          rw [show -(year.natAbs : Int) = year by omega]
      · next positive =>
          rw [List.cons_append, readYear?, Text.trimStart_cons rfl]
          simp only [read, Option.map_some]
          rw [show (year.natAbs : Int) = year by omega]

namespace Date

/-- **The standard text of a date reads back as the date.** -/
theorem ofText?_text (date : Date) : ofText? date.text = some date := by
  have dash (rest : List Char) : Text.trimStart ('-' :: rest) = '-' :: rest :=
    Text.trimStart_cons rfl
  have year (rest : List Char) :
      readYear? (yearText date.year ++ '-' :: rest) = some (date.year, '-' :: rest) := by
    apply readYear?_yearText
    rintro _ ⟨⟩
    rfl
  have bound : date.day ≤ 31 := Nat.le_trans date.isDay.2.2.2 (daysInMonth_le _ _)
  have month (rest : List Char) : readField? 1 12 (paddedDigits 2 date.month ++ rest) =
      some (date.month, rest) :=
    LayoutItem.readField?_two_append date.month_lt date.isDay.2.1
  have day : readField? 1 31 (paddedDigits 2 date.day ++ []) = some (date.day, []) :=
    LayoutItem.readField?_two_append date.day_lt ⟨date.isDay.2.2.1, bound⟩
  rw [List.append_nil] at day
  unfold ofText? Layout.parse?
  rw [toList_text]
  have blank : Text.trimStart [] = [] := rfl
  have complete : DateParts.date? ⟨some date.year, some date.month, some date.day⟩ = some date :=
    dif_pos date.isDay
  simpa [dayLayout, Layout.write, LayoutItem.write, Layout.read?, LayoutItem.read?, dash, year,
    month, day, blank] using complete

end Date

end Reconciliation
