import Reconciliation.Calendar.DayNumber
import Reconciliation.Proofs.Calendar.TextOrder
import Reconciliation.Proofs.Number.NumeralText
import Reconciliation.Proofs.Text.Blank

/-! # Numbers that are recognised as dates

A text that denotes a number has no mark after its digits, so of all recognised layouts only the one
without marks can read it. That layout reads four digits, two digits and one or two digits: a number
is recognised as a date exactly if it spells it as `YYYYMMDD`, or as `YYYYMMD` with the day in one
digit (`Date.recognise?_of_number`).
-/

namespace Reconciliation

-- Powers stay those of the core library, whatever else is imported beside this module.
attribute [local instance (high)] instPowNat

variable {cs whole rest : List Char} {c mark : Char} {date : Date} {width low high n : Nat}

/-! ## Reading digits -/

theorem takeWhile_take_spec (p : Char → Bool) (width : Nat) (cs : List Char) :
    let taken := (cs.take width).takeWhile p
    cs = taken ++ cs.drop taken.length ∧
      (taken.length < width → ∀ c ∈ (cs.drop taken.length).head?, p c = false) := by
  induction cs generalizing width with
  | nil => exact ⟨by simp, by simp⟩
  | cons c cs ih =>
      cases width with
      | zero => exact ⟨rfl, nofun⟩
      | succ width =>
          obtain ⟨split, ends⟩ := ih width
          rw [List.take_succ_cons]
          cases keep : p c with
          | false =>
              rw [List.takeWhile_cons_of_neg (Bool.eq_false_iff.mp keep)]
              refine ⟨rfl, fun _ => ?_⟩
              rintro _ ⟨⟩
              exact keep
          | true =>
              rw [List.takeWhile_cons_of_pos keep]
              refine ⟨congrArg (c :: ·) split, fun less => ends ?_⟩
              exact Nat.lt_of_succ_lt_succ less

/-- The digits at the head of a text, up to a number of them, and what follows. -/
structure DigitsUpTo (width : Nat) (cs whole rest : List Char) : Prop where
  digits : Digits whole
  bound : whole.length ≤ width
  ends : whole.length < width → ∀ c ∈ rest.head?, c.isDigit = false
  split : cs = whole ++ rest

theorem readDigits?_eq_some (read : readDigits? width cs = some (n, rest)) :
    ∃ whole, DigitsUpTo width cs whole rest ∧ n = natOfDigits whole := by
  unfold readDigits? at read
  dsimp only at read
  split at read
  · cases read
  · next nonempty =>
      obtain ⟨rfl, rfl⟩ := Prod.mk.inj (Option.some.inj read)
      obtain ⟨split, ends⟩ := takeWhile_take_spec Char.isDigit width cs
      refine ⟨_, ⟨⟨?_, ?_⟩, ?_, ends, split⟩, rfl⟩
      · exact fun empty => nonempty (List.isEmpty_iff.mpr empty)
      · exact List.all_eq_true.mp List.all_takeWhile
      · exact Nat.le_trans (List.takeWhile_sublist _).length_le (List.length_take_le ..)

theorem readField?_eq_some (trimmed : Text.trimStart cs = cs)
    (read : readField? low high cs = some (n, rest)) :
    ∃ whole, DigitsUpTo 2 cs whole rest ∧ n = natOfDigits whole := by
  unfold readField? at read
  rw [trimmed] at read
  exact readDigits?_eq_some (Option.filter_eq_some_iff.mp read).1

/-- Digits are read as far as they go, if they are as many as allowed or end the text. -/
theorem readDigits?_append (digits : Digits whole)
    (ends : whole.length = width ∨ whole.length ≤ width ∧ rest = []) :
    readDigits? width (whole ++ rest) = some (natOfDigits whole, rest) := by
  have taken : (whole ++ rest).take width = whole := by
    rcases ends with rfl | ⟨bound, rfl⟩
    · exact List.take_left
    · rw [List.append_nil, List.take_of_length_le bound]
  have kept : (whole ++ []).takeWhile Char.isDigit = whole :=
    Numeral.takeWhile_digits digits.all nofun
  rw [List.append_nil] at kept
  unfold readDigits?
  dsimp only
  rw [taken, kept, if_neg (mt List.isEmpty_iff.mp digits.nonempty), List.drop_left]

theorem trimStart_digits (digits : Digits whole) :
    Text.trimStart (whole ++ rest) = whole ++ rest := by
  obtain ⟨c, others, digit, rfl⟩ := digits.exists_cons
  apply Text.trimStart_of_head
  rintro _ ⟨⟩
  exact Text.isBlank_of_isDigit digit

theorem readField?_append (digits : Digits whole)
    (ends : whole.length = 2 ∨ whole.length ≤ 2 ∧ rest = []) (value : natOfDigits whole = n)
    (bounds : low ≤ n ∧ n ≤ high) : readField? low high (whole ++ rest) = some (n, rest) := by
  unfold readField?
  rw [trimStart_digits digits, readDigits?_append digits ends, value]
  simp [Option.filter, bounds]

theorem readYear?_append (digits : Digits whole) (four : whole.length = 4) :
    readYear? (whole ++ rest) = some ((natOfDigits whole : Int), rest) := by
  unfold readYear?
  rw [trimStart_digits digits]
  obtain ⟨c, others, digit, rfl⟩ := digits.exists_cons
  split
  · next same =>
      cases same
      cases digit
  · next same =>
      cases same
      cases digit
  · rw [readDigits?_append digits (.inl four)]
    rfl

/-! ## Layouts over texts of numbers -/

/-- A text begins with digits after an optional sign. -/
inductive Leads (whole : List Char) : List Char → List Char → Prop where
  | unsigned (rest : List Char) : Leads whole (whole ++ rest) rest
  | signed {sign : Char} (isSign : sign = '-' ∨ sign = '+') (rest : List Char) :
      Leads whole (sign :: (whole ++ rest)) rest

/-- After its first digits the text of a number goes on with a character of a numeral. -/
theorem not_ends_of_number (number : (Binary64.ofText? cs).isSome) (digits : Digits whole)
    (leads : Leads whole cs rest) : ∀ c ∈ rest.head?, ¬Numeral.Ends c := by
  intro c head ends
  obtain ⟨after, rfl⟩ : ∃ after, rest = c :: after := List.head?_eq_some_iff.mp head
  cases leads with
  | unsigned =>
      rw [Binary64.ofText?_eq_none_of_mark digits ends] at number
      cases number
  | signed isSign =>
      rcases isSign with rfl | rfl
      · change (Binary64.ofUnsignedText? true _).isSome at number
        rw [Binary64.ofUnsignedText?_eq_none_of_mark digits ends] at number
        cases number
      · change (Binary64.ofUnsignedText? false _).isSome at number
        rw [Binary64.ofUnsignedText?_eq_none_of_mark digits ends] at number
        cases number

theorem isBlank_of_not_ends (goesOn : ¬Numeral.Ends c) : Text.isBlank c = false := by
  cases blank : Text.isBlank c with
  | false => rfl
  | true =>
      refine (goesOn ⟨?_, ?_, ?_, ?_⟩).elim
      · cases digit : c.isDigit with
        | false => rfl
        | true =>
            rw [Text.isBlank_of_isDigit digit] at blank
            cases blank
      all_goals
        rintro rfl
        cases blank

theorem trimStart_of_number (number : (Binary64.ofText? cs).isSome) (digits : Digits whole)
    (leads : Leads whole cs rest) : Text.trimStart rest = rest :=
  Text.trimStart_of_head fun c head =>
    isBlank_of_not_ends (not_ends_of_number number digits leads c head)

/-- A year is read from digits after an optional sign. Where another digit follows them, they are
four and have no sign. -/
theorem readYear?_eq_some {year : Int} (trimmed : Text.trimStart cs = cs)
    (read : readYear? cs = some (year, rest)) :
    ∃ whole, Digits whole ∧ Leads whole cs rest ∧
      ((∀ c ∈ rest.head?, c.isDigit = false) ∨
        cs = whole ++ rest ∧ whole.length = 4 ∧ year = natOfDigits whole) := by
  have signed {sign : Char} {unsigned after : List Char} {n : Nat}
      (isSign : sign = '-' ∨ sign = '+')
      (found : readDigits? unsigned.length unsigned = some (n, after)) :
      ∃ whole, Digits whole ∧ Leads whole (sign :: unsigned) after ∧
        ∀ c ∈ after.head?, c.isDigit = false := by
    obtain ⟨whole, ⟨digits, -, ends, rfl⟩, -⟩ := readDigits?_eq_some found
    refine ⟨whole, digits, .signed isSign after, fun c head => ends ?_ c head⟩
    obtain ⟨later, rfl⟩ := List.head?_eq_some_iff.mp head
    rw [List.length_append, List.length_cons]
    omega
  unfold readYear? at read
  rw [trimmed] at read
  split at read
  · obtain ⟨⟨n, after⟩, found, same⟩ := Option.map_eq_some_iff.mp read
    obtain ⟨-, rfl⟩ := Prod.mk.inj same
    obtain ⟨whole, digits, leads, ends⟩ := signed (.inl rfl) found
    exact ⟨whole, digits, leads, .inl ends⟩
  · obtain ⟨⟨n, after⟩, found, same⟩ := Option.map_eq_some_iff.mp read
    obtain ⟨-, rfl⟩ := Prod.mk.inj same
    obtain ⟨whole, digits, leads, ends⟩ := signed (.inr rfl) found
    exact ⟨whole, digits, leads, .inl ends⟩
  · obtain ⟨⟨n, after⟩, found, same⟩ := Option.map_eq_some_iff.mp read
    obtain ⟨rfl, rfl⟩ := Prod.mk.inj same
    obtain ⟨whole, ⟨digits, bound, ends, split⟩, value⟩ := readDigits?_eq_some found
    refine ⟨whole, digits, split ▸ .unsigned after, ?_⟩
    rcases Nat.lt_or_eq_of_le bound with less | four
    · exact .inl (ends less)
    · exact .inr ⟨split, four, congrArg Int.ofNat value⟩

theorem read?_cons_eq_some_iff {item : LayoutItem} {layout : Layout} {parts final : DateParts} :
    Layout.read? (item :: layout) parts cs = some final ↔
      ∃ more rest, item.read? parts cs = some (more, rest) ∧
        layout.read? more rest = some final := by
  rw [Layout.read?]
  cases item.read? parts cs with
  | none => exact ⟨nofun, nofun⟩
  | some result =>
      constructor
      · intro found
        exact ⟨result.1, result.2, rfl, found⟩
      · rintro ⟨more, rest, ⟨⟩, found⟩
        exact found

/-- A layout with a mark after its first number reads no text of a number. -/
theorem parse?_eq_none_of_mark (number : (Binary64.ofText? cs).isSome)
    (trimmed : Text.trimStart cs = cs) {item : LayoutItem} (first : item = .year ∨ item = .day)
    (ends : Numeral.Ends mark) (layout : Layout) :
    Layout.parse? (item :: .mark mark :: layout) cs = none := by
  unfold Layout.parse?
  rw [Option.bind_eq_none_iff]
  intro final found
  obtain ⟨parts, rest, read, found⟩ := read?_cons_eq_some_iff.mp found
  obtain ⟨more, after, marked, -⟩ := read?_cons_eq_some_iff.mp found
  obtain ⟨whole, digits, leads⟩ : ∃ whole, Digits whole ∧ Leads whole cs rest := by
    rcases first with rfl | rfl
    · obtain ⟨⟨year, after⟩, readYear, same⟩ := Option.map_eq_some_iff.mp read
      obtain ⟨-, rfl⟩ := Prod.mk.inj same
      obtain ⟨whole, digits, leads, -⟩ := readYear?_eq_some trimmed readYear
      exact ⟨whole, digits, leads⟩
    · obtain ⟨⟨day, after⟩, readDay, same⟩ := Option.map_eq_some_iff.mp read
      obtain ⟨-, rfl⟩ := Prod.mk.inj same
      obtain ⟨whole, ⟨digits, -, -, rfl⟩, -⟩ := readField?_eq_some trimmed readDay
      exact ⟨whole, digits, .unsigned after⟩
  have goesOn := not_ends_of_number number digits leads
  cases rest with
  | nil => cases marked
  | cons c rest =>
      have other : mark ≠ c := fun same => goesOn c rfl (same ▸ ends)
      rw [LayoutItem.read?, if_neg other] at marked
      cases marked

/-! ## Dates without marks -/

/-- The layout without marks reads a year, a month and a day one after another. -/
theorem parse?_dayLayout_eq_some_iff :
    (Date.dayLayout []).parse? cs = some date ↔
      ∃ year month day afterYear afterMonth, readYear? cs = some (year, afterYear) ∧
        readField? 1 12 afterYear = some (month, afterMonth) ∧
        readField? 1 31 afterMonth = some (day, []) ∧ Date.of? year month day = some date := by
  constructor
  · intro found
    obtain ⟨final, read, complete⟩ := Option.bind_eq_some_iff.mp found
    obtain ⟨_, _, first, read⟩ := read?_cons_eq_some_iff.mp read
    obtain ⟨_, _, second, read⟩ := read?_cons_eq_some_iff.mp read
    obtain ⟨_, _, third, read⟩ := read?_cons_eq_some_iff.mp read
    obtain ⟨⟨year, afterYear⟩, readYear, same⟩ := Option.map_eq_some_iff.mp first
    obtain ⟨rfl, rfl⟩ := Prod.mk.inj same
    obtain ⟨⟨month, afterMonth⟩, readMonth, same⟩ := Option.map_eq_some_iff.mp second
    obtain ⟨rfl, rfl⟩ := Prod.mk.inj same
    obtain ⟨⟨day, afterDay⟩, readDay, same⟩ := Option.map_eq_some_iff.mp third
    obtain ⟨rfl, rfl⟩ := Prod.mk.inj same
    cases afterDay with
    | nil =>
        cases read
        exact ⟨year, month, day, afterYear, afterMonth, readYear, readMonth, readDay, complete⟩
    | cons c rest => cases read
  · rintro ⟨year, month, day, afterYear, afterMonth, readYear, readMonth, readDay, complete⟩
    refine Option.bind_eq_some_iff.mpr ⟨⟨some year, some month, some day⟩, ?_, complete⟩
    refine read?_cons_eq_some_iff.mpr ⟨_, _, by rw [LayoutItem.read?, readYear]; rfl, ?_⟩
    refine read?_cons_eq_some_iff.mpr ⟨_, _, by rw [LayoutItem.read?, readMonth]; rfl, ?_⟩
    exact read?_cons_eq_some_iff.mpr ⟨_, _, by rw [LayoutItem.read?, readDay]; rfl, rfl⟩

/-- Of a number the layout without marks reads four digits, two digits and one or two digits. -/
theorem exists_digits_of_parse? (number : (Binary64.ofText? cs).isSome)
    (trimmed : Text.trimStart cs = cs) (found : (Date.dayLayout []).parse? cs = some date) :
    ∃ year month day, Digits year ∧ Digits month ∧ Digits day ∧ cs = year ++ month ++ day ∧
      year.length = 4 ∧ month.length = 2 ∧ (day.length = 1 ∨ day.length = 2) ∧
      Date.of? (natOfDigits year) (natOfDigits month) (natOfDigits day) = some date := by
  obtain ⟨_, _, _, _, afterMonth, readYear, readMonth, readDay, made⟩ :=
    parse?_dayLayout_eq_some_iff.mp found
  obtain ⟨year, yearDigits, leads, shape⟩ := readYear?_eq_some trimmed readYear
  obtain ⟨month, ⟨monthDigits, monthBound, monthEnds, rfl⟩, rfl⟩ :=
    readField?_eq_some (trimStart_of_number number yearDigits leads) readMonth
  obtain ⟨rfl, four, rfl⟩ := shape.resolve_left monthDigits.not_head_noDigit
  have longer : Leads (year ++ month) (year ++ (month ++ afterMonth)) afterMonth :=
    List.append_assoc .. ▸ .unsigned afterMonth
  obtain ⟨day, ⟨dayDigits, dayBound, -, rfl⟩, rfl⟩ := readField?_eq_some
    (trimStart_of_number number (yearDigits.append monthDigits.all) longer) readDay
  have two : month.length = 2 := by
    refine Nat.le_antisymm monthBound (Nat.not_lt.mp fun less => ?_)
    exact dayDigits.not_head_noDigit (monthEnds less)
  have positive := dayDigits.length_pos
  rw [List.append_nil, ← List.append_assoc]
  exact ⟨year, month, day, yearDigits, monthDigits, dayDigits, rfl, four, two, by omega, made⟩

theorem eq_paddedDigits (digits : Digits whole) (length : whole.length = width) :
    whole = paddedDigits width (natOfDigits whole) := by
  have positive : 0 < width := length ▸ digits.length_pos
  have small : natOfDigits whole < 10 ^ width := length ▸ natOfDigits_lt digits.all
  have lengths : whole.length = (paddedDigits width (natOfDigits whole)).length := by
    rw [length_paddedDigits positive small, length]
  have padded := (digits_paddedDigits width (natOfDigits whole)).all
  apply Std.le_antisymm
  · rw [← Std.not_lt, digits_lt_iff lengths.symm padded digits.all, natOfDigits_paddedDigits]
    exact Nat.lt_irrefl _
  · rw [← Std.not_lt, digits_lt_iff lengths digits.all padded, natOfDigits_paddedDigits]
    exact Nat.lt_irrefl _

theorem paddedDigits_one (n : Nat) : paddedDigits 1 n = digitsOf n := by
  have filled : 1 - (digitsOf n).length = 0 :=
    Nat.sub_eq_zero_of_le (digits_digitsOf n).length_pos
  unfold paddedDigits
  dsimp only
  rw [filled]
  rfl

namespace Date

/-- The text of a date without marks, its day in the given digits. -/
def unmarked (date : Date) (day : List Char) : List Char :=
  yearText date.year ++ paddedDigits 2 date.month ++ day

/-- A text spells a date without marks, as `YYYYMMDD` or, its day in one digit, as `YYYYMMD`. -/
def Unmarked (date : Date) (cs : List Char) : Prop :=
  cs = date.unmarked (paddedDigits 2 date.day) ∨
    date.day < 10 ∧ cs = date.unmarked (digitsOf date.day)

theorem Unmarked.exists_day (spelled : date.Unmarked cs) :
    ∃ day, Digits day ∧ day.length ≤ 2 ∧ natOfDigits day = date.day ∧ cs = date.unmarked day := by
  rcases spelled with rfl | ⟨single, rfl⟩
  · have two : (paddedDigits 2 date.day).length = 2 := length_paddedDigits (by decide) date.day_lt
    exact ⟨_, digits_paddedDigits 2 _, Nat.le_of_eq two, natOfDigits_paddedDigits 2 _, rfl⟩
  · have one : (digitsOf date.day).length ≤ 1 :=
      (Nat.length_toDigits_le_iff (by decide) (by decide)).mpr single
    exact ⟨_, digits_digitsOf _, Nat.le_trans one (by decide), natOfDigits_digitsOf _, rfl⟩

theorem length_monthDigits (date : Date) : (paddedDigits 2 date.month).length = 2 :=
  length_paddedDigits (by decide) date.month_lt

theorem length_yearDigits (short : date.FourDigitYear) :
    (paddedDigits 4 date.year.toNat).length = 4 := by
  obtain ⟨low, high⟩ := short
  exact length_paddedDigits (by decide) (by omega)

/-- Spellings without marks are up to eight digits. -/
theorem Unmarked.eightDigits (short : date.FourDigitYear) (spelled : date.Unmarked cs) :
    Digits cs ∧ cs.length ≤ 8 := by
  obtain ⟨day, digits, places, _, rfl⟩ := spelled.exists_day
  unfold unmarked
  rw [yearText_of_fourDigit short]
  constructor
  · exact ((digits_paddedDigits 4 _).append (digits_paddedDigits 2 _).all).append digits.all
  · rw [List.length_append, List.length_append, length_yearDigits short, length_monthDigits]
    omega

end Date

theorem unmarked_of_parse? (number : (Binary64.ofText? cs).isSome)
    (trimmed : Text.trimStart cs = cs) (found : (Date.dayLayout []).parse? cs = some date) :
    date.FourDigitYear ∧ date.Unmarked cs := by
  obtain ⟨year, month, day, yearDigits, monthDigits, dayDigits, rfl, four, two, places, made⟩ :=
    exists_digits_of_parse? number trimmed found
  obtain ⟨yearEq, monthEq, dayEq⟩ := Date.of?_eq_some made
  have small : natOfDigits year < 10 ^ 4 := four ▸ natOfDigits_lt yearDigits.all
  have short : date.FourDigitYear := by
    constructor <;> omega
  have yearText : yearText date.year = year := by
    rw [Date.yearText_of_fourDigit short, yearEq, Int.toNat_natCast,
      ← eq_paddedDigits yearDigits four]
  have monthText : paddedDigits 2 date.month = month := by
    rw [monthEq, ← eq_paddedDigits monthDigits two]
  refine ⟨short, ?_⟩
  unfold Date.Unmarked Date.unmarked
  rw [yearText, monthText, dayEq]
  rcases places with one | both
  · right
    have single := natOfDigits_lt dayDigits.all
    rw [one] at single
    rw [← paddedDigits_one, ← eq_paddedDigits dayDigits one]
    exact ⟨single, rfl⟩
  · left
    rw [← eq_paddedDigits dayDigits both]

theorem parse?_unmarked (short : date.FourDigitYear) (spelled : date.Unmarked cs) :
    (Date.dayLayout []).parse? cs = some date := by
  obtain ⟨day, digits, places, value, rfl⟩ := spelled.exists_day
  have readYear : readYear? (date.unmarked day) =
      some (date.year, paddedDigits 2 date.month ++ day) := by
    unfold Date.unmarked
    rw [Date.yearText_of_fourDigit short, List.append_assoc,
      readYear?_append (digits_paddedDigits 4 _) (Date.length_yearDigits short),
      natOfDigits_paddedDigits, Int.toNat_of_nonneg short.1]
  have readMonth : readField? 1 12 (paddedDigits 2 date.month ++ day) = some (date.month, day) :=
    readField?_append (digits_paddedDigits 2 _) (.inl date.length_monthDigits)
      (natOfDigits_paddedDigits 2 _) date.isDay.2.1
  have readDay : readField? 1 31 (day ++ []) = some (date.day, []) := by
    apply readField?_append digits (.inr ⟨places, rfl⟩) value
    exact ⟨date.isDay.2.2.1, Nat.le_trans date.isDay.2.2.2 (Date.daysInMonth_le ..)⟩
  rw [List.append_nil] at readDay
  exact parse?_dayLayout_eq_some_iff.mpr
    ⟨_, _, _, _, _, readYear, readMonth, readDay, dif_pos date.isDay⟩

/-! ## Recognition -/

namespace Date

variable {value : String}

/-- Of the recognised layouts only the one without marks reads numbers. -/
theorem parse?_of_mem_recognisedLayouts
    (number : (Binary64.ofText? (Text.trimBoth value.toList)).isSome) {layout : Layout}
    (listed : layout ∈ recognisedLayouts) :
    layout.parse? (Text.trimBoth value.toList) = none ∨ layout = dayLayout [] := by
  have dash : Numeral.Ends '-' := by decide
  have slash : Numeral.Ends '/' := by decide
  have marked {item : LayoutItem} {mark : Char} (first : item = .year ∨ item = .day)
      (ends : Numeral.Ends mark) (layout : Layout) :
      Layout.parse? (item :: .mark mark :: layout) (Text.trimBoth value.toList) = none :=
    parse?_eq_none_of_mark number (Text.trimStart_trimBoth _) first ends layout
  simp only [recognisedLayouts, List.mem_cons, List.not_mem_nil, or_false] at listed
  rcases listed with rfl | rfl | rfl | rfl | rfl | rfl | rfl | rfl | rfl
  · exact .inl (marked (.inl rfl) dash _)
  · exact .inl (marked (.inl rfl) slash _)
  · exact .inl (marked (.inr rfl) dash _)
  · exact .inl (marked (.inr rfl) slash _)
  · exact .inr rfl
  · exact .inl (marked (.inl rfl) dash _)
  · exact .inl (marked (.inl rfl) dash _)
  · exact .inl (marked (.inl rfl) slash _)
  · exact .inl (marked (.inr rfl) dash _)

theorem recognise?_eq_parse? (number : (Binary64.ofText? (Text.trimBoth value.toList)).isSome) :
    recognise? value = (dayLayout []).parse? (Text.trimBoth value.toList) := by
  apply Option.ext
  intro date
  constructor
  · intro found
    obtain ⟨layout, listed, read⟩ := List.exists_of_findSome?_eq_some found
    rcases parse?_of_mem_recognisedLayouts number listed with none | rfl
    · rw [none] at read
      cases read
    · exact read
  · intro read
    refine List.findSome?_eq_some_iff.mpr
      ⟨recognisedLayouts.take 4, dayLayout [], recognisedLayouts.drop 5, rfl, read, ?_⟩
    intro layout earlier
    have others : dayLayout [] ∉ recognisedLayouts.take 4 := by decide
    refine (parse?_of_mem_recognisedLayouts number (List.mem_of_mem_take earlier)).resolve_right ?_
    rintro rfl
    exact others earlier

/-- **A number is recognised as a date exactly if it spells the date without marks.** -/
theorem recognise?_of_number (number : (Binary64.ofText? (Text.trimBoth value.toList)).isSome) :
    recognise? value = some date ↔
      date.FourDigitYear ∧ date.Unmarked (Text.trimBoth value.toList) := by
  rw [recognise?_eq_parse? number]
  constructor
  · exact unmarked_of_parse? number (Text.trimStart_trimBoth _)
  · rintro ⟨short, spelled⟩
    exact parse?_unmarked short spelled

end Date

end Reconciliation
