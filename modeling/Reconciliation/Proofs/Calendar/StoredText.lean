import Reconciliation.Proofs.Calendar.Recognition

/-! # Days kept as text

A written day holds digits and marks only and determines its date (`render_injective`). Digits of
the widths that a layout writes are read as the date that they spell (`eq_render_of_parse?`). So a
value whose layout is detected is, without the blanks around it, the written day itself or, where
dashes are the marks, the written day and a time (`exists_time_of_detect?`).
-/

namespace Reconciliation

-- Powers stay those of the core library, whatever else is imported beside this module.
attribute [local instance (high)] instPowNat

open Date

variable {layout : TextLayout} {cs year month day rest : List Char} {c : Char}

/-! ## Written days -/

/-- A character that written days consist of. -/
def IsDayChar (c : Char) : Prop :=
  c.isDigit = true ∨ c = '-' ∨ c = '+' ∨ c = '/'

instance (c : Char) : Decidable (IsDayChar c) :=
  inferInstanceAs (Decidable (_ ∨ _))

theorem isDayChar_of_mem_yearText {year : Int} (member : c ∈ yearText year) : IsDayChar c := by
  unfold yearText at member
  split at member
  · exact .inl (isDigit_of_mem_paddedDigits member)
  · rcases List.mem_cons.mp member with sign | digit
    · split at sign
      · exact .inr (.inl sign)
      · exact .inr (.inr (.inl sign))
    · exact .inl (isDigit_of_mem_paddedDigits digit)

namespace TextLayout

theorem isDayChar_of_mem_separator (member : c ∈ layout.separator) : IsDayChar c := by
  cases layout with
  | compact => cases member
  | dashed => exact .inr (.inl (List.mem_singleton.mp member))
  | slashed => exact .inr (.inr (.inr (List.mem_singleton.mp member)))

theorem isDayChar_of_mem_render {date : Date} (member : c ∈ (layout.render date).toList) :
    IsDayChar c := by
  simp only [toList_render, List.mem_append] at member
  rcases member with year | mark | month | mark | day
  · exact isDayChar_of_mem_yearText year
  · exact isDayChar_of_mem_separator mark
  · exact .inl (isDigit_of_mem_paddedDigits month)
  · exact isDayChar_of_mem_separator mark
  · exact .inl (isDigit_of_mem_paddedDigits day)

/-- **A written day determines its date.** -/
theorem render_injective {a b : Date} (same : layout.render a = layout.render b) : a = b := by
  have lists := congrArg String.toList same
  simp only [toList_render, ← List.append_assoc] at lists
  obtain ⟨lists, days⟩ := append_twoDigits_inj a.day_lt b.day_lt lists
  obtain ⟨lists, months⟩ :=
    append_twoDigits_inj a.month_lt b.month_lt (List.append_cancel_right lists)
  exact eq_of_fields (yearText_injective (List.append_cancel_right lists)) months days

end TextLayout

theorem isBlank_of_isDayChar (isDayChar : IsDayChar c) : Text.isBlank c = false := by
  rcases isDayChar with digit | rfl | rfl | rfl
  · exact Text.isBlank_of_isDigit digit
  all_goals rfl

/-- A written day has no blanks around it. -/
theorem trimBoth_render (layout : TextLayout) (date : Date) :
    Text.trimBoth (layout.render date).toList = (layout.render date).toList :=
  Text.trimBoth_eq_self fun _ member =>
    isBlank_of_isDayChar (TextLayout.isDayChar_of_mem_render member)

/-! ## Reading digits of fixed width -/

theorem readField?_two {low high n : Nat} {after : List Char} (digits : Digits cs)
    (two : cs.length = 2) (read : readField? low high (cs ++ rest) = some (n, after)) :
    n = natOfDigits cs ∧ after = rest := by
  unfold readField? at read
  rw [trimStart_digits digits, readDigits?_append digits (.inl two)] at read
  obtain ⟨same, _⟩ := Option.filter_eq_some_iff.mp read
  cases same
  exact ⟨rfl, rfl⟩

theorem read?_marks (marks : List Char) (layout : Layout) (parts : DateParts) (cs : List Char) :
    Layout.read? (marks.map LayoutItem.mark ++ layout) parts (marks ++ cs) =
      layout.read? parts cs := by
  induction marks with
  | nil => rfl
  | cons c marks ih =>
      rw [List.map_cons, List.cons_append, List.cons_append, Layout.read?, LayoutItem.read?,
        if_pos rfl]
      exact ih

/-- Four, two and two digits with the marks of a layout between them. -/
structure FixedWidth (layout : TextLayout) (year month day cs : List Char) : Prop where
  yearDigits : Digits year
  monthDigits : Digits month
  dayDigits : Digits day
  yearWidth : year.length = 4
  monthWidth : month.length = 2
  dayWidth : day.length = 2
  split : cs = year ++ (layout.separator ++ (month ++ (layout.separator ++ day)))

namespace FixedWidth

variable (fixed : FixedWidth layout year month day cs)
include fixed

theorem isDayChar_of_mem (member : c ∈ cs) : IsDayChar c := by
  simp only [fixed.split, List.mem_append] at member
  rcases member with year | mark | month | mark | day
  · exact .inl (fixed.yearDigits.all c year)
  · exact TextLayout.isDayChar_of_mem_separator mark
  · exact .inl (fixed.monthDigits.all c month)
  · exact TextLayout.isDayChar_of_mem_separator mark
  · exact .inl (fixed.dayDigits.all c day)

theorem fields_of_parse? {date : Date} (found : layout.layout.parse? cs = some date) :
    date.year = natOfDigits year ∧ date.month = natOfDigits month ∧
      date.day = natOfDigits day := by
  have marked : layout.layout = .year ::
      (layout.separator.map .mark ++ .month :: (layout.separator.map .mark ++ [.day])) := by
    cases layout <;> rfl
  rw [marked, fixed.split] at found
  obtain ⟨final, read, complete⟩ := Option.bind_eq_some_iff.mp found
  obtain ⟨_, _, first, read⟩ := read?_cons_eq_some_iff.mp read
  rw [LayoutItem.read?, readYear?_append fixed.yearDigits fixed.yearWidth] at first
  cases first
  rw [read?_marks] at read
  obtain ⟨_, _, second, read⟩ := read?_cons_eq_some_iff.mp read
  obtain ⟨⟨n, after⟩, readMonth, same⟩ := Option.map_eq_some_iff.mp second
  obtain ⟨rfl, rfl⟩ := readField?_two fixed.monthDigits fixed.monthWidth readMonth
  cases same
  rw [read?_marks, ← List.append_nil day] at read
  obtain ⟨_, _, third, read⟩ := read?_cons_eq_some_iff.mp read
  obtain ⟨⟨n, after⟩, readDay, same⟩ := Option.map_eq_some_iff.mp third
  obtain ⟨rfl, rfl⟩ := readField?_two fixed.dayDigits fixed.dayWidth readDay
  cases same
  cases read
  exact of?_eq_some complete

/-- **A day in digits of fixed width is the text that its layout writes.** -/
theorem eq_render_of_parse? {date : Date} (found : layout.layout.parse? cs = some date) :
    cs = (layout.render date).toList := by
  obtain ⟨years, months, days⟩ := fixed.fields_of_parse? found
  have small : natOfDigits year < 10 ^ 4 := fixed.yearWidth ▸ natOfDigits_lt fixed.yearDigits.all
  have short : date.FourDigitYear := by
    constructor <;> omega
  rw [TextLayout.toList_render, yearText_of_fourDigit short, years, months, days,
    Int.toNat_natCast, ← eq_paddedDigits fixed.yearDigits fixed.yearWidth,
    ← eq_paddedDigits fixed.monthDigits fixed.monthWidth,
    ← eq_paddedDigits fixed.dayDigits fixed.dayWidth]
  exact fixed.split

end FixedWidth

/-! ## Detected layouts -/

/-- The character that stands for a character in the shape of a value. -/
def shapeChar (c : Char) : Char :=
  if Text.isDecimalDigit c then '0' else c

theorem eq_of_shapeChar {mark : Char} (noZero : mark ≠ '0') (shape : shapeChar c = mark) :
    c = mark := by
  unfold shapeChar at shape
  split at shape
  · exact (noZero shape.symm).elim
  · exact shape

theorem isDecimalDigit_of_shapeChar (shape : shapeChar c = '0') :
    Text.isDecimalDigit c = true := by
  unfold shapeChar at shape
  split at shape
  · assumption
  · rw [shape]
    decide

theorem eq_separator_of_shape (shape : cs.map shapeChar = layout.separator) :
    cs = layout.separator := by
  cases layout with
  | compact => exact List.map_eq_nil_iff.mp shape
  | dashed =>
      obtain ⟨c, rfl, mark⟩ := List.map_eq_singleton_iff.mp shape
      rw [eq_of_shapeChar (by decide) mark]
      rfl
  | slashed =>
      obtain ⟨c, rfl, mark⟩ := List.map_eq_singleton_iff.mp shape
      rw [eq_of_shapeChar (by decide) mark]
      rfl

/-- The shape of the days that a layout writes. -/
def TextLayout.dayShape (layout : TextLayout) : List Char :=
  List.replicate 4 '0' ++ (layout.separator ++
    (List.replicate 2 '0' ++ (layout.separator ++ List.replicate 2 '0')))

/-- A detected layout tells the shape of the value: a day, after which a dashed one may have a
time. -/
theorem shape_of_detect? {value : String} (detected : TextLayout.detect? [value] = some layout) :
    ∃ time, (Text.trimBoth value.toList).map shapeChar = layout.dayShape ++ time ∧
      (time = [] ∨ layout = .dashed ∧ time = " 00:00:00".toList) := by
  obtain ⟨first, found, detected⟩ := Option.bind_eq_some_iff.mp detected
  obtain rfl : first = Text.trimBoth value.toList :=
    List.mem_singleton.mp (List.mem_of_find?_eq_some found)
  have shaped {text : String} (same : TextLayout.shape (Text.trimBoth value.toList) = text) :
      (Text.trimBoth value.toList).map shapeChar = text.toList := by
    rw [← same, TextLayout.shape, String.toList_ofList]
    rfl
  dsimp only at detected
  split at detected
  · next compact =>
      cases detected
      exact ⟨[], shaped compact, .inl rfl⟩
  · split at detected
    · next dashed =>
        cases detected
        rcases dashed with day | moment
        · exact ⟨[], shaped day, .inl rfl⟩
        · exact ⟨_, shaped moment, .inr ⟨rfl, rfl⟩⟩
    · split at detected
      · next slashed =>
          cases detected
          exact ⟨[], shaped slashed, .inl rfl⟩
      · cases detected

section

variable (ascii : ∀ c ∈ cs, Text.isDecimalDigit c = true → c.isDigit = true)
include ascii

theorem digits_of_shape {width : Nat} (positive : 0 < width)
    (shape : cs.map shapeChar = List.replicate width '0') : Digits cs ∧ cs.length = width := by
  have length : cs.length = width := by
    rw [← List.length_map, shape, List.length_replicate]
  refine ⟨⟨List.ne_nil_of_length_pos (length ▸ positive), ?_⟩, length⟩
  intro c member
  have zero : shapeChar c ∈ List.replicate width '0' := shape ▸ List.mem_map_of_mem member
  exact ascii c member (isDecimalDigit_of_shapeChar (List.eq_of_mem_replicate zero))

/-- A value of the shape of a day starts with a day in digits of fixed width. -/
theorem exists_fixedWidth_of_shape {time : List Char}
    (shape : cs.map shapeChar = layout.dayShape ++ time) :
    ∃ year month day whole rest, FixedWidth layout year month day whole ∧ cs = whole ++ rest ∧
      rest.map shapeChar = time := by
  obtain ⟨whole, rest, rfl, shape, restShape⟩ := List.map_eq_append_iff.mp shape
  obtain ⟨year, afterYear, rfl, yearShape, shape⟩ := List.map_eq_append_iff.mp shape
  obtain ⟨mark, afterMark, rfl, markShape, shape⟩ := List.map_eq_append_iff.mp shape
  obtain ⟨month, afterMonth, rfl, monthShape, shape⟩ := List.map_eq_append_iff.mp shape
  obtain ⟨mark', day, rfl, markShape', dayShape⟩ := List.map_eq_append_iff.mp shape
  obtain rfl := eq_separator_of_shape markShape
  obtain rfl := eq_separator_of_shape markShape'
  have part {part : List Char} (inside : ∀ c ∈ part, c ∈ year ++ (layout.separator ++
      (month ++ (layout.separator ++ day))) ++ rest) :
      ∀ c ∈ part, Text.isDecimalDigit c = true → c.isDigit = true :=
    fun c member => ascii c (inside c member)
  obtain ⟨yearDigits, four⟩ := digits_of_shape (part (by simp +contextual)) (by decide) yearShape
  obtain ⟨monthDigits, two⟩ := digits_of_shape (part (by simp +contextual)) (by decide) monthShape
  obtain ⟨dayDigits, two'⟩ := digits_of_shape (part (by simp +contextual)) (by decide) dayShape
  exact ⟨year, month, day, _, rest, ⟨yearDigits, monthDigits, dayDigits, four, two, two', rfl⟩, rfl,
    restShape⟩

end

/-! ## Reading a stored value -/

theorem utf8Size_of_isDayChar (isDayChar : IsDayChar c) : c.utf8Size = 1 := by
  rw [Char.utf8Size_eq_one_iff]
  rcases isDayChar with digit | rfl | rfl | rfl
  · simp only [Char.isDigit, Bool.and_eq_true, decide_eq_true_eq] at digit
    exact UInt32.le_trans digit.2 (by decide)
  all_goals decide

namespace TextLayout

/-- Characters of one byte each are as many as the bytes. -/
theorem headOfBytes?_append (narrow : ∀ c ∈ cs, c.utf8Size = 1) :
    headOfBytes? cs.length (cs ++ rest) = some cs := by
  induction cs with
  | nil => rw [List.length_nil, headOfBytes?]
  | cons c cs ih =>
      obtain ⟨one, narrow⟩ := List.forall_mem_cons.mp narrow
      rw [List.length_cons, List.cons_append, headOfBytes?, if_pos (by omega), one,
        Nat.add_sub_cancel, ih narrow, Option.map_some]

/-- A value is read as the day with which it begins: after a dashed day the rest is cut off, after
any other day there must be no rest. -/
theorem parse?_eq_of_split {value : String} {whole time : List Char}
    (fixed : FixedWidth layout year month day whole)
    (split : Text.trimBoth value.toList = whole ++ time) (ends : time = [] ∨ layout = .dashed) :
    layout.parse? value = layout.layout.parse? whole := by
  unfold parse?
  dsimp only
  rw [split]
  cases layout with
  | compact =>
      obtain rfl := ends.resolve_right nofun
      rw [List.append_nil]
  | slashed =>
      obtain rfl := ends.resolve_right nofun
      rw [List.append_nil]
  | dashed =>
      have ten : whole.length = 10 := by
        simp [fixed.split, separator, fixed.yearWidth, fixed.monthWidth, fixed.dayWidth]
      have head : headOfBytes? whole.length (whole ++ time) = some whole :=
        headOfBytes?_append fun c member => utf8Size_of_isDayChar (fixed.isDayChar_of_mem member)
      rw [ten] at head
      rw [head, Option.getD_some]

/-- **A value whose layout is detected is the written day that it denotes, up to blanks around it
and, where dashes are the marks, up to a time after it.** -/
theorem exists_time_of_detect? {value : String} {date : Date}
    (detected : detect? [value] = some layout)
    (ascii : ∀ c ∈ value.toList, Text.isDecimalDigit c = true → c.isDigit = true)
    (read : layout.parse? value = some date) :
    ∃ time, Text.trimBoth value.toList = (layout.render date).toList ++ time ∧
      (time = [] ∨ layout = .dashed ∧ ∃ hour, time = ' ' :: hour) := by
  obtain ⟨timeShape, shape, kind⟩ := shape_of_detect? detected
  obtain ⟨year, month, day, whole, time, fixed, split, restShape⟩ := exists_fixedWidth_of_shape
    (fun c member => ascii c ((Text.trimBoth_sublist _).mem member)) shape
  have kind : time = [] ∨ layout = .dashed ∧ ∃ hour, time = ' ' :: hour := by
    rcases kind with rfl | ⟨dashed, rfl⟩
    · exact .inl (List.map_eq_nil_iff.mp restShape)
    · obtain ⟨c, hour, rfl, blank, -⟩ := List.map_eq_cons_iff.mp restShape
      obtain rfl : c = ' ' := eq_of_shapeChar (by decide) blank
      exact .inr ⟨dashed, hour, rfl⟩
  have denoted : layout.layout.parse? whole = some date := by
    rw [← read, parse?_eq_of_split fixed split (kind.imp_right And.left)]
  rw [← fixed.eq_render_of_parse? denoted]
  exact ⟨time, split, kind⟩

end TextLayout

end Reconciliation
