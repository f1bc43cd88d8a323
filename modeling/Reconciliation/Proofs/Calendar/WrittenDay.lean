import Reconciliation.Proofs.Calendar.Spelling
import Reconciliation.Proofs.Calendar.StoredText

/-! # Written days read back

A day of a four-digit year has fixed places for its digits and marks (`fixedWidth_render`). So a
layout reads the day that it wrote and is detected from it, and after a dashed day a time of day
makes no difference to either (`TextLayout.parse?_of_split`, `TextLayout.detect?_of_split`).
-/

namespace Reconciliation

-- Powers stay those of the core library, whatever else is imported beside this module.
attribute [local instance (high)] instPowNat

open Date

variable {layout : TextLayout} {cs year month day time : List Char} {c : Char}
  {hour minute second : Nat}

/-! ## Shapes -/

theorem Text.isDecimalDigit_of_isDigit (digit : c.isDigit = true) :
    Text.isDecimalDigit c = true := by
  simp only [Char.isDigit, Bool.and_eq_true, decide_eq_true_eq] at digit
  have low : 48 ≤ c.toNat := digit.1
  have high : c.toNat ≤ 57 := digit.2
  rw [isDecimalDigit, List.any_eq_true]
  refine ⟨0x30, List.mem_cons_self, ?_⟩
  simp only [Bool.and_eq_true, decide_eq_true_eq]
  omega

/-- A text that begins and ends with digits has no blanks around it. -/
theorem Text.trimBoth_of_digits {first last : List Char} (begins : Digits first)
    (ends : Digits last) (middle : List Char) :
    Text.trimBoth (first ++ (middle ++ last)) = first ++ (middle ++ last) := by
  obtain ⟨c, others, digit, rfl⟩ := begins.exists_cons
  have final : (c :: others ++ (middle ++ last)).getLast? = some (last.getLast ends.nonempty) := by
    rw [List.getLast?_append, List.getLast?_append,
      List.getLast?_eq_some_getLast ends.nonempty, Option.some_or, Option.some_or]
  have kept : trimBoth ([] ++ (c :: others ++ (middle ++ last) ++ [])) =
      c :: others ++ (middle ++ last) :=
    trimBoth_append_append nofun nofun rfl final (isBlank_of_isDigit digit)
      (isBlank_of_isDigit (ends.all _ (List.getLast_mem ends.nonempty)))
  rwa [List.nil_append, List.append_nil] at kept

theorem map_shapeChar_digits (digits : Digits cs) :
    cs.map shapeChar = List.replicate cs.length '0' := by
  refine List.eq_replicate_iff.mpr ⟨List.length_map _, ?_⟩
  intro c member
  obtain ⟨d, digit, rfl⟩ := List.mem_map.mp member
  exact if_pos (Text.isDecimalDigit_of_isDigit (digits.all d digit))

theorem FixedWidth.map_shapeChar (fixed : FixedWidth layout year month day cs) :
    cs.map shapeChar = layout.dayShape := by
  have marks : layout.separator.map shapeChar = layout.separator := by
    cases layout <;> decide
  rw [fixed.split, List.map_append, List.map_append, List.map_append, List.map_append, marks,
    map_shapeChar_digits fixed.yearDigits, map_shapeChar_digits fixed.monthDigits,
    map_shapeChar_digits fixed.dayDigits, fixed.yearWidth, fixed.monthWidth, fixed.dayWidth]
  rfl

/-- A time of day, in two digits each, as it may stand after a day. -/
def clockText (hour minute second : Nat) : List Char :=
  ' ' :: (paddedDigits 2 hour ++ (':' :: (paddedDigits 2 minute ++ (':' :: paddedDigits 2 second))))

theorem map_shapeChar_clockText (hours : hour < 100) (minutes : minute < 100)
    (seconds : second < 100) :
    (clockText hour minute second).map shapeChar = " 00:00:00".toList := by
  have two {n : Nat} (small : n < 100) : (paddedDigits 2 n).map shapeChar = ['0', '0'] := by
    rw [map_shapeChar_digits (digits_paddedDigits 2 n), length_paddedDigits (by decide) small]
    rfl
  simp only [clockText, List.map_cons, List.map_append, two hours, two minutes, two seconds]
  decide

namespace TextLayout

/-- A value of the shape of a day, after which a dashed one may have a time, is of that layout. -/
theorem detect?_of_shape {value : String}
    (shape : (Text.trimBoth value.toList).map shapeChar = layout.dayShape ++ time)
    (kind : time = [] ∨ layout = .dashed ∧ time = " 00:00:00".toList) :
    detect? [value] = some layout := by
  have nonempty : Text.trimBoth value.toList ≠ [] := by
    intro empty
    rw [empty] at shape
    cases layout <;> cases shape
  have shaped : TextLayout.shape (Text.trimBoth value.toList) =
      String.ofList (layout.dayShape ++ time) :=
    congrArg String.ofList shape
  have first : ([value].map fun sample => Text.trimBoth sample.toList).find? (!·.isEmpty) =
      some (Text.trimBoth value.toList) := by
    rw [List.map_singleton, List.find?_singleton, if_pos]
    rw [Bool.not_eq_true', List.isEmpty_eq_false_iff]
    exact nonempty
  rw [detect?, first, Option.bind_eq_bind, Option.bind_some, shaped]
  rcases kind with rfl | ⟨rfl, rfl⟩
  · cases layout <;> rfl
  · rfl

/-- Every text layout is one of those in which dates are recognised. -/
theorem layout_mem_recognisedLayouts (layout : TextLayout) :
    layout.layout ∈ recognisedLayouts := by
  cases layout <;> decide

section

variable {date : Date} (short : date.FourDigitYear)
include short

theorem fixedWidth_render : FixedWidth layout (paddedDigits 4 date.year.toNat)
    (paddedDigits 2 date.month) (paddedDigits 2 date.day) (layout.render date).toList where
  yearDigits := digits_paddedDigits 4 _
  monthDigits := digits_paddedDigits 2 _
  dayDigits := digits_paddedDigits 2 _
  yearWidth := length_yearDigits short
  monthWidth := length_monthDigits date
  dayWidth := length_paddedDigits (by decide) date.day_lt
  split := by rw [toList_render, yearText_of_fourDigit short]

theorem spells_render : Layout.Spells date layout.layout (layout.render date).toList := by
  have lastDay : Layout.Spells date [.day] (paddedDigits 2 date.day ++ []) := .cons .day .nil
  rw [List.append_nil] at lastDay
  rw [toList_render]
  cases layout with
  | compact =>
      change Layout.Spells date [.year, .month, .day]
        (yearText date.year ++ (paddedDigits 2 date.month ++ paddedDigits 2 date.day))
      exact .cons (.year short) (.cons .month lastDay)
  | dashed =>
      exact .cons (.year short) (.cons (.mark '-') (.cons .month (.cons (.mark '-') lastDay)))
  | slashed =>
      exact .cons (.year short) (.cons (.mark '/') (.cons .month (.cons (.mark '/') lastDay)))

/-- **A value that begins with the written day is read as the day**, if nothing follows or dashes
are the marks. -/
theorem parse?_of_split {value : String}
    (split : Text.trimBoth value.toList = (layout.render date).toList ++ time)
    (ends : time = [] ∨ layout = .dashed) : layout.parse? value = some date := by
  rw [parse?_eq_of_split (fixedWidth_render short) split ends]
  exact Layout.parse?_of_spells (layout_mem_recognisedLayouts layout) (spells_render short)

/-- **The layout of a written day is detected**, also from a dashed day with a time. -/
theorem detect?_of_split {value : String}
    (split : Text.trimBoth value.toList = (layout.render date).toList ++ time)
    (kind : time = [] ∨ layout = .dashed ∧ time.map shapeChar = " 00:00:00".toList) :
    detect? [value] = some layout := by
  have shape : (Text.trimBoth value.toList).map shapeChar =
      layout.dayShape ++ time.map shapeChar := by
    rw [split, List.map_append, (fixedWidth_render short).map_shapeChar]
  exact detect?_of_shape shape (kind.imp_left List.map_eq_nil_iff.mpr)

omit short in
theorem trimBoth_render_eq_append_nil :
    Text.trimBoth (layout.render date).toList = (layout.render date).toList ++ [] := by
  rw [trimBoth_render, List.append_nil]

theorem parse?_render : layout.parse? (layout.render date) = some date :=
  parse?_of_split short trimBoth_render_eq_append_nil (.inl rfl)

theorem detect?_render : detect? [layout.render date] = some layout :=
  detect?_of_split short trimBoth_render_eq_append_nil (.inl rfl)

/-- A day with a time begins and ends with a digit. -/
theorem trimBoth_render_append_clockText (hour minute second : Nat) :
    Text.trimBoth ((layout.render date).toList ++ clockText hour minute second) =
      (layout.render date).toList ++ clockText hour minute second := by
  have split : (layout.render date).toList ++ clockText hour minute second =
      paddedDigits 4 date.year.toNat ++ (layout.separator ++ (paddedDigits 2 date.month ++
        (layout.separator ++ (paddedDigits 2 date.day ++ (' ' :: (paddedDigits 2 hour ++
          (':' :: (paddedDigits 2 minute ++ [':']))))))) ++ paddedDigits 2 second) := by
    simp [(fixedWidth_render short).split, clockText]
  rw [split]
  exact Text.trimBoth_of_digits (digits_paddedDigits 4 _) (digits_paddedDigits 2 _) _

/-- A dashed day with a time is detected and read as the day. -/
theorem dashed_of_clockText (hours : hour < 100) (minutes : minute < 100)
    (seconds : second < 100) :
    let value := dashed.render date ++ String.ofList (clockText hour minute second)
    detect? [value] = some .dashed ∧ dashed.parse? value = some date := by
  intro value
  have split : Text.trimBoth value.toList =
      (dashed.render date).toList ++ clockText hour minute second := by
    rw [String.toList_append, String.toList_ofList, trimBoth_render_append_clockText short]
  exact ⟨detect?_of_split short split (.inr ⟨rfl, map_shapeChar_clockText hours minutes seconds⟩),
    parse?_of_split short split (.inr rfl)⟩

end

end TextLayout

end Reconciliation
