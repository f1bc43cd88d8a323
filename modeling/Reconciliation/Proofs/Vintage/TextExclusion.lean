import Reconciliation.Proofs.Calendar.StoredText
import Reconciliation.Proofs.Query.Lexeme
import Reconciliation.Vintage.Validation

/-! # Days left out of text columns

The exclusion of some days compares the stored text itself with the literals of the days. A stored
value that is read as a date is the written day only up to blanks around it and, in the dashed
layout, up to a time after it. So its row is left out exactly if the date is among the days and the
text is the written day (`leavesOut_iff_written`): a value with a time stays in, whatever days are
left out (`timedDay_not_left_out`).
-/

namespace Reconciliation

open Date

/-! ## Text literals -/

theorem quoteLiteral_of_noQuote {text : String} (noQuote : quoteMark ∉ text.toList) :
    (quoteLiteral text).toList = quoteMark :: (text.toList ++ [quoteMark]) := by
  have plain : text.toList.map quotedChar = text.toList.map fun c => [c] := by
    apply List.map_congr_left
    intro c member
    exact if_neg (ne_of_mem_of_not_mem member noQuote)
  rw [quoteLiteral, String.toList_ofList, List.flatMap_def, plain, ← List.flatMap_def,
    List.flatMap_singleton', List.cons_append]

namespace PartitionColumn

variable {column : PartitionColumn} {layout : TextLayout} {platform : Platform} {dates : List Date}
  {value : String} (storage : column.storage = .text layout)
include storage

/-- The literal of a day stands for the written day. -/
theorem literal_eq_quoteLiteral (date : Date) :
    column.literal platform date = quoteLiteral (layout.render date) := by
  have noQuote : quoteMark ∉ (layout.render date).toList := by
    intro member
    exact absurd (TextLayout.isDayChar_of_mem_render member) (by decide)
  rw [← String.toList_inj, quoteLiteral_of_noQuote noQuote, literal, storage]
  simp [toString, quoteMark]

/-- The predicate of an exclusion compares the column as it is stored. -/
theorem exclusionPredicate?_text (nonempty : dates ≠ []) :
    exclusionPredicate? platform column dates =
      some (column.identifier platform ++ " NOT IN (" ++
        ", ".intercalate (dates.map (column.literal platform)) ++ ")") := by
  have stored : column.dayExpression platform = column.identifier platform := by
    simp only [dayExpression, storage]
  rw [exclusionPredicate?_eq_ite, if_neg nonempty, stored]

end PartitionColumn

/-! ## Rows left out -/

/-- The exclusion of some days leaves out a stored text: its own literal is among those that the
column is compared with. -/
def PartitionColumn.LeavesOut (column : PartitionColumn) (platform : Platform) (dates : List Date)
    (value : String) : Prop :=
  quoteLiteral value ∈ dates.map (column.literal platform)

instance (column : PartitionColumn) (platform : Platform) (dates : List Date) (value : String) :
    Decidable (column.LeavesOut platform dates value) :=
  inferInstanceAs (Decidable (_ ∈ _))

namespace PartitionColumn

variable {column : PartitionColumn} {layout : TextLayout} {platform : Platform} {dates : List Date}
  {value : String} {date : Date}

/-- Only written days are left out. -/
theorem leavesOut_iff (storage : column.storage = .text layout) :
    column.LeavesOut platform dates value ↔ ∃ day ∈ dates, layout.render day = value := by
  unfold LeavesOut
  simp only [List.mem_map, literal_eq_quoteLiteral storage]
  constructor
  · rintro ⟨day, member, same⟩
    exact ⟨day, member, quoteLiteral_injective same⟩
  · rintro ⟨day, member, rfl⟩
    exact ⟨day, member, rfl⟩

/-- A written day that is read as a date is the day that its layout writes for this date. -/
theorem eq_of_parse?_render {day : Date}
    (detected : TextLayout.detect? [layout.render day] = some layout)
    (ascii : ∀ c ∈ (layout.render day).toList, Text.isDecimalDigit c = true → c.isDigit = true)
    (read : layout.parse? (layout.render day) = some date) : day = date := by
  obtain ⟨time, split, kind⟩ := TextLayout.exists_time_of_detect? detected ascii read
  rw [trimBoth_render] at split
  have noTime : time = [] := by
    rcases kind with none | ⟨-, hour, rfl⟩
    · exact none
    · have blank : ' ' ∈ (layout.render day).toList := by simp [split]
      exact absurd (TextLayout.isDayChar_of_mem_render blank) (by decide)
  rw [noTime, List.append_nil] at split
  exact TextLayout.render_injective (String.toList_inj.mp split)

/-- **The exclusion of some days leaves a row out exactly if the date that its stored text denotes
is among them and the text is the day as the layout writes it.** Otherwise blanks stand around the
day or, in the dashed layout, a time after it. -/
theorem leavesOut_iff_written (storage : column.storage = .text layout)
    (detected : TextLayout.detect? [value] = some layout)
    (ascii : ∀ c ∈ value.toList, Text.isDecimalDigit c = true → c.isDigit = true)
    (read : column.parse? value = some date) (nonempty : dates ≠ []) (platform : Platform) :
    exclusionPredicate? platform column dates =
        some (column.identifier platform ++ " NOT IN (" ++
          ", ".intercalate (dates.map (column.literal platform)) ++ ")") ∧
      (column.LeavesOut platform dates value ↔ date ∈ dates ∧ value = layout.render date) ∧
      (Text.trim value = layout.render date ∨
        layout = .dashed ∧ ∃ time, Text.trim value = layout.render date ++ " " ++ time) := by
  have denoted : layout.parse? value = some date := by
    rw [← read, parse?, storage]
  refine ⟨exclusionPredicate?_text storage nonempty, ?_, ?_⟩
  · rw [leavesOut_iff storage]
    constructor
    · rintro ⟨day, member, rfl⟩
      obtain rfl := eq_of_parse?_render detected ascii denoted
      exact ⟨member, rfl⟩
    · rintro ⟨member, written⟩
      exact ⟨date, member, written.symm⟩
  · obtain ⟨time, split, rfl | ⟨dashed, hour, rfl⟩⟩ :=
      TextLayout.exists_time_of_detect? detected ascii denoted
    · refine .inl (String.toList_inj.mp ?_)
      rw [Text.trim, String.toList_ofList, split, List.append_nil]
    · refine .inr ⟨dashed, String.ofList hour, String.toList_inj.mp ?_⟩
      simp [Text.trim, split]

/-- A day with a time after it is read as the day. -/
theorem leavesOut_iff_written_midnight :
    let column : PartitionColumn := ⟨"as_of", .text .dashed⟩
    let value := " 2024-01-05 00:00:00"
    let day : Date := ⟨2024, 1, 5, by decide⟩
    column.storage = .text .dashed ∧ TextLayout.detect? [value] = some .dashed ∧
      (∀ c ∈ value.toList, Text.isDecimalDigit c = true → c.isDigit = true) ∧
      column.parse? value = some day ∧ [day] ≠ [] ∧
      exclusionPredicate? .cloud column [day] =
        some (column.identifier .cloud ++ " NOT IN (" ++
          ", ".intercalate ([day].map (column.literal .cloud)) ++ ")") ∧
      (column.LeavesOut .cloud [day] value ↔
        day ∈ [day] ∧ value = TextLayout.dashed.render day) ∧
      (Text.trim value = TextLayout.dashed.render day ∨
        TextLayout.dashed = .dashed ∧
          ∃ time, Text.trim value = TextLayout.dashed.render day ++ " " ++ time) := by
  intro column value day
  have detected : TextLayout.detect? [value] = some .dashed := by decide +kernel
  have ascii : ∀ c ∈ value.toList, Text.isDecimalDigit c = true → c.isDigit = true := by
    have plain : value.toList.all (fun c => !Text.isDecimalDigit c || c.isDigit) = true := by
      decide +kernel
    intro c member digit
    simpa only [digit, Bool.not_true, Bool.false_or] using List.all_eq_true.mp plain c member
  have read : column.parse? value = some day := by decide +kernel
  exact ⟨rfl, detected, ascii, read, by decide,
    leavesOut_iff_written rfl detected ascii read (by decide) .cloud⟩

/-- **A day with a time after it stays in, although it is among the days left out.** -/
theorem timedDay_not_left_out :
    let column : PartitionColumn := ⟨"as_of", .text .dashed⟩
    let value := "2024-01-05 00:00:00"
    let day : Date := ⟨2024, 1, 5, by decide⟩
    TextLayout.detect? [value] = some .dashed ∧ column.parse? value = some day ∧
      ¬(column.LeavesOut .cloud [day] value ↔ day ∈ [day]) := by
  decide +kernel

end PartitionColumn

end Reconciliation
