import Reconciliation.Proofs.Query.TextExpression
import Reconciliation.Proofs.Text.ByteOrder
import Reconciliation.Session.Counting

/-! # Days that are stored as text

What a text layout does to a day of a four-digit year can be undone everywhere
(`TextLayout.keepsDay`): its layout is detected from the written day and reads it, the standard text
that a query asks for is read as the day when rows are counted, and the written days sort as bytes
in the order of the days.
-/

namespace Reconciliation

open Date

/-- The record of a day in the standard text is counted for this day. -/
theorem dayCountOf_standard {date : Date} (short : date.FourDigitYear) {column : PartitionColumn}
    {record : Record} {count : Nat}
    (told : record.get? partitionDateName = some (some (.text (TextLayout.dashed.render date))))
    (counted : rowCountOf record = .ok count) :
    dayCountOf column record = .ok (some (date, count)) := by
  rw [dayCountOf, told]
  simp only [Option.join_some, Scalar.display, TextLayout.parse?_render short, counted]
  rfl

namespace TextLayout

/-- A day survives being stored as text in a layout. -/
structure KeepsDay (layout : TextLayout) (date : Date) : Prop where
  read : layout.parse? (layout.render date) = some date
  detected : detect? [layout.render date] = some layout
  /-- After a dashed day a time makes no difference. -/
  timed : layout = .dashed → ∀ hour < 100, ∀ minute < 100, ∀ second < 100,
    let value := layout.render date ++ String.ofList (clockText hour minute second)
    detect? [value] = some layout ∧ layout.parse? value = some date
  /-- A query asks for the standard text by the expression of the layout. -/
  written : ∀ name platform, (⟨name, .text layout⟩ : PartitionColumn).standardExpression platform =
    layout.standardExpression.write (platform.identifier name)
  /-- The database computes the dashed day from the stored one. -/
  standard : String.ofList (layout.standardExpression.value (layout.render date).toList) =
    dashed.render date
  /-- The rows of a record with the standard text are counted for the day. -/
  counted : ∀ (column : PartitionColumn) (record : Record) (count : Nat),
    record.get? partitionDateName = some (some (.text
      (String.ofList (layout.standardExpression.value (layout.render date).toList)))) →
    rowCountOf record = .ok count → dayCountOf column record = .ok (some (date, count))
  sorted : ∀ other : Date, other.FourDigitYear →
    (Text.bytes (layout.render date) < Text.bytes (layout.render other) ↔ date < other)

/-- **A day of a four-digit year survives being stored as text, in every layout.** -/
theorem keepsDay (layout : TextLayout) {date : Date} (short : date.FourDigitYear) :
    layout.KeepsDay date := by
  have standard : String.ofList (layout.standardExpression.value (layout.render date).toList) =
      dashed.render date := by
    rw [value_render short, String.ofList_toList]
  constructor
  case read => exact parse?_render short
  case detected => exact detect?_render short
  case timed =>
    rintro rfl hour hours minute minutes second seconds
    exact dashed_of_clockText short hours minutes seconds
  case written => exact fun name => PartitionColumn.standardExpression_eq_write name layout
  case standard => exact standard
  case counted =>
    rw [standard]
    exact fun column record count => dayCountOf_standard short
  case sorted =>
    intro other shortOther
    rw [Text.bytes_lt_iff, render_lt_render_iff short shortOther]

/-- The first and the last day of the four-digit years, which no layout confuses. -/
theorem keepsDay_bounds :
    let first : Date := ⟨0, 1, 1, by decide⟩
    let last : Date := ⟨9999, 12, 31, by decide⟩
    (first.FourDigitYear ∧ last.FourDigitYear) ∧ compact.render first = "00000101" ∧
      compact.parse? "00000101" = some first ∧ slashed.parse? "9999/12/31" = some last := by
  intro first last
  have short : first.FourDigitYear ∧ last.FourDigitYear := by decide
  have written : compact.render first = "00000101" ∧ slashed.render last = "9999/12/31" := by
    decide
  have firstRead := (compact.keepsDay short.1).read
  have lastRead := (slashed.keepsDay short.2).read
  rw [written.1] at firstRead
  rw [written.2] at lastRead
  exact ⟨short, written.1, firstRead, lastRead⟩

end TextLayout

end Reconciliation
