import Reconciliation.Proofs.Calendar.Spelling
import Reconciliation.Proofs.Statistic.FlexibleNumbers

/-! # Dates under the flexible comparison

A date is recognised in whichever layout it was written, so two dates are equal under a flexible
comparison that looks for dates exactly if they are the same day, whatever their layouts, their
times of day and the blanks around them (`ComparisonKind.flexibleString_accepts_dates`).
-/

namespace Reconciliation.ComparisonKind

/-- **Dates are compared as days, independently of the layouts in which they are written.** -/
theorem flexibleString_accepts_dates {layout otherLayout : Layout}
    (listed : layout ∈ Date.recognisedLayouts) (otherListed : otherLayout ∈ Date.recognisedLayouts)
    {date other : Date} {left right : Scalar} (written : Date.WrittenIn layout date left.display)
    (otherWritten : Date.WrittenIn otherLayout other right.display) (tryNumeric : Bool)
    (tolerance : Tolerance) :
    Date.recognise? left.display = some date ∧
      ((flexibleString true tryNumeric tolerance).accepts (.scalar (some left))
        (.scalar (some right)) = true ↔ date = other) := by
  have leftDay := Date.recognise?_of_writtenIn listed written
  have rightDay := Date.recognise?_of_writtenIn otherListed otherWritten
  refine ⟨leftDay, ?_⟩
  rw [flexibleString_accepts_of_days leftDay rightDay, decide_eq_true_iff]

/-- The fifth of January in the legacy layout and, with a time, in the dashed one. -/
theorem flexibleString_accepts_dates_january :
    let left : Scalar := .text "05-jAN-24"
    let right : Scalar := .text " 2024-01-05 13:45:00.250"
    Date.recognise? left.display = some ⟨2024, 1, 5, by decide⟩ ∧
      (flexibleString true false .standard).accepts (.scalar (some left)) (.scalar (some right)) =
        true := by
  intro left right
  let date : Date := ⟨2024, 1, 5, by decide⟩
  have january : LayoutItem.Spells date .monthName ['j', 'A', 'N'] := .monthName (by decide)
  have hour : LayoutItem.Spells date .hour ['1', '3'] := .hour (show 13 < 24 by decide)
  have minute : LayoutItem.Spells date .minute ['4', '5'] := .minute (show 45 < 60 by decide)
  have second : LayoutItem.Spells date .second ['0', '0'] := .second (show 0 ≤ 60 by decide)
  have fraction : LayoutItem.Spells date .fraction ['.', '2', '5', '0'] :=
    .fraction ⟨by decide, List.all_eq_true.mp (by decide)⟩
  have legacy : Date.WrittenIn [.day, .mark '-', .monthName, .mark '-', .shortYear] date
      left.display :=
    ⟨[], _, [], by decide, .cons .day <| .cons (.mark '-') <| .cons january <| .cons (.mark '-') <|
      .cons (.shortYear (by decide)) .nil, nofun, nofun⟩
  have moment : Date.WrittenIn (Date.dayLayout [.mark '-'] ++
      [.blank, .hour, .mark ':', .minute, .mark ':', .second] ++ [.fraction]) date right.display :=
    ⟨[' '], _, [], by decide, .cons (.year (by decide)) <| .cons (.mark '-') <| .cons .month <|
      .cons (.mark '-') <| .cons .day <| .cons .blank <| .cons hour <| .cons (.mark ':') <|
      .cons minute <| .cons (.mark ':') <| .cons second <| .cons fraction .nil,
      List.all_eq_true.mp (by decide), nofun⟩
  obtain ⟨leftDay, accepted⟩ := flexibleString_accepts_dates (by decide) (by decide) legacy moment
    false .standard
  exact ⟨leftDay, accepted.mpr rfl⟩

end Reconciliation.ComparisonKind
