import Reconciliation.Proofs.Calendar.TextOrder
import Reconciliation.Proofs.Vintage.UnitWindows

/-! # Windows over partitions kept as text

The predicate of a window compares stored texts with the texts of its bounds. Over the years `0` to
`9999` that selects the days of the window, whatever sign its first day has, as long as the day
after its last is written in four digits, too. The window that ends with the year `9999` has an end
that sorts before every stored text, and its predicate selects nothing (`textBounds_windows`).
-/

namespace Reconciliation

open Date

namespace Window

/-- What the predicate of a window selects of a column that keeps its dates as text. -/
structure TextBounds (window : Window) (layout : TextLayout) (start stop : Date) : Prop where
  /-- The predicate compares with the quoted texts of the bounds. -/
  predicate : ∀ platform name, window.predicate platform (some ⟨name, .text layout⟩) =
    s!"{platform.identifier name} >= '{layout.render start}' AND {platform.identifier name} < '{layout.render stop}'"
  /-- It selects the days of the window and no others exactly if the end has four digits. -/
  selects_iff : (∀ date : Date, date.FourDigitYear →
      (layout.render start ≤ layout.render date ∧ layout.render date < layout.render stop ↔
        window.contains date = true)) ↔ stop.year ≤ 9999
  /-- Otherwise it selects no day. -/
  selects_none : 9999 < stop.year → ∀ date : Date, date.FourDigitYear →
    ¬(layout.render start ≤ layout.render date ∧ layout.render date < layout.render stop)

variable {window : Window} {layout : TextLayout} {start stop date : Date}

theorem predicate_text (starts : window.start = some start) (stops : window.stop = some stop)
    (layout : TextLayout) (platform : Platform) (name : String) :
    window.predicate platform (some ⟨name, .text layout⟩) =
      s!"{platform.identifier name} >= '{layout.render start}' AND {platform.identifier name} < '{layout.render stop}'" := by
  rw [← String.toList_inj]
  simp [predicate, starts, stops, PartitionColumn.identifier, PartitionColumn.literal, toString]

/-- A window that holds a four-digit date selects its dates as far as its end is written in four
digits. -/
theorem textBounds_of_contains (starts : window.start = some start)
    (stops : window.stop = some stop) (short : date.FourDigitYear)
    (inside : window.contains date = true) : window.TextBounds layout start stop := by
  obtain ⟨begins, ends⟩ := (contains_eq_true_iff starts stops).mp inside
  have startNotLong : start.year ≤ 9999 := Int.le_trans (year_le_year begins) short.2
  have stopNotSigned : 0 ≤ stop.year := Int.le_trans short.1 (year_le_year (Std.le_of_lt ends))
  have none : 9999 < stop.year → ∀ date : Date, date.FourDigitYear →
      ¬(layout.render start ≤ layout.render date ∧ layout.render date < layout.render stop) := by
    intro long other otherShort selected
    exact TextLayout.not_render_lt_render_of_long otherShort long selected.2
  refine ⟨predicate_text starts stops layout, ⟨?_, ?_⟩, none⟩
  · intro selects
    refine Int.not_lt.mp fun long => ?_
    exact none long date short ((selects date short).mpr inside)
  · intro notLong other otherShort
    rw [contains_eq_true_iff starts stops,
      TextLayout.render_le_render_iff startNotLong otherShort,
      TextLayout.render_lt_render_iff otherShort ⟨stopNotSigned, notLong⟩]

end Window

/-! ## The windows of four-digit years -/

/-- The calendar goes on for months before and after every four-digit year. -/
theorem Date.FourDigitYear.representable {date : Date} (short : date.FourDigitYear) {number : Int}
    (low : date.dayNumber - 31 ≤ number) (high : number ≤ date.dayNumber + 31) :
    Representable number := by
  obtain ⟨yearLow, yearHigh⟩ := short
  obtain ⟨positive, within⟩ := date.dayOfYear_le
  have days : daysInYear date.year ≤ 366 := by
    unfold daysInYear
    split <;> decide
  have early : first.dayNumber ≤ -1000 := by decide
  have late : 4000000 ≤ last.dayNumber := by decide
  have number : date.dayNumber = daysBeforeYear date.year + date.dayOfYear := rfl
  simp only [daysBeforeYear] at number
  rw [representable_iff]
  omega

namespace CalendarUnit

variable {unit : CalendarUnit}

theorem sub_le_firstNumber (unit : CalendarUnit) (date : Date) :
    date.dayNumber - 31 ≤ unit.firstNumber date := by
  cases unit with
  | day =>
      simp only [firstNumber]
      omega
  | week =>
      have := date.daysSinceMonday_lt
      simp only [firstNumber]
      omega
  | month =>
      have := date.isDay.2.2.2
      have := daysInMonth_le date.year date.month
      simp only [firstNumber]
      omega

theorem endNumber_le_add (unit : CalendarUnit) (date : Date) :
    unit.endNumber date ≤ date.dayNumber + 31 := by
  cases unit with
  | day =>
      simp only [endNumber]
      omega
  | week =>
      simp only [endNumber]
      omega
  | month =>
      have := date.isDay.2.2.1
      have := daysInMonth_le date.year date.month
      simp only [endNumber]
      omega

/-- Four-digit years are cut into units. -/
theorem exists_windows {first last : Date} (low : first.FourDigitYear)
    (high : last.FourDigitYear) (inRange : first ≤ last) :
    ∃ windows, unit.windows first last = .ok windows := by
  cases cut : unit.windows first last with
  | ok windows => exact ⟨windows, rfl⟩
  | error fault =>
      have starts : Representable (unit.firstNumber first) := by
        have := unit.firstNumber_le first
        exact low.representable (unit.sub_le_firstNumber first) (by omega)
      have stops : Representable (unit.endNumber last) := by
        have := unit.lt_endNumber last
        exact high.representable (by omega) (unit.endNumber_le_add last)
      rcases (windows_eq_error_iff inRange).mp ⟨fault, cut⟩ with noStart | noStop
      · exact (noStart starts).elim
      · exact (noStop stops).elim

end CalendarUnit

/-- The windows of four-digit years hold a date of these years each. -/
theorem Granularity.exists_windows_fourDigit {granularity : Granularity}
    (calendar : granularity ≠ .snapshot) {a b : Date} (shortA : a.FourDigitYear)
    (shortB : b.FourDigitYear) :
    ∃ windows, granularity.windows a b = .ok windows ∧
      ∀ window ∈ windows, window.Bounded ∧
        ∃ date : Date, date.FourDigitYear ∧ window.contains date = true := by
  have low : (earliest a b).FourDigitYear := by
    unfold earliest
    split <;> assumption
  have high : (latest a b).FourDigitYear := by
    unfold latest
    split <;> assumption
  have order := earliest_le_latest a b
  have units (unit : CalendarUnit) : ∃ windows, unit.windows (earliest a b) (latest a b) =
      .ok windows ∧ ∀ window ∈ windows, window.Bounded ∧
        ∃ date : Date, date.FourDigitYear ∧ window.contains date = true := by
    obtain ⟨windows, cut⟩ := unit.exists_windows low high order
    refine ⟨windows, cut, fun window member => ?_⟩
    obtain ⟨date, begins, ends, ofUnit⟩ := (CalendarUnit.run_of_windows cut).units window member
    refine ⟨ofUnit.bounded, date, ⟨?_, ?_⟩,
      ofUnit.contains_iff.mpr (CalendarUnit.Same.refl unit date)⟩
    · exact Int.le_trans low.1 (year_le_year begins)
    · exact Int.le_trans (year_le_year ends) high.2
  cases granularity with
  | day => exact units .day
  | week => exact units .week
  | month => exact units .month
  | snapshot => exact (calendar rfl).elim
  | whole =>
      cases next : (latest a b).next? with
      | none =>
          have beyond := high.2
          rw [next?_eq_none next] at beyond
          exact absurd beyond (by decide)
      | some stop =>
          have number := dayNumber_next? next
          have within := le_iff_dayNumber.mp order
          have days : earliest a b < stop := lt_iff_dayNumber.mpr (by omega)
          refine ⟨[⟨"all", some (earliest a b), some stop⟩], ?_, fun window member => ?_⟩
          · simp only [Granularity.windows, next]
          · obtain rfl := List.mem_singleton.mp member
            refine ⟨⟨_, _, rfl, rfl, days⟩, earliest a b, low, ?_⟩
            rw [Window.contains_eq_true_iff rfl rfl]
            exact ⟨Std.le_refl _, days⟩

/-- **The predicate of a window over a text column selects the days of the window exactly if the
day after the last one is written in four digits.** -/
theorem textBounds_windows {granularity : Granularity} (calendar : granularity ≠ .snapshot)
    {a b : Date} (shortA : a.FourDigitYear) (shortB : b.FourDigitYear) :
    ∃ windows, granularity.windows a b = .ok windows ∧
      ∀ window ∈ windows, ∃ start stop, window.start = some start ∧ window.stop = some stop ∧
        ∀ layout, window.TextBounds layout start stop := by
  obtain ⟨windows, cut, held⟩ := Granularity.exists_windows_fourDigit calendar shortA shortB
  refine ⟨windows, cut, fun window member => ?_⟩
  obtain ⟨⟨start, stop, starts, stops, _⟩, date, short, inside⟩ := held window member
  exact ⟨start, stop, starts, stops, fun _ =>
    Window.textBounds_of_contains starts stops short inside⟩

/-- The first and the last day of the four-digit years lie in weeks that leave these years. -/
theorem textBounds_windows_weeks :
    let a : Date := ⟨0, 1, 1, by decide⟩
    let b : Date := ⟨9999, 12, 31, by decide⟩
    Granularity.week ≠ .snapshot ∧ a.FourDigitYear ∧ b.FourDigitYear ∧
      ∃ windows, Granularity.week.windows a b = .ok windows ∧
        ∀ window ∈ windows, ∃ start stop, window.start = some start ∧ window.stop = some stop ∧
          ∀ layout, window.TextBounds layout start stop :=
  ⟨by decide, by decide, by decide, textBounds_windows (by decide) (by decide) (by decide)⟩

/-- The last day of the year `9999` lies in its window but not between the texts of the bounds. -/
theorem lastFourDigitDay_not_selected :
    let day : Date := ⟨9999, 12, 31, by decide⟩
    let stop : Date := ⟨10000, 1, 1, by decide⟩
    let window : Window := ⟨"9999-12-31", some day, some stop⟩
    Granularity.day.windows day day = .ok [window] ∧ window.contains day = true ∧
      ¬(TextLayout.compact.render day ≤ TextLayout.compact.render day ∧
        TextLayout.compact.render day < TextLayout.compact.render stop) := by
  decide +kernel

end Reconciliation
