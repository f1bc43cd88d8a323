import Reconciliation.Proofs.Calendar.DateText
import Reconciliation.Proofs.Calendar.IsoWeek
import Reconciliation.Proofs.Calendar.Range
import Reconciliation.Vintage.Window

/-! # Units of the calendar

Two dates share a unit if they are the same day, lie in the same week or lie in the same month.
The days of a unit follow each other, so its first day and the day after its last bound it
(`same_iff_bounds`), different units do not overlap (`endNumber_le_firstNumber`), and a unit has
a span exactly if the calendar has both bounds (`span_eq_ok_iff`, `span_eq_error_iff`). Labels
differ where units do (`label_eq_iff`).
-/

namespace Reconciliation.CalendarUnit

open Date

/-- Whether two dates lie in one unit. -/
def Same (unit : CalendarUnit) (a b : Date) : Prop :=
  match unit with
  | .day => a = b
  | .week => a.week = b.week
  | .month => a.year = b.year ∧ a.month = b.month

/-- The number of the first day of the unit that holds a date; the calendar need not have it. -/
def firstNumber (unit : CalendarUnit) (date : Date) : Int :=
  match unit with
  | .day => date.dayNumber
  | .week => date.dayNumber - date.daysSinceMonday
  | .month => date.dayNumber - date.day + 1

/-- The number of the day after the last of the unit that holds a date; the calendar need not
have it. -/
def endNumber (unit : CalendarUnit) (date : Date) : Int :=
  match unit with
  | .day => date.dayNumber + 1
  | .week => date.dayNumber - date.daysSinceMonday + 7
  | .month => date.dayNumber - date.day + 1 + daysInMonth date.year date.month

variable {unit : CalendarUnit}

/-! ## Sharing a unit -/

theorem Same.refl (unit : CalendarUnit) (date : Date) : unit.Same date date := by
  cases unit with
  | day => rfl
  | week => rfl
  | month => exact ⟨rfl, rfl⟩

theorem Same.symm {a b : Date} (same : unit.Same a b) : unit.Same b a := by
  cases unit with
  | day => exact Eq.symm same
  | week => exact Eq.symm same
  | month => exact ⟨same.1.symm, same.2.symm⟩

theorem Same.trans {a b c : Date} (left : unit.Same a b) (right : unit.Same b c) :
    unit.Same a c := by
  cases unit with
  | day => exact Eq.trans left right
  | week => exact Eq.trans left right
  | month => exact ⟨left.1.trans right.1, left.2.trans right.2⟩

/-- The dates of a unit have one first day. -/
theorem Same.firstNumber_eq {a b : Date} (same : unit.Same a b) :
    unit.firstNumber a = unit.firstNumber b := by
  cases unit with
  | day => exact congrArg dayNumber same
  | week =>
      have heldA := (week_holds a).monday_eq
      have heldB := (week_holds b).monday_eq
      rw [show a.week = b.week from same] at heldA
      exact heldA.symm.trans heldB
  | month =>
      obtain ⟨years, months⟩ := same
      simp only [firstNumber, dayNumber, dayOfYear, years, months]
      omega

/-- The dates of a unit have one last day. -/
theorem Same.endNumber_eq {a b : Date} (same : unit.Same a b) :
    unit.endNumber a = unit.endNumber b := by
  have first := same.firstNumber_eq
  cases unit with
  | day => exact congrArg (· + 1) first
  | week => exact congrArg (· + 7) first
  | month =>
      obtain ⟨years, months⟩ := same
      simp only [firstNumber] at first
      simp only [endNumber, first, years, months]

/-! ## The bounds of a unit -/

/-- A unit begins no later than its dates. -/
theorem firstNumber_le (unit : CalendarUnit) (date : Date) :
    unit.firstNumber date ≤ date.dayNumber := by
  cases unit with
  | day => exact Int.le_refl _
  | week =>
      simp only [firstNumber]
      omega
  | month =>
      have := date.isDay.2.2.1
      simp only [firstNumber]
      omega

/-- A unit ends after its dates. -/
theorem lt_endNumber (unit : CalendarUnit) (date : Date) :
    date.dayNumber < unit.endNumber date := by
  cases unit with
  | day =>
      simp only [endNumber]
      omega
  | week =>
      have := date.daysSinceMonday_lt
      simp only [endNumber]
      omega
  | month =>
      have := date.isDay.2.2.2
      simp only [endNumber]
      omega

/-- Dates between the bounds of a month lie in the month. -/
theorem sameMonth_of_bounds {a b : Date} (begins : a.dayNumber - a.day + 1 ≤ b.dayNumber)
    (ends : b.dayNumber < a.dayNumber - a.day + 1 + daysInMonth a.year a.month) :
    a.year = b.year ∧ a.month = b.month := by
  have inA := a.dayOfYear_le
  have inB := b.dayOfYear_le
  obtain ⟨ya, ma, da, ⟨_, ⟨lowA, highA⟩, dayLowA, dayA⟩⟩ := a
  obtain ⟨yb, mb, db, ⟨_, ⟨lowB, highB⟩, dayLowB, dayB⟩⟩ := b
  have yearA : daysBeforeMonth ya ma + daysInMonth ya ma ≤ daysInYear ya := by
    rw [← daysBeforeMonth_succ ya lowA, ← daysBeforeMonth_thirteen ya]
    rcases Nat.lt_or_eq_of_le highA with before | rfl
    · rw [daysBeforeMonth_succ ya lowA]
      have := daysBeforeMonth_add_le ya lowA before
      omega
    · exact Nat.le_refl _
  simp only [dayNumber, dayOfYear] at begins ends inA inB
  rcases Int.lt_trichotomy ya yb with before | rfl | after
  · have := daysBeforeYear_add_le before
    omega
  · rcases Nat.lt_trichotomy ma mb with before | rfl | after
    · have := daysBeforeMonth_add_le ya lowA before
      omega
    · exact ⟨rfl, rfl⟩
    · have := daysBeforeMonth_add_le ya lowB after
      omega
  · have := daysBeforeYear_add_le after
    omega

/-- **A unit is the days between its bounds.** -/
theorem same_iff_bounds {a b : Date} :
    unit.Same a b ↔ unit.firstNumber a ≤ b.dayNumber ∧ b.dayNumber < unit.endNumber a := by
  constructor
  · intro same
    rw [same.firstNumber_eq, same.endNumber_eq]
    exact ⟨unit.firstNumber_le b, unit.lt_endNumber b⟩
  · rintro ⟨begins, ends⟩
    cases unit with
    | day =>
        simp only [firstNumber, endNumber] at begins ends
        exact dayNumber_injective (by omega)
    | week => exact ((week_holds a).of_bounds begins ends).unique (week_holds b)
    | month => exact sameMonth_of_bounds begins ends

/-- **A unit ends before a later one begins.** Were there an overlap, the later unit's first day
would lie in both. -/
theorem endNumber_le_firstNumber {a b : Date} (before : a < b) (apart : ¬unit.Same a b) :
    unit.endNumber a ≤ unit.firstNumber b := by
  have less := lt_iff_dayNumber.mp before
  have beginsA := unit.firstNumber_le a
  have beginsB := unit.firstNumber_le b
  have endsB := unit.lt_endNumber b
  have later : a.dayNumber < unit.firstNumber b := by
    refine Int.not_le.mp fun overlap => apart ?_
    exact (same_iff_bounds.mpr ⟨overlap, by omega⟩).symm
  refine Int.not_lt.mp fun overlap => apart ?_
  obtain ⟨shared, number⟩ : Representable (unit.firstNumber b) := by
    obtain ⟨low, _⟩ := representable_iff.mp ⟨a, rfl⟩
    obtain ⟨_, high⟩ := representable_iff.mp ⟨b, rfl⟩
    exact representable_iff.mpr ⟨by omega, by omega⟩
  have inA : unit.Same a shared := same_iff_bounds.mpr ⟨by omega, by omega⟩
  have inB : unit.Same b shared := same_iff_bounds.mpr ⟨by omega, by omega⟩
  exact inA.trans inB.symm

/-! ## Spans -/

/-- A step of the calendar gives the date that it finds. -/
theorem ok_of_some_iff {fault : DateFault} {found : Option Date} {date : Date} :
    (match found with
      | some other => Except.ok other
      | none => .error fault) = .ok date ↔ found = some date := by
  cases found with
  | none => simp only [reduceCtorEq]
  | some other => simp only [Except.ok.injEq, Option.some.injEq]

/-- A date is known by its number. -/
theorem ok_iff_dayNumber {date other : Date} :
    (Except.ok other : Except DateFault Date) = .ok date ↔ date.dayNumber = other.dayNumber := by
  rw [Except.ok.injEq]
  exact ⟨fun same => same ▸ rfl, fun number => (dayNumber_injective number).symm⟩

/-- The first day of a unit, where the calendar has it. -/
theorem start_eq_ok_iff {date start : Date} :
    unit.start date = .ok start ↔ start.dayNumber = unit.firstNumber date := by
  cases unit with
  | day => exact ok_iff_dayNumber
  | week =>
      refine ok_of_some_iff.trans ?_
      rw [earlier?_eq_some_iff]
      rfl
  | month =>
      refine ok_iff_dayNumber.trans ?_
      rw [dayNumber_firstOfMonth]
      rfl

/-- The day after the last of a unit, where the calendar has it. -/
theorem stop_eq_ok_iff {date start stop : Date} (starts : unit.start date = .ok start) :
    unit.stop start = .ok stop ↔ stop.dayNumber = unit.endNumber date := by
  have number := start_eq_ok_iff.mp starts
  cases unit with
  | day =>
      refine ok_of_some_iff.trans ?_
      rw [later?_eq_some_iff, number]
      rfl
  | week =>
      refine ok_of_some_iff.trans ?_
      rw [later?_eq_some_iff, number]
      rfl
  | month =>
      cases starts
      have end_eq : CalendarUnit.month.endNumber date = date.firstOfMonth.dayNumber -
          date.firstOfMonth.day + 1 + daysInMonth date.firstOfMonth.year date.firstOfMonth.month := by
        rw [dayNumber_firstOfMonth]
        simp only [endNumber, firstOfMonth]
        omega
      refine ok_of_some_iff.trans ?_
      rw [firstOfNextMonth?_eq_some_iff, end_eq]

/-- **The span of a unit has its bounds.** -/
theorem span_eq_ok_iff {date : Date} {span : Span} :
    unit.span date = .ok span ↔
      span.start.dayNumber = unit.firstNumber date ∧
        span.stop.dayNumber = unit.endNumber date := by
  obtain ⟨start, stop⟩ := span
  unfold CalendarUnit.span
  cases starts : unit.start date with
  | error fault =>
      simp only [reduceCtorEq, false_iff]
      intro bounds
      rw [start_eq_ok_iff.mpr bounds.1] at starts
      cases starts
  | ok first =>
      have number := start_eq_ok_iff.mp starts
      dsimp only
      cases stops : unit.stop first with
      | error fault =>
          simp only [reduceCtorEq, false_iff]
          intro bounds
          rw [(stop_eq_ok_iff starts).mpr bounds.2] at stops
          cases stops
      | ok last =>
          have last := (stop_eq_ok_iff starts).mp stops
          simp only [Except.ok.injEq, Span.mk.injEq]
          constructor
          · rintro ⟨rfl, rfl⟩
            exact ⟨number, last⟩
          · rintro ⟨begins, ends⟩
            exact ⟨dayNumber_injective (number.trans begins.symm),
              dayNumber_injective (last.trans ends.symm)⟩

/-- A unit has no span exactly if the calendar lacks one of its bounds. -/
theorem span_eq_error_iff {date : Date} :
    (∃ fault, unit.span date = .error fault) ↔
      ¬Representable (unit.firstNumber date) ∨ ¬Representable (unit.endNumber date) := by
  rw [← Classical.not_and_iff_not_or_not]
  constructor
  · rintro ⟨fault, failed⟩ ⟨⟨start, starts⟩, ⟨stop, stops⟩⟩
    have found : unit.span date = .ok ⟨start, stop⟩ := span_eq_ok_iff.mpr ⟨starts, stops⟩
    cases found.symm.trans failed
  · intro lacking
    cases found : unit.span date with
    | error fault => exact ⟨fault, rfl⟩
    | ok span =>
        obtain ⟨starts, stops⟩ := span_eq_ok_iff.mp found
        exact (lacking ⟨⟨_, starts⟩, ⟨_, stops⟩⟩).elim

/-- The day after the last of a unit is the first of the next unit. -/
theorem firstNumber_stop {date : Date} {span : Span} (found : unit.span date = .ok span) :
    unit.firstNumber span.stop = span.stop.dayNumber := by
  obtain ⟨_, stops⟩ := span_eq_ok_iff.mp found
  have below := unit.firstNumber_le span.stop
  have apart : ¬unit.Same date span.stop := by
    intro same
    have := (same_iff_bounds.mp same).2
    omega
  have := endNumber_le_firstNumber (lt_iff_dayNumber.mpr (dayNumber_lt_stop found)) apart
  omega

/-! ## Labels -/

/-- The text of a week, with its year. -/
def weekText (week : Week) : String :=
  String.ofList (signedDigits week.year ++ ['-', 'W'] ++ paddedDigits 2 week.number)

/-- A year has fewer than a hundred weeks. -/
theorem weekNumber_lt (date : Date) : date.week.number < 100 := by
  have begun := (week_holds date).ofYear
  have years := daysBeforeYear_succ date.week.year
  have days : daysInYear date.week.year ≤ 366 := by
    unfold daysInYear
    split <;> decide
  simp only [Week.monday, firstMonday] at begun
  omega

/-- The text of a week determines it. -/
theorem weekText_inj {a b : Date} (same : weekText a.week = weekText b.week) :
    a.week = b.week := by
  have lists := String.ofList_injective same
  obtain ⟨heads, numbers⟩ := append_twoDigits_inj (weekNumber_lt a) (weekNumber_lt b) lists
  have years := signedDigits_injective (List.append_cancel_right heads)
  calc
    a.week = ⟨a.week.year, a.week.number⟩ := rfl
    _ = ⟨b.week.year, b.week.number⟩ := by rw [years, numbers]
    _ = b.week := rfl

/-- **Labels are equal exactly within a unit.** -/
theorem label_eq_iff {a b : Date} : unit.label a = unit.label b ↔ unit.Same a b := by
  cases unit with
  | day => exact ⟨text_injective, congrArg Date.text⟩
  | week => exact ⟨weekText_inj, congrArg weekText⟩
  | month =>
      constructor
      · intro same
        exact write_yearMonth_inj (String.ofList_injective same)
      · rintro ⟨years, months⟩
        simp only [label, Layout.write, LayoutItem.write, List.flatMap_cons, List.flatMap_nil,
          years, months]

end Reconciliation.CalendarUnit
