import Reconciliation.Calendar.Date

/-! # Counting days

The day number grows by one from each day to the next, so stepping through the calendar is
counting.
-/

namespace Reconciliation

/-- A year starts as many days after the year before as that year has. -/
theorem daysBeforeYear_succ (year : Int) :
    daysBeforeYear (year + 1) = daysBeforeYear year + daysInYear year := by
  unfold daysBeforeYear daysInYear isLeapYear
  by_cases four : year % 4 = 0 <;> by_cases century : year % 100 = 0 <;>
    by_cases fourth : year % 400 = 0 <;> simp [four, century, fourth] <;> omega

/-- A month starts as many days after the month before as that month has. -/
theorem daysBeforeMonth_succ (year : Int) {month : Nat} (positive : 1 ≤ month) :
    daysBeforeMonth year (month + 1) = daysBeforeMonth year month + daysInMonth year month := by
  obtain ⟨earlier, rfl⟩ : ∃ earlier, month = earlier + 1 := ⟨month - 1, by omega⟩
  rfl

theorem daysBeforeMonth_thirteen (year : Int) :
    daysBeforeMonth year 12 + daysInMonth year 12 = daysInYear year := by
  cases leap : isLeapYear year <;> simp [daysBeforeMonth, daysInMonth, daysInYear, leap]

namespace Date

/-- The fields of a date that the calendar has. -/
theorem of?_eq_some {year : Int} {month day : Nat} {date : Date}
    (found : of? year month day = some date) :
    date.year = year ∧ date.month = month ∧ date.day = day := by
  unfold of? at found
  split at found
  · cases found
    exact ⟨rfl, rfl, rfl⟩
  · cases found

/-- The next day has the next number. -/
theorem dayNumber_next? {date next : Date} (found : date.next? = some next) :
    next.dayNumber = date.dayNumber + 1 := by
  obtain ⟨year, month, day, ⟨_, ⟨monthLow, monthHigh⟩, _, dayHigh⟩⟩ := date
  simp only [next?] at found
  split at found
  · obtain ⟨rfl, rfl, dayEq⟩ := of?_eq_some found
    simp only [dayNumber, dayOfYear, dayEq]
    omega
  · split at found
    · obtain ⟨rfl, monthEq, dayEq⟩ := of?_eq_some found
      simp only [dayNumber, dayOfYear, monthEq, dayEq, daysBeforeMonth_succ _ monthLow]
      omega
    · obtain ⟨yearEq, monthEq, dayEq⟩ := of?_eq_some found
      obtain rfl : month = 12 := by omega
      have twelve := daysBeforeMonth_thirteen year
      have first : daysBeforeMonth (year + 1) 1 = 0 := rfl
      simp only [dayNumber, dayOfYear, monthEq, dayEq, yearEq, first, daysBeforeYear_succ]
      omega

/-- The day before has the number before. -/
theorem dayNumber_previous? {date previous : Date} (found : date.previous? = some previous) :
    previous.dayNumber = date.dayNumber - 1 := by
  obtain ⟨year, month, day, ⟨_, ⟨monthLow, monthHigh⟩, dayLow, _⟩⟩ := date
  simp only [previous?] at found
  split at found
  · obtain ⟨rfl, rfl, dayEq⟩ := of?_eq_some found
    simp only [dayNumber, dayOfYear, dayEq]
    omega
  · split at found
    · obtain ⟨rfl, monthEq, dayEq⟩ := of?_eq_some found
      have step := daysBeforeMonth_succ previous.year (show 1 ≤ month - 1 by omega)
      rw [show month - 1 + 1 = month by omega] at step
      simp only [dayNumber, dayOfYear, monthEq, dayEq, step]
      omega
    · obtain ⟨yearEq, monthEq, dayEq⟩ := of?_eq_some found
      obtain rfl : month = 1 := by omega
      have twelve := daysBeforeMonth_thirteen previous.year
      have december : daysInMonth previous.year 12 = 31 := rfl
      have first : daysBeforeMonth year 1 = 0 := rfl
      have step := daysBeforeYear_succ previous.year
      rw [show previous.year + 1 = year by omega] at step
      simp only [dayNumber, dayOfYear, monthEq, dayEq, first, step]
      omega

/-- A date some days later has a number as many greater. -/
theorem dayNumber_later? {days : Nat} {date later : Date} (found : date.later? days = some later) :
    later.dayNumber = date.dayNumber + days := by
  induction days generalizing date with
  | zero =>
    cases found
    simp
  | succ days ih =>
    obtain ⟨next, step, rest⟩ := Option.bind_eq_some_iff.mp found
    rw [ih rest, dayNumber_next? step]
    omega

/-- A date some days earlier has a number as many less. -/
theorem dayNumber_earlier? {days : Nat} {date earlier : Date}
    (found : date.earlier? days = some earlier) :
    earlier.dayNumber = date.dayNumber - days := by
  induction days generalizing date with
  | zero =>
    cases found
    simp
  | succ days ih =>
    obtain ⟨previous, step, rest⟩ := Option.bind_eq_some_iff.mp found
    rw [ih rest, dayNumber_previous? step]
    omega

/-- Fewer than seven days have passed since the last Monday. -/
theorem daysSinceMonday_lt (date : Date) : date.daysSinceMonday < 7 := by
  unfold daysSinceMonday
  omega

/-- The first of the month after comes after every day of the month. -/
theorem dayNumber_lt_firstOfNextMonth? {date next : Date}
    (found : date.firstOfNextMonth? = some next) : date.dayNumber < next.dayNumber := by
  obtain ⟨year, month, day, ⟨_, ⟨monthLow, monthHigh⟩, _, dayHigh⟩⟩ := date
  simp only [firstOfNextMonth?] at found
  split at found
  · obtain ⟨rfl, monthEq, dayEq⟩ := of?_eq_some found
    simp only [dayNumber, dayOfYear, monthEq, dayEq, daysBeforeMonth_succ _ monthLow]
    omega
  · obtain ⟨yearEq, monthEq, dayEq⟩ := of?_eq_some found
    obtain rfl : month = 12 := by omega
    have twelve := daysBeforeMonth_thirteen year
    have first : daysBeforeMonth (year + 1) 1 = 0 := rfl
    simp only [dayNumber, dayOfYear, monthEq, dayEq, yearEq, first, daysBeforeYear_succ]
    omega

/-- Later months start after the days of earlier ones. -/
theorem daysBeforeMonth_add_le (year : Int) {month later : Nat} (positive : 1 ≤ month)
    (before : month < later) :
    daysBeforeMonth year month + daysInMonth year month ≤ daysBeforeMonth year later := by
  induction later with
  | zero => omega
  | succ previous ih =>
    rcases Nat.lt_or_eq_of_le (Nat.le_of_lt_succ before) with further | rfl
    · rw [daysBeforeMonth_succ year (by omega)]
      have := ih further
      omega
    · exact Nat.le_of_eq (daysBeforeMonth_succ year positive).symm

/-- Later years start after the days of earlier ones. -/
theorem daysBeforeYear_add_le {year later : Int} (before : year < later) :
    daysBeforeYear year + daysInYear year ≤ daysBeforeYear later := by
  rw [← daysBeforeYear_succ]
  unfold daysBeforeYear
  omega

/-- The day of the year lies within the year. -/
theorem dayOfYear_le (date : Date) : 1 ≤ date.dayOfYear ∧ date.dayOfYear ≤ daysInYear date.year := by
  obtain ⟨year, month, day, ⟨_, ⟨monthLow, monthHigh⟩, dayLow, dayHigh⟩⟩ := date
  have twelve := daysBeforeMonth_thirteen year
  simp only [dayOfYear]
  rcases Nat.lt_or_eq_of_le monthHigh with before | rfl
  · have := daysBeforeMonth_add_le year monthLow before
    omega
  · omega

/-- The day number grows with the date. -/
theorem dayNumber_lt_dayNumber {a b : Date} (less : a < b) : a.dayNumber < b.dayNumber := by
  have inA := a.dayOfYear_le
  have inB := b.dayOfYear_le
  obtain ⟨ya, ma, da, ⟨_, ⟨lowA, highA⟩, dayLowA, dayA⟩⟩ := a
  obtain ⟨yb, mb, db, ⟨_, ⟨lowB, highB⟩, dayLowB, dayB⟩⟩ := b
  have boundA := daysInMonth_le ya ma
  have boundB := daysInMonth_le yb mb
  simp only [lt_iff_rank, rank] at less
  simp only [dayNumber] at inA inB ⊢
  rcases Int.lt_trichotomy ya yb with before | rfl | after
  · have := daysBeforeYear_add_le before
    omega
  · rcases Nat.lt_trichotomy ma mb with before | rfl | after
    · have := daysBeforeMonth_add_le ya lowA before
      simp only [dayOfYear]
      omega
    · simp only [dayOfYear]
      omega
    · omega
  · omega

/-- Dates are ordered as their day numbers are. -/
theorem le_iff_dayNumber {a b : Date} : a ≤ b ↔ a.dayNumber ≤ b.dayNumber := by
  rcases Int.lt_trichotomy a.rank b.rank with less | same | more
  · exact ⟨fun _ => Int.le_of_lt (dayNumber_lt_dayNumber less), fun _ => Int.le_of_lt less⟩
  · cases rank_injective same
    exact ⟨fun _ => Int.le_refl _, fun _ => Int.le_refl a.rank⟩
  · have above := dayNumber_lt_dayNumber more
    exact ⟨fun below => absurd more (Int.not_lt.mpr below), fun below => by omega⟩

end Date

end Reconciliation
