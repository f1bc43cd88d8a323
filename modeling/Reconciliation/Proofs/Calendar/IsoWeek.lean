import Reconciliation.Calendar.DayNumber

/-! # Weeks of the year

Weeks begin on Mondays, and the first week of a year is the one that holds the fourth of January;
the weeks of a year are counted from there until the first week of the next year begins. This
determines the week of a date (`Week.Holds.unique`), and `Date.week` is that week
(`week_holds`).
-/

namespace Reconciliation.Date

/-- The number of the Monday on which the first week of a year begins. -/
def firstMonday (year : Int) : Int :=
  let fourth := daysBeforeYear year + 4
  fourth - (fourth - 1) % 7

/-- The number of the Monday on which a week begins. -/
def Week.monday (week : Week) : Int :=
  firstMonday week.year + 7 * (week.number - 1)

/-- A week of its year that holds a date. -/
structure Week.Holds (week : Week) (date : Date) : Prop where
  /-- Weeks are counted from one. -/
  counted : 1 ≤ week.number
  /-- The date does not come before the Monday. -/
  begins : week.monday ≤ date.dayNumber
  /-- The date comes before the next Monday. -/
  ends : date.dayNumber < week.monday + 7
  /-- The weeks of the next year have not begun. -/
  ofYear : week.monday < firstMonday (week.year + 1)

/-- A year has at least 365 days. -/
theorem le_daysInYear (year : Int) : 365 ≤ daysInYear year := by
  unfold daysInYear
  split <;> decide

/-- The first weeks of later years begin later. -/
theorem firstMonday_lt {year later : Int} (before : year < later) :
    firstMonday year < firstMonday later := by
  have days := daysBeforeYear_add_le before
  have := le_daysInYear year
  simp only [firstMonday]
  omega

theorem Week.Holds.monday_eq {week : Week} {date : Date} (holds : week.Holds date) :
    week.monday = date.dayNumber - date.daysSinceMonday := by
  have begins := holds.begins
  have ends := holds.ends
  simp only [Week.monday, firstMonday, daysSinceMonday] at *
  omega

/-- A week holds the seven days from its Monday on. -/
theorem Week.Holds.of_bounds {week : Week} {date other : Date} (holds : week.Holds date)
    (begins : date.dayNumber - date.daysSinceMonday ≤ other.dayNumber)
    (ends : other.dayNumber < date.dayNumber - date.daysSinceMonday + 7) : week.Holds other :=
  ⟨holds.counted, holds.monday_eq ▸ begins, holds.monday_eq ▸ ends, holds.ofYear⟩

/-- No week of a later year begins before the weeks of a year end. -/
theorem Week.Holds.year_le {a b : Week} {date : Date} (heldA : a.Holds date)
    (heldB : b.Holds date) : a.year ≤ b.year := by
  refine Int.not_lt.mp fun later => ?_
  have mondays : a.monday = b.monday := heldA.monday_eq.trans heldB.monday_eq.symm
  have ofYear := heldB.ofYear
  have counted := heldA.counted
  have begun : firstMonday (b.year + 1) ≤ firstMonday a.year := by
    rcases Int.lt_or_eq_of_le (show b.year + 1 ≤ a.year by omega) with before | same
    · exact Int.le_of_lt (firstMonday_lt before)
    · exact Int.le_of_eq (congrArg firstMonday same)
  simp only [Week.monday] at mondays ofYear
  omega

/-- A date lies in one week of one year. -/
theorem Week.Holds.unique {a b : Week} {date : Date} (heldA : a.Holds date)
    (heldB : b.Holds date) : a = b := by
  have years : a.year = b.year := Int.le_antisymm (heldA.year_le heldB) (heldB.year_le heldA)
  have mondays : a.monday = b.monday := heldA.monday_eq.trans heldB.monday_eq.symm
  have countedA := heldA.counted
  have countedB := heldB.counted
  obtain ⟨yearA, numberA⟩ := a
  obtain ⟨yearB, numberB⟩ := b
  simp only [Week.monday] at years mondays countedA countedB
  subst years
  congr 1
  omega

/-- **The week of a date holds it.** The year of the week is the one of its Thursday, and the first
Thursday of a year lies in the week of the fourth of January. -/
theorem week_holds (date : Date) : date.week.Holds date := by
  obtain ⟨positive, within⟩ := date.dayOfYear_le
  have thisYear := daysBeforeYear_succ date.year
  have lastYear := daysBeforeYear_succ (date.year - 1)
  have number : date.dayNumber = daysBeforeYear date.year + date.dayOfYear := rfl
  have since : (date.daysSinceMonday : Int) = (date.dayNumber - 1) % 7 := by
    unfold daysSinceMonday
    omega
  rw [show date.year - 1 + 1 = date.year by omega] at lastYear
  unfold week
  dsimp only
  split
  · next early =>
      -- the Thursday lies in the year before
      have := le_daysInYear (date.year - 1)
      rw [since] at early
      constructor <;>
        simp only [Week.monday, firstMonday, since, show date.year - 1 + 1 = date.year by omega] <;>
        omega
  · split
    · next late =>
        have := daysBeforeYear_succ (date.year + 1)
        have := le_daysInYear (date.year + 1)
        rw [since] at late
        constructor <;> simp only [Week.monday, firstMonday, since] <;> omega
    · next notEarly notLate =>
        rw [since] at notEarly notLate
        constructor <;> simp only [Week.monday, firstMonday, since] <;> omega

end Reconciliation.Date
