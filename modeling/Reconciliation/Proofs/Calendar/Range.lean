import Reconciliation.Calendar.DayNumber

/-! # The range of the calendar

The calendar has a first and a last day and every day between them. So a step of the calendar
fails only where it would leave the range: stepping some days on finds exactly the date with that
day number (`later?_eq_some_iff`, `earlier?_eq_some_iff`), and the first of the month after
exists unless the month is the last one (`firstOfNextMonth?_eq_some_iff`).
-/

namespace Reconciliation.Date

/-- The first day of the calendar. -/
def first : Date := ⟨firstYear, 1, 1, by decide⟩

/-- The last day of the calendar. -/
def last : Date := ⟨lastYear, 12, 31, by decide⟩

/-- The day number determines the date. -/
theorem dayNumber_injective {a b : Date} (same : a.dayNumber = b.dayNumber) : a = b :=
  Std.le_antisymm (le_iff_dayNumber.mpr (Int.le_of_eq same))
    (le_iff_dayNumber.mpr (Int.le_of_eq same.symm))

/-- Dates are strictly ordered as their day numbers are. -/
theorem lt_iff_dayNumber {a b : Date} : a < b ↔ a.dayNumber < b.dayNumber := by
  rw [← Std.not_le, le_iff_dayNumber, Int.not_le]

/-- No day comes before the first. -/
theorem first_le (date : Date) : first ≤ date := by
  obtain ⟨year, month, day, ⟨⟨yearLow, _⟩, ⟨monthLow, _⟩, dayLow, _⟩⟩ := date
  have bound : -262143 ≤ year := yearLow
  simp only [le_iff_rank, rank, first, firstYear]
  omega

/-- No day comes after the last. -/
theorem le_last (date : Date) : date ≤ last := by
  obtain ⟨year, month, day, ⟨⟨_, yearHigh⟩, ⟨_, monthHigh⟩, _, dayHigh⟩⟩ := date
  have bound : year ≤ 262142 := yearHigh
  have := daysInMonth_le year month
  simp only [le_iff_rank, rank, last, lastYear]
  omega

/-- The calendar has a date of the given fields if it has such a day. -/
theorem of?_eq_some_of_isDay {year : Int} {month day : Nat} (isDay : IsDay year month day) :
    of? year month day = some ⟨year, month, day, isDay⟩ :=
  dif_pos isDay

/-- Only the last day has none after it. -/
theorem next?_eq_none {date : Date} (none : date.next? = none) : date = last := by
  obtain ⟨year, month, day, ⟨⟨yearLow, yearHigh⟩, ⟨monthLow, monthHigh⟩, dayLow, dayHigh⟩⟩ := date
  simp only [next?] at none
  split at none
  · next within =>
      rw [of?_eq_some_of_isDay ⟨⟨yearLow, yearHigh⟩, ⟨monthLow, monthHigh⟩, by omega, by omega⟩]
        at none
      cases none
  · split at none
    · have := le_daysInMonth year (month + 1)
      rw [of?_eq_some_of_isDay ⟨⟨yearLow, yearHigh⟩, ⟨by omega, by omega⟩, by omega, by omega⟩]
        at none
      cases none
    · obtain rfl : month = 12 := by omega
      have december : daysInMonth year 12 = 31 := rfl
      by_cases inside : year < lastYear
      · have := le_daysInMonth (year + 1) 1
        rw [of?_eq_some_of_isDay ⟨⟨by omega, by omega⟩, ⟨by omega, by omega⟩, by omega, by omega⟩]
          at none
        cases none
      · obtain rfl : year = lastYear := by omega
        obtain rfl : day = 31 := by omega
        rfl

/-- Only the first day has none before it. -/
theorem previous?_eq_none {date : Date} (none : date.previous? = none) : date = first := by
  obtain ⟨year, month, day, ⟨⟨yearLow, yearHigh⟩, ⟨monthLow, monthHigh⟩, dayLow, dayHigh⟩⟩ := date
  simp only [previous?] at none
  split at none
  · rw [of?_eq_some_of_isDay ⟨⟨yearLow, yearHigh⟩, ⟨monthLow, monthHigh⟩, by omega, by omega⟩]
      at none
    cases none
  · split at none
    · have := le_daysInMonth year (month - 1)
      rw [of?_eq_some_of_isDay ⟨⟨yearLow, yearHigh⟩, ⟨by omega, by omega⟩, by omega, by omega⟩]
        at none
      cases none
    · obtain rfl : month = 1 := by omega
      obtain rfl : day = 1 := by omega
      have december : daysInMonth (year - 1) 12 = 31 := rfl
      by_cases inside : firstYear < year
      · rw [of?_eq_some_of_isDay ⟨⟨by omega, by omega⟩, ⟨by omega, by omega⟩, by omega, by omega⟩]
          at none
        cases none
      · obtain rfl : year = firstYear := by omega
        rfl

/-- The date some days later is the one whose number is as many greater. -/
theorem later?_eq_some_iff {days : Nat} {date later : Date} :
    date.later? days = some later ↔ later.dayNumber = date.dayNumber + days := by
  refine ⟨dayNumber_later?, fun number => ?_⟩
  induction days generalizing date with
  | zero =>
      rw [later?, dayNumber_injective (a := later) (b := date) (by omega)]
  | succ days ih =>
      rw [later?]
      cases step : date.next? with
      | none =>
          have beyond := le_iff_dayNumber.mp (le_last later)
          rw [next?_eq_none step] at number
          omega
      | some next =>
          have := dayNumber_next? step
          exact ih (by omega)

/-- The date some days earlier is the one whose number is as many less. -/
theorem earlier?_eq_some_iff {days : Nat} {date earlier : Date} :
    date.earlier? days = some earlier ↔ earlier.dayNumber = date.dayNumber - days := by
  refine ⟨dayNumber_earlier?, fun number => ?_⟩
  induction days generalizing date with
  | zero =>
      rw [earlier?, dayNumber_injective (a := earlier) (b := date) (by omega)]
  | succ days ih =>
      rw [earlier?]
      cases step : date.previous? with
      | none =>
          have before := le_iff_dayNumber.mp (first_le earlier)
          rw [previous?_eq_none step] at number
          omega
      | some previous =>
          have := dayNumber_previous? step
          exact ih (by omega)

/-- A day number that some day of the calendar has. -/
def Representable (number : Int) : Prop :=
  ∃ date : Date, date.dayNumber = number

/-- The calendar has every day from its first to its last. -/
theorem representable_iff {number : Int} :
    Representable number ↔ first.dayNumber ≤ number ∧ number ≤ last.dayNumber := by
  constructor
  · rintro ⟨date, rfl⟩
    exact ⟨le_iff_dayNumber.mp (first_le date), le_iff_dayNumber.mp (le_last date)⟩
  · rintro ⟨low, high⟩
    obtain ⟨days, rfl⟩ : ∃ days : Nat, number = first.dayNumber + days :=
      ⟨(number - first.dayNumber).toNat, by omega⟩
    clear low
    induction days with
    | zero => exact ⟨first, by omega⟩
    | succ days ih =>
        obtain ⟨date, found⟩ := ih (by omega)
        cases step : date.next? with
        | none =>
            rw [next?_eq_none step] at found
            omega
        | some next =>
            have := dayNumber_next? step
            exact ⟨next, by omega⟩

/-- The first of the month is as many days back as the day of the month tells. -/
theorem dayNumber_firstOfMonth (date : Date) :
    date.firstOfMonth.dayNumber = date.dayNumber - date.day + 1 := by
  simp only [dayNumber, dayOfYear, firstOfMonth]
  omega

/-- The first of the month after comes as many days after the first of the month as the month
has. -/
theorem firstOfNextMonth?_eq_some_iff {date next : Date} :
    date.firstOfNextMonth? = some next ↔
      next.dayNumber = date.dayNumber - date.day + 1 + daysInMonth date.year date.month := by
  have forward : ∀ {next : Date}, date.firstOfNextMonth? = some next →
      next.dayNumber = date.dayNumber - date.day + 1 + daysInMonth date.year date.month := by
    intro next found
    obtain ⟨year, month, day, ⟨_, ⟨monthLow, monthHigh⟩, _, _⟩⟩ := date
    simp only [firstOfNextMonth?] at found
    split at found
    · obtain ⟨rfl, monthEq, dayEq⟩ := of?_eq_some found
      simp only [dayNumber, dayOfYear, monthEq, dayEq, daysBeforeMonth_succ _ monthLow]
      omega
    · obtain ⟨yearEq, monthEq, dayEq⟩ := of?_eq_some found
      obtain rfl : month = 12 := by omega
      have twelve := daysBeforeMonth_thirteen year
      have january : daysBeforeMonth (year + 1) 1 = 0 := rfl
      simp only [dayNumber, dayOfYear, monthEq, dayEq, yearEq, january, daysBeforeYear_succ]
      omega
  refine ⟨forward, fun number => ?_⟩
  cases found : date.firstOfNextMonth? with
  | some other =>
      rw [dayNumber_injective ((forward found).trans number.symm)]
  | none =>
      -- the month is the last one, so the next first would come after the last day
      exfalso
      have beyond := le_iff_dayNumber.mp (le_last next)
      obtain ⟨year, month, day, ⟨⟨yearLow, yearHigh⟩, ⟨monthLow, monthHigh⟩, _, _⟩⟩ := date
      simp only [firstOfNextMonth?] at found
      split at found
      · have := le_daysInMonth year (month + 1)
        rw [of?_eq_some_of_isDay ⟨⟨yearLow, yearHigh⟩, ⟨by omega, by omega⟩, by omega, by omega⟩]
          at found
        cases found
      · obtain rfl : month = 12 := by omega
        by_cases inside : year < lastYear
        · have := le_daysInMonth (year + 1) 1
          rw [of?_eq_some_of_isDay ⟨⟨by omega, by omega⟩, ⟨by omega, by omega⟩, by omega,
            by omega⟩] at found
          cases found
        · obtain rfl : year = lastYear := by omega
          have december : daysInMonth lastYear 12 = 31 := rfl
          simp only [dayNumber, dayOfYear, last, december] at number beyond
          omega

/-! ## Extremes -/

theorem earliest_le_left (a b : Date) : earliest a b ≤ a := by
  unfold earliest
  split
  · exact Std.le_refl a
  · exact (Std.le_total (a := a) (b := b)).resolve_left ‹_›

theorem earliest_le_right (a b : Date) : earliest a b ≤ b := by
  unfold earliest
  split
  · assumption
  · exact Std.le_refl b

theorem left_le_latest (a b : Date) : a ≤ latest a b := by
  unfold latest
  split
  · assumption
  · exact Std.le_refl a

theorem right_le_latest (a b : Date) : b ≤ latest a b := by
  unfold latest
  split
  · exact Std.le_refl b
  · exact (Std.le_total (a := a) (b := b)).resolve_left ‹_›

theorem le_earliest_iff {a b date : Date} : date ≤ earliest a b ↔ date ≤ a ∧ date ≤ b := by
  constructor
  · intro before
    exact ⟨Std.le_trans before (earliest_le_left a b), Std.le_trans before (earliest_le_right a b)⟩
  · rintro ⟨left, right⟩
    unfold earliest
    split <;> assumption

theorem latest_le_iff {a b date : Date} : latest a b ≤ date ↔ a ≤ date ∧ b ≤ date := by
  constructor
  · intro after
    exact ⟨Std.le_trans (left_le_latest a b) after, Std.le_trans (right_le_latest a b) after⟩
  · rintro ⟨left, right⟩
    unfold latest
    split <;> assumption

/-- A date is known by the dates before it. -/
theorem eq_of_forall_le_iff {a b : Date} (same : ∀ date, date ≤ a ↔ date ≤ b) : a = b :=
  Std.le_antisymm ((same a).mp (Std.le_refl a)) ((same b).mpr (Std.le_refl b))

/-- A date is known by the dates after it. -/
theorem eq_of_forall_ge_iff {a b : Date} (same : ∀ date, a ≤ date ↔ b ≤ date) : a = b :=
  Std.le_antisymm ((same b).mpr (Std.le_refl b)) ((same a).mp (Std.le_refl a))

theorem earliest_comm (a b : Date) : earliest a b = earliest b a :=
  eq_of_forall_le_iff fun date => by rw [le_earliest_iff, le_earliest_iff, and_comm]

theorem earliest_assoc (a b c : Date) :
    earliest (earliest a b) c = earliest a (earliest b c) :=
  eq_of_forall_le_iff fun date => by simp only [le_earliest_iff, and_assoc]

theorem latest_comm (a b : Date) : latest a b = latest b a :=
  eq_of_forall_ge_iff fun date => by rw [latest_le_iff, latest_le_iff, and_comm]

theorem latest_assoc (a b c : Date) : latest (latest a b) c = latest a (latest b c) :=
  eq_of_forall_ge_iff fun date => by simp only [latest_le_iff, and_assoc]

/-- The lesser of two dates is no later than the greater. -/
theorem earliest_le_latest (a b : Date) : earliest a b ≤ latest a b :=
  Std.le_trans (earliest_le_left a b) (left_le_latest a b)

/-- The least of some dates is no later than any of them. -/
theorem foldl_earliest_le {dates : List Date} {least date : Date}
    (member : date ∈ least :: dates) : dates.foldl earliest least ≤ date := by
  induction dates generalizing least date with
  | nil => exact Std.le_of_eq (List.mem_singleton.mp member).symm
  | cons head rest ih =>
      have head_le : (head :: rest).foldl earliest least ≤ earliest least head :=
        ih List.mem_cons_self
      rcases List.mem_cons.mp member with rfl | member
      · exact Std.le_trans head_le (earliest_le_left date head)
      · rcases List.mem_cons.mp member with rfl | later
        · exact Std.le_trans head_le (earliest_le_right least date)
        · exact ih (List.mem_cons_of_mem _ later)

/-- The greatest of some dates is no earlier than any of them. -/
theorem le_foldl_latest {dates : List Date} {greatest date : Date}
    (member : date ∈ greatest :: dates) : date ≤ dates.foldl latest greatest := by
  induction dates generalizing greatest date with
  | nil => exact Std.le_of_eq (List.mem_singleton.mp member)
  | cons head rest ih =>
      have le_head : latest greatest head ≤ (head :: rest).foldl latest greatest :=
        ih List.mem_cons_self
      rcases List.mem_cons.mp member with rfl | member
      · exact Std.le_trans (left_le_latest date head) le_head
      · rcases List.mem_cons.mp member with rfl | later
        · exact Std.le_trans (right_le_latest greatest date) le_head
        · exact ih (List.mem_cons_of_mem _ later)

end Reconciliation.Date
