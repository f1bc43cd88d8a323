/-! # Calendar dates

Days of the proleptic Gregorian calendar within a bounded range of years. A date is known by its
year, month and day; `dayNumber` counts days from the start of year one and gives the order of
dates, their distances and their weekdays.
-/

namespace Reconciliation

/-- The first year of the calendar. -/
def firstYear : Int := -262143

/-- The last year of the calendar. -/
def lastYear : Int := 262142

/-- A year divisible by four, but of the centuries only every fourth. -/
def isLeapYear (year : Int) : Bool :=
  year % 4 = 0 && (year % 100 ≠ 0 || year % 400 = 0)

/-- The number of days of a month. -/
def daysInMonth (year : Int) (month : Nat) : Nat :=
  if month = 2 then (if isLeapYear year then 29 else 28)
  else if month = 4 ∨ month = 6 ∨ month = 9 ∨ month = 11 then 30
  else 31

/-- The number of days of a year. -/
def daysInYear (year : Int) : Nat :=
  if isLeapYear year then 366 else 365

/-- The number of days of a year before a month. -/
def daysBeforeMonth (year : Int) : (month : Nat) → Nat
  | 0 => 0
  | 1 => 0
  | month + 2 => daysBeforeMonth year (month + 1) + daysInMonth year (month + 1)

/-- The number of days before a year, counted from the start of year one. -/
def daysBeforeYear (year : Int) : Int :=
  365 * (year - 1) + (year - 1) / 4 - (year - 1) / 100 + (year - 1) / 400

/-- A day that the calendar has. -/
def IsDay (year : Int) (month day : Nat) : Prop :=
  (firstYear ≤ year ∧ year ≤ lastYear) ∧ (1 ≤ month ∧ month ≤ 12) ∧
    (1 ≤ day ∧ day ≤ daysInMonth year month)

instance (year : Int) (month day : Nat) : Decidable (IsDay year month day) :=
  inferInstanceAs (Decidable (_ ∧ _))

/-- A calendar date. -/
structure Date where
  /-- The year; year zero is the year before year one. -/
  year : Int
  /-- The month, from one. -/
  month : Nat
  /-- The day of the month, from one. -/
  day : Nat
  /-- The calendar has this day. -/
  isDay : IsDay year month day
  deriving DecidableEq

namespace Date

/-- The date of a year, month and day, if the calendar has it. -/
def of? (year : Int) (month day : Nat) : Option Date :=
  if isDay : IsDay year month day then some ⟨year, month, day, isDay⟩ else none

/-- A number that grows with the date; it has gaps. -/
def rank (date : Date) : Int :=
  (date.year * 16 + date.month) * 32 + date.day

/-- A month has at most thirty-one days. -/
theorem daysInMonth_le (year : Int) (month : Nat) : daysInMonth year month ≤ 31 := by
  unfold daysInMonth
  split
  · split <;> decide
  · split <;> decide

/-- A month has at least twenty-eight days. -/
theorem le_daysInMonth (year : Int) (month : Nat) : 28 ≤ daysInMonth year month := by
  unfold daysInMonth
  split
  · split <;> decide
  · split <;> decide

theorem rank_injective {a b : Date} (same : a.rank = b.rank) : a = b := by
  obtain ⟨ya, ma, da, ⟨_, ⟨_, monthA⟩, dayA⟩⟩ := a
  obtain ⟨yb, mb, db, ⟨_, ⟨_, monthB⟩, dayB⟩⟩ := b
  have boundA := daysInMonth_le ya ma
  have boundB := daysInMonth_le yb mb
  simp only [rank] at same
  obtain rfl : ya = yb := by omega
  obtain rfl : ma = mb := by omega
  obtain rfl : da = db := by omega
  rfl

/-- Dates are ordered by year, month and day. -/
instance : LE Date := ⟨fun a b => a.rank ≤ b.rank⟩

instance : LT Date := ⟨fun a b => a.rank < b.rank⟩

instance : DecidableLE Date := fun a b => inferInstanceAs (Decidable (a.rank ≤ b.rank))

instance : DecidableLT Date := fun a b => inferInstanceAs (Decidable (a.rank < b.rank))

theorem le_iff_rank {a b : Date} : a ≤ b ↔ a.rank ≤ b.rank := Iff.rfl

theorem lt_iff_rank {a b : Date} : a < b ↔ a.rank < b.rank := Iff.rfl

instance : Std.IsLinearOrder Date where
  le_refl a := Int.le_refl a.rank
  le_trans a b c := Int.le_trans (a := a.rank) (b := b.rank) (c := c.rank)
  le_antisymm _ _ below above := rank_injective (Int.le_antisymm below above)
  le_total a b := Int.le_total a.rank b.rank

instance : Std.LawfulOrderLT Date where
  lt_iff a b := Int.lt_iff_le_and_not_ge (a := a.rank) (b := b.rank)

/-- The day of the year, from one. -/
def dayOfYear (date : Date) : Nat :=
  daysBeforeMonth date.year date.month + date.day

/-- The number of the day, one on the first day of year one. -/
def dayNumber (date : Date) : Int :=
  daysBeforeYear date.year + date.dayOfYear

/-- The days since the last Monday. -/
def daysSinceMonday (date : Date) : Nat :=
  ((date.dayNumber - 1) % 7).toNat

/-- The day after. The calendar ends with the last day of its last year. -/
def next? (date : Date) : Option Date :=
  if date.day < daysInMonth date.year date.month then of? date.year date.month (date.day + 1)
  else if date.month < 12 then of? date.year (date.month + 1) 1
  else of? (date.year + 1) 1 1

/-- The day before. The calendar begins with the first day of its first year. -/
def previous? (date : Date) : Option Date :=
  if 1 < date.day then of? date.year date.month (date.day - 1)
  else if 1 < date.month then
    of? date.year (date.month - 1) (daysInMonth date.year (date.month - 1))
  else of? (date.year - 1) 12 31

/-- The date a number of days later. -/
def later? (date : Date) : (days : Nat) → Option Date
  | 0 => some date
  | days + 1 => date.next?.bind fun next => next.later? days

/-- The date a number of days earlier. -/
def earlier? (date : Date) : (days : Nat) → Option Date
  | 0 => some date
  | days + 1 => date.previous?.bind fun previous => previous.earlier? days

/-- The first day of the month. -/
def firstOfMonth (date : Date) : Date :=
  ⟨date.year, date.month, 1, date.isDay.1, date.isDay.2.1, Nat.le_refl 1,
    Nat.le_trans (by decide) (le_daysInMonth date.year date.month)⟩

/-- The first day of the month after. -/
def firstOfNextMonth? (date : Date) : Option Date :=
  if date.month < 12 then of? date.year (date.month + 1) 1 else of? (date.year + 1) 1 1

/-- A week, Monday to Sunday, belongs to the year that holds its Thursday. -/
structure Week where
  /-- The year of the week. -/
  year : Int
  /-- The number of the week in its year, from one. -/
  number : Nat
  deriving DecidableEq

def week (date : Date) : Week :=
  let thursday : Int := date.dayOfYear - date.daysSinceMonday + 3
  if thursday < 1 then
    ⟨date.year - 1, ((thursday + daysInYear (date.year - 1) - 1) / 7).toNat + 1⟩
  else if (daysInYear date.year : Int) < thursday then
    ⟨date.year + 1, ((thursday - daysInYear date.year - 1) / 7).toNat + 1⟩
  else ⟨date.year, ((thursday - 1) / 7).toNat + 1⟩

def earliest (a b : Date) : Date := if a ≤ b then a else b

def latest (a b : Date) : Date := if a ≤ b then b else a

end Date

end Reconciliation
