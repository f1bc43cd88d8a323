import Reconciliation.Calendar.Date
import Reconciliation.Number.Binary64
import Reconciliation.Platform
import Reconciliation.SortedMap

/-! # Row counts

The numbers of rows of a table on its two platforms, compared day by day over the days that
either platform has. A day that one platform lacks has no rows there.
-/

namespace Reconciliation

-- Sums start from the literal zero, whatever else is imported beside this module.
attribute [local instance (high)] Zero.ofOfNat0

/-- The number of rows of each day. -/
abbrev RowCounts := SortedMap Date Nat

/-- A day whose numbers of rows differ. -/
structure DateMismatch where
  date : Date
  counts : Both Nat
  deriving DecidableEq

/-- The numbers of rows of two platforms compared. -/
structure RowCountComparison where
  /-- The days compared. -/
  totalDays : Nat := 0
  /-- The days whose numbers agree. -/
  matchedDays : Nat := 0
  /-- All rows of each platform. -/
  totals : Both Nat := ⟨0, 0⟩
  /-- The days whose numbers differ. -/
  mismatches : List DateMismatch := []
  /-- Whether something was compared and all of it agrees. -/
  matchesAll : Bool := false
  deriving DecidableEq

namespace RowCountComparison

/-- The number of rows of a day. -/
def countOn (counts : RowCounts) (date : Date) : Nat :=
  (counts.get? date).getD 0

/-- The mismatch of a day, if its numbers differ. -/
def mismatchOn (counts : Both RowCounts) (date : Date) : Option DateMismatch :=
  let found := counts.map (countOn · date)
  if found.legacy = found.cloud then none else some ⟨date, found⟩

/-- The comparison of two tables day by day. -/
def compare (counts : Both RowCounts) : RowCountComparison :=
  let days := SortedMap.distinct (counts.legacy.keys ++ counts.cloud.keys)
  let mismatches := days.filterMap (mismatchOn counts)
  { totalDays := days.length
    matchedDays := days.length - mismatches.length
    totals := counts.map (·.values.sum)
    mismatches
    matchesAll := !days.isEmpty && mismatches.isEmpty }

/-- The comparison of two tables that have no days. -/
def compareTotals (totals : Both Nat) : RowCountComparison :=
  { totals, matchesAll := totals.legacy = totals.cloud }

def mismatchedDates (comparison : RowCountComparison) : List Date :=
  SortedMap.distinct (comparison.mismatches.map DateMismatch.date)

/-- The share of days whose numbers differ. -/
def mismatchRate (comparison : RowCountComparison) : Binary64 :=
  if comparison.totalDays = 0 then .zero
  else .ofRatio false comparison.mismatches.length comparison.totalDays

end RowCountComparison

end Reconciliation
