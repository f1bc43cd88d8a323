import Reconciliation.Statistic.Outcome

/-! # Column quality

How the columns of a table fared over all of its vintages. A column is clean if it passed in
every vintage; the clean columns with the most distinct values serve as keys.
-/

namespace Reconciliation

/-- The number of key columns unless another is set. -/
def defaultKeyCount : Nat := 5

/-- How one column fared. -/
structure ColumnSummary where
  vintages : Nat := 0
  passed : Nat := 0
  passedPartly : Nat := 0
  failed : Nat := 0
  notComparable : Nat := 0
  maxDistinct : Option Binary64 := none
  deriving DecidableEq

namespace ColumnSummary

/-- The summary of what is said of a column, one outcome a vintage. -/
def ofOutcomes (outcomes : List ColumnOutcome) : ColumnSummary :=
  let verdicts := outcomes.map ColumnOutcome.verdict?
  let distinctCounts := outcomes.filterMap fun outcome =>
    match outcome with
    | .compared result => result.rows.legacy.distinct.bind Scalar.number?
    | .notComparable _ _ => none
  { vintages := outcomes.length
    passed := verdicts.count (some .pass)
    passedPartly := verdicts.count (some .partialPass)
    failed := verdicts.count (some .fail)
    notComparable := verdicts.count none
    maxDistinct := distinctCounts.foldl
      (fun greatest count => some (greatest.elim count (·.greater count))) none }

/-- Whether a column passed in each of all vintages. -/
def isClean (summary : ColumnSummary) (totalVintages : Nat) : Bool :=
  0 < totalVintages && summary.vintages == totalVintages && summary.passed == totalVintages

/-- The number by which key columns are ranked; unknown numbers come last. -/
def rank (summary : ColumnSummary) : Binary64 :=
  summary.maxDistinct.getD Binary64.greatest.neg

end ColumnSummary

/-- How the columns of a table fared. -/
structure ColumnQuality where
  totalVintages : Nat := 0
  cleanColumns : List String := []
  mismatchedColumns : List String := []
  keyColumns : List String := []
  columns : SortedMap String ColumnSummary := .empty

namespace ColumnQuality

/-- A key is preferred for more distinct values, then for its name. -/
def preferred (a b : String × ColumnSummary) : Bool :=
  if b.2.rank.lt a.2.rank then true
  else if a.2.rank.lt b.2.rank then false
  else a.1 ≤ b.1

/-- How some columns fared over vintages, each with what it says of its columns. -/
def analyze (columns : List String) (vintages : SortedMap String (List ColumnOutcome))
    (keyCount : Nat) : ColumnQuality :=
  let summary (column : String) : ColumnSummary :=
    .ofOutcomes (vintages.values.filterMap (·.find? (·.column == column)))
  let summaries := SortedMap.ofList (columns.map fun column => (column, summary column))
  let clean := summaries.entries.filter (·.2.isClean vintages.size)
  let mismatched := summaries.entries.filter (!·.2.isClean vintages.size)
  { totalVintages := vintages.size
    cleanColumns := clean.map Prod.fst
    mismatchedColumns := mismatched.map Prod.fst
    keyColumns := ((clean.mergeSort preferred).take keyCount).map Prod.fst
    columns := summaries }

end ColumnQuality

end Reconciliation
