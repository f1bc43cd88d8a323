import Reconciliation.Display.Grid
import Reconciliation.Display.KeyText
import Reconciliation.RowHash.Comparison
import Reconciliation.Statistic.Quality
import Reconciliation.Vintage.Validation

/-! # Overviews

What people are shown of vintages, of the verdicts on columns and of reconciled rows.
-/

namespace Reconciliation

def Vintage.cells (vintage : Vintage) : List String :=
  let shownDate (date : Option Date) : String := (date.map Date.text).getD ""
  [ vintage.window.label, shownDate vintage.window.start, shownDate vintage.window.stop,
    vintage.predicates.legacy, vintage.predicates.cloud ]

def vintageGrid (vintages : List Vintage) : Grid :=
  { header := ["label", "start", "end", "legacy predicate", "cloud predicate"]
    rows := vintages.map Vintage.cells }

/-- The row of what is said of a column. -/
def ColumnOutcome.cells : ColumnOutcome → List String
  | .compared result =>
    [ result.column, result.verdict.name, result.types.legacy.getD "", result.types.cloud.getD "",
      ", ".intercalate (result.mismatches.map (·.statistic.name)) ]
  | .notComparable column missingOn =>
    let platforms := ", ".intercalate (missingOn.map Platform.name)
    [column, "N/A", "", "", s!"missing on {platforms}"]

def verdictGrid (outcomes : List ColumnOutcome) : Grid :=
  { header := ["column", "verdict", "legacy type", "cloud type", "mismatches"]
    rows := outcomes.map ColumnOutcome.cells }

/-- The key columns on one line, if there are any. -/
def ColumnQuality.keyLine? (quality : ColumnQuality) : Option String :=
  if quality.keyColumns.isEmpty then none
  else some ("key columns: " ++ ", ".intercalate quality.keyColumns)

namespace RowHashComparison

def countGrid (comparison : RowHashComparison) : Grid :=
  let counts : List (String × Nat) :=
    [ ("legacy rows", comparison.rows.legacy),
      ("cloud rows", comparison.rows.cloud),
      ("matched", comparison.matched),
      ("hash mismatch", comparison.hashMismatch),
      ("legacy only", comparison.only.legacy),
      ("cloud only", comparison.only.cloud),
      ("duplicate keys", comparison.duplicateKeys) ]
  { header := ["metric", "value"]
    rows := counts.map fun (metric, count) => [metric, String.ofList (digitsOf count)] }

/-- The line of two rows that differ. -/
def mismatchLine (mismatch : HashMismatch) : String :=
  s!"mismatch key={mismatch.key.shown} legacy={mismatch.hashes.legacy} " ++
  s!"cloud={mismatch.hashes.cloud}"

def statusLine (comparison : RowHashComparison) : String :=
  if comparison.isMatch then "MATCH" else "DIFFERENT"

end RowHashComparison

end Reconciliation
