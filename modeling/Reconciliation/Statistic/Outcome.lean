import Reconciliation.Statistic.Row
import Reconciliation.Statistic.Schema

/-! # Comparing the statistics of a column

A column passes if all statistics agree, passes in part if only the frequency lists differ, and
fails otherwise. Without statistics from both platforms it gets no verdict.
-/

namespace Reconciliation

/-- What the comparison of a column amounts to. -/
inductive Verdict where
  | pass
  | partialPass
  | fail
  deriving DecidableEq, Repr

namespace Verdict

def name : Verdict → String
  | .pass => "PASS"
  | .partialPass => "PARTIAL"
  | .fail => "FAIL"

/-- The verdict on a column whose frequency lists, and whose other statistics, agree or not. -/
def ofAgreement (others frequency : Bool) : Verdict :=
  if !others then .fail else if frequency then .pass else .partialPass

end Verdict

/-- A statistic that differs. -/
structure StatMismatch where
  statistic : StatField
  values : Both (Option String)
  deriving DecidableEq

/-- The comparison of a column. -/
structure ComparisonResult where
  column : String
  agreement : SortedMap StatField Bool
  mismatches : List StatMismatch
  verdict : Verdict
  types : Both (Option String)
  rows : Both StatRow

/-- What is said of a column. -/
inductive ColumnOutcome where
  | compared (result : ComparisonResult)
  | notComparable (column : String) (missingOn : List Platform)

namespace ColumnOutcome

def column : ColumnOutcome → String
  | .compared result => result.column
  | .notComparable column _ => column

/-- The verdict, if there is one. -/
def verdict? : ColumnOutcome → Option Verdict
  | .compared result => some result.verdict
  | .notComparable _ _ => none

end ColumnOutcome

namespace StatSchema

/-- Whether the policy on zero and NULL makes two values of a statistic equal. -/
def forgives (schema : StatSchema) (kind : ComparisonKind) : StatValue → StatValue → Bool
  | .scalar left, .scalar right =>
    schema.zeroAsNull && kind.isNumeric && ComparisonKind.isZeroAgainstNull left right
  | _, _ => false

/-- Whether two values of a statistic are equal under a schema. -/
def accepts (schema : StatSchema) (kind : ComparisonKind) (left right : StatValue) : Bool :=
  kind.accepts left right || schema.forgives kind left right

/-- Whether a statistic agrees on both platforms. -/
def agrees (schema : StatSchema) (rows : Both StatRow) (field : StatField) : Bool :=
  schema.accepts (schema.kindOf field) (rows.legacy.get field) (rows.cloud.get field)

/-- The comparison of the statistics of a column. -/
def compareRows (schema : StatSchema) (column : String) (rows : Both StatRow) :
    ComparisonResult :=
  let differing := StatField.all.filter fun field => !schema.agrees rows field
  { column
    agreement := .ofList (StatField.all.map fun field => (field, schema.agrees rows field))
    mismatches := differing.map fun field => ⟨field, rows.map fun row => (row.get field).display?⟩
    verdict := .ofAgreement (differing.all StatField.isFrequency)
      (schema.agrees rows .frequency)
    types := rows.map StatRow.columnType
    rows }

/-- What is said of a column whose statistics may lack on some platform. -/
def compare (schema : StatSchema) (column : String) (rows : Both (Option StatRow)) :
    ColumnOutcome :=
  match rows.legacy, rows.cloud with
  | some legacy, some cloud => .compared (schema.compareRows column ⟨legacy, cloud⟩)
  | _, _ =>
    .notComparable column (Platform.all.filter fun platform => (rows.on platform).isNone)

end StatSchema

end Reconciliation
