import Reconciliation.Failure
import Reconciliation.Query.Result
import Reconciliation.Statistic.Field

/-! # Rows of statistics

The statistics of one column on one platform, as a statistics query returns them.
-/

namespace Reconciliation

/-- The statistics of a column on one platform. -/
structure StatRow where
  columnType : Option String := none
  count : Option Scalar := none
  distinct : Option Scalar := none
  min : Option Scalar := none
  max : Option Scalar := none
  mean : Option Scalar := none
  std : Option Scalar := none
  sum : Option Scalar := none
  sumSq : Option Scalar := none
  missing : Option Scalar := none
  frequency : Option (List FrequencyEntry) := none
  deriving DecidableEq

namespace StatRow

def get (row : StatRow) : StatField → StatValue
  | .count => .scalar row.count
  | .distinct => .scalar row.distinct
  | .min => .scalar row.min
  | .max => .scalar row.max
  | .mean => .scalar row.mean
  | .std => .scalar row.std
  | .sum => .scalar row.sum
  | .sumSq => .scalar row.sumSq
  | .missing => .scalar row.missing
  | .frequency => .frequency row.frequency

/-- A column of a statistics record, which may be NULL but not lack. -/
def column (record : Record) (name : String) : Except ResultFault (Option Scalar) :=
  match record.get? name with
  | some value => .ok value
  | none => .error (.missingStatistic name)

def statistic (record : Record) (field : StatField) : Except ResultFault (Option Scalar) :=
  column record field.projectedName

/-- A statistic of a record that counts something. -/
def countStatistic (record : Record) (field : StatField) : Except ResultFault (Option Scalar) :=
  return (← statistic record field).map Scalar.coerceInteger

/-- The row of a statistics record. -/
def ofRecord (record : Record) : Except ResultFault StatRow := do
  let frequency := (← statistic record .frequency).map fun value =>
    FrequencyEntry.ofText value.display
  return {
    columnType := (← column record "col_type").map Scalar.display
    count := ← countStatistic record .count
    distinct := ← countStatistic record .distinct
    min := ← statistic record .min
    max := ← statistic record .max
    mean := ← statistic record .mean
    std := ← statistic record .std
    sum := ← statistic record .sum
    sumSq := ← statistic record .sumSq
    missing := ← countStatistic record .missing
    frequency }

end StatRow

end Reconciliation
