import Reconciliation.Number.DecimalText
import Reconciliation.Partition
import Reconciliation.Query.Predicate
import Reconciliation.Query.Table

/-! # Catalog queries

Queries on a table as a whole: its columns, a sample of its partition values and its numbers of
rows.
-/

namespace Reconciliation

/-- The name of a day in a row count query. -/
def partitionDateName : String := "partition_date"

/-- The name of a number of rows. -/
def rowCountName : String := "row_count"

/-- The name of a sampled value. -/
def sampleName : String := "sample_value"

/-- The numbers of rows of a table: of each day, or at once if it has no partition column. -/
def rowCountQuery (platform : Platform) (table : TableRef) (partition : Option PartitionColumn)
    (filter : Option String) : String :=
  let rows := s!"FROM {table.render platform}\nWHERE {wherePredicate filter}"
  match partition with
  | some column =>
    let day := column.standardExpression platform
    "\n".intercalate
      [ s!"SELECT {day} AS {partitionDateName}, COUNT(*) AS {rowCountName}",
        rows,
        s!"GROUP BY {day}",
        s!"ORDER BY {day}" ]
  | none => s!"SELECT COUNT(*) AS {rowCountName}\n{rows}"

/-- The names and types of the columns of a table. -/
def catalogQuery (platform : Platform) (table : TableRef) : String :=
  let qualifier := quoteLiteral (platform.identifier table.qualifier)
  let name := quoteLiteral (platform.identifier table.table)
  "\n".intercalate <|
    "SELECT column_name, data_type" ::
    match platform with
    | .legacy =>
      [ "FROM all_tab_cols",
        s!"WHERE owner = {qualifier}",
        s!"  AND table_name = {name}",
        "  AND hidden_column = 'NO'",
        "ORDER BY column_id" ]
    | .cloud =>
      [ "FROM information_schema.columns",
        s!"WHERE table_schema = {qualifier}",
        s!"  AND table_name = {name}",
        "ORDER BY ordinal_position" ]

/-- Some values of a partition column. -/
def partitionSampleQuery (platform : Platform) (table : TableRef) (column : String)
    (limit : Nat) : String :=
  let c := platform.identifier column
  let source := table.render platform
  let limit := String.ofList (digitsOf limit)
  match platform with
  | .legacy =>
    s!"SELECT {c} AS {sampleName} FROM {source} WHERE {c} IS NOT NULL AND ROWNUM <= {limit}"
  | .cloud =>
    s!"SELECT CAST({c} AS VARCHAR) AS {sampleName} FROM {source} WHERE {c} IS NOT NULL " ++
    s!"LIMIT {limit}"

end Reconciliation
