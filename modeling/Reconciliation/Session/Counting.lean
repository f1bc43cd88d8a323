import Reconciliation.Query.Catalog
import Reconciliation.Session.Inquiry
import Reconciliation.Vintage.Validation

/-! # Counting rows

What each platform knows of a table, as found by counting its rows. Days that the database spells
in several ways are one day. A count that cannot be read makes the whole side inaccessible, so no
side is ever half known.
-/

namespace Reconciliation

/-- A table as one platform looks at it. -/
structure TableScope where
  /-- The table. -/
  table : TableRef
  /-- The column it is partitioned on. -/
  partition : Option PartitionColumn := none
  /-- The filter that every query on it keeps to. -/
  baseFilter : Option String := none
  deriving DecidableEq

/-- The number of rows that a record tells. -/
def rowCountOf (record : Record) : Except ResultFault Nat :=
  match (record.get? rowCountName).join.map Scalar.coerceInteger with
  | some (.integer count) =>
    if 0 ≤ count.toInt then .ok count.toInt.toNat else .error .unreadableRowCount
  | _ => .error .unreadableRowCount

/-- The day of a record and its number of rows. A record without a day counts for none. -/
def dayCountOf (column : PartitionColumn) (record : Record) :
    Except Failure (Option (Date × Nat)) :=
  match (record.get? partitionDateName).join with
  | none => .ok none
  | some value =>
    match TextLayout.dashed.parse? value.display with
    | none => .error (.invalidDate (.unreadablePartition value.display column.name))
    | some date => do
      let count ← (rowCountOf record).mapError .malformedResult
      return some (date, count)

/-- Row counts with more rows of a day. -/
def RowCounts.add (counts : RowCounts) (date : Date) (rows : Nat) : RowCounts :=
  counts.insert date (RowCountComparison.countOn counts date + rows)

/-- The rows of each day of some counts of days. -/
def RowCounts.ofDayCounts (dayCounts : List (Date × Nat)) : RowCounts :=
  dayCounts.foldl (fun counts (date, rows) => counts.add date rows) .empty

/-- The number of rows of a table without partitions. -/
def readTotal (result : QueryResult) : Except Failure Nat :=
  match result.records with
  | [] => .ok 0
  | record :: _ => (rowCountOf record).mapError .malformedResult

/-- What a platform knows of a table, given the answer to its row count query. -/
def readTableSide (scope : TableScope) (answer : Answer) : Except Failure TableSide := do
  let result ← answer
  match scope.partition with
  | none =>
    let total ← readTotal result
    return { accessible := true, baseFilter := scope.baseFilter, totalRows := some total }
  | some column =>
    let dayCounts ← result.records.mapM (dayCountOf column)
    return {
      accessible := true
      partition := some column
      baseFilter := scope.baseFilter
      rowCounts := .ofDayCounts (dayCounts.filterMap id) }

namespace Connections

/-- What a platform knows of a table; nothing, if its rows cannot be counted. -/
def tableSide (connections : Connections) (platform : Platform) (scope : TableScope) :
    Inquiry TableSide := do
  let answer ← connections.ask platform
    (rowCountQuery platform scope.table scope.partition scope.baseFilter)
  return match readTableSide scope answer with
    | .ok side => side
    | .error _ => {}

/-- What validation says of a table after its rows are counted on both platforms. -/
def validate (connections : Connections) (table : String) (granularity : Granularity)
    (scopes : Both TableScope) : Inquiry TableOutcome := do
  let legacy ← connections.tableSide .legacy scopes.legacy
  let cloud ← connections.tableSide .cloud scopes.cloud
  return validateTable table granularity ⟨legacy, cloud⟩

end Connections

end Reconciliation
