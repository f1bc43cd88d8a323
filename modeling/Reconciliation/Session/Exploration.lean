import Reconciliation.Crosswalk
import Reconciliation.Query.Catalog
import Reconciliation.Session.Inquiry

/-! # Exploring a table

What has to be found out before a table is compared: the columns of both catalogs, the crosswalk
between them, and how the partition column holds its dates.
-/

namespace Reconciliation

/-- A text of a catalog record. -/
def catalogEntry (record : Record) (name : String) : Except ResultFault String :=
  match (record.get? name).join with
  | some value => .ok value.display
  | none => .error (.missingCatalogEntry name)

/-- The column of a catalog record. -/
def Column.ofRecord (platform : Platform) (record : Record) : Except ResultFault Column := do
  let name ← catalogEntry record "column_name"
  let dataType ← catalogEntry record "data_type"
  return .declare platform name dataType

/-- The columns of the records of a catalog. -/
def readCatalog (platform : Platform) (answer : Answer) : Except Failure (List Column) := do
  let result ← answer
  (result.records.mapM (Column.ofRecord platform)).mapError .malformedResult

/-- The values that a partition sample holds. -/
def sampleValues (result : QueryResult) : List String :=
  result.records.filterMap fun record => (record.get? sampleName).join.map Scalar.display

/-- The number of values that are looked at to tell the layout of a partition column. -/
def partitionSampleSize : Nat := 10

namespace Connections

/-- The columns of a table on one platform. -/
def fetchCatalog (connections : Connections) (platform : Platform) (table : TableRef) :
    Inquiry (Except Failure (List Column)) := do
  let answer ← connections.ask platform (catalogQuery platform table)
  return readCatalog platform answer

/-- The crosswalk of two tables. Both catalogs are fetched, and a failure on the legacy platform
is told first. -/
def fetchCrosswalk (connections : Connections) (tables : Both TableRef)
    (mappings : List ColumnMapping) : Inquiry (Except Failure Crosswalk) := do
  let legacy ← connections.fetchCatalog .legacy tables.legacy
  let cloud ← connections.fetchCatalog .cloud tables.cloud
  return do
    let legacyColumns ← legacy
    let cloudColumns ← cloud
    return .build legacyColumns cloudColumns mappings

/-- The partition column that a column of a table is. A type of days or points in time tells how
the dates are held; of another type a sample is taken. -/
def detectPartition (connections : Connections) (platform : Platform) (table : TableRef)
    (column : Column) : Inquiry (Except Failure PartitionColumn) := do
  let storageOf (samples : List String) : Except Failure PartitionColumn := do
    let storage ← (DateStorage.infer column.dataType samples).mapError .invalidDate
    return ⟨column.name, storage⟩
  if column.family.isTemporal then return storageOf []
  else
    let answer ← connections.ask platform
      (partitionSampleQuery platform table column.name partitionSampleSize)
    return do
      let result ← answer
      storageOf (sampleValues result)

end Connections

end Reconciliation
