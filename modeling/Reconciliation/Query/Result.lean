import Reconciliation.Scalar
import Reconciliation.SortedMap
import Reconciliation.Text.Case

/-! # Query results

What a database answers: named columns and rows of values. Readers take a row as a record by the
lower-cased names of its columns.
-/

namespace Reconciliation

/-- The values of a row by lower-cased column name. -/
abbrev Record := SortedMap String (Option Scalar)

/-- The answer to a query. -/
structure QueryResult where
  columns : List String := []
  rows : List (List (Option Scalar)) := []
  deriving DecidableEq

namespace QueryResult

/-- A row as a record. Columns beyond the end of the row are NULL, and of several columns of one
name the last stands. -/
def record (columns : List String) (row : List (Option Scalar)) : Record :=
  .ofList (columns.zipIdx.map fun (name, place) => (Text.lower name, row[place]?.join))

def records (result : QueryResult) : List Record :=
  result.rows.map (record result.columns)

def isEmpty (result : QueryResult) : Bool :=
  result.rows.isEmpty

end QueryResult

end Reconciliation
