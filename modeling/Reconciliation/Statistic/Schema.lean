import Reconciliation.SortedMap
import Reconciliation.Statistic.Field

/-! # Comparison schemas

A schema lists how statistics are compared; a statistic that it does not list is compared by its
default.
-/

namespace Reconciliation

/-- How statistics are compared. -/
structure StatSchema where
  /-- The kinds of the listed statistics. -/
  kinds : SortedMap StatField ComparisonKind
  /-- Whether zero against NULL is equal for every statistic that is compared as a number. -/
  zeroAsNull : Bool

namespace StatSchema

def defaultKinds : SortedMap StatField ComparisonKind :=
  .ofList (StatField.all.map fun field => (field, field.defaultKind))

/-- The schema that lists every statistic by its default. -/
def standard : StatSchema := ⟨defaultKinds, true⟩

instance : Inhabited StatSchema := ⟨standard⟩

def kindOf (schema : StatSchema) (field : StatField) : ComparisonKind :=
  (schema.kinds.get? field).getD field.defaultKind

/-- The schema with the kind of one statistic set. -/
def withKind (schema : StatSchema) (field : StatField) (kind : ComparisonKind) : StatSchema :=
  { schema with kinds := schema.kinds.insert field kind }

/-- The schema with one tolerance for every kind that has any. -/
def withTolerance (schema : StatSchema) (tolerance : Tolerance) : StatSchema :=
  StatField.all.foldl
    (fun changed field => changed.withKind field ((changed.kindOf field).withTolerance tolerance))
    schema

/-- Every statistic with its kind, in reporting order. -/
def toList (schema : StatSchema) : List (StatField × ComparisonKind) :=
  StatField.all.map fun field => (field, schema.kindOf field)

end StatSchema

end Reconciliation
