import Reconciliation.Column
import Reconciliation.SortedMap

/-! # The crosswalk

Which columns of the two catalogs are compared. Mappings link columns by name; names meet in the
case their platform folds them to. A mapping resolves to a pair of columns to compare, to a
tokenized column that is kept out of every comparison, or dangles because a catalog lacks its
column.
-/

namespace Reconciliation

/-- One link between a legacy column and its cloud counterpart. -/
structure ColumnMapping where
  /-- The legacy column. -/
  source : String
  /-- The cloud column. -/
  target : String
  /-- Whether the column is tokenized and takes no part in comparison. -/
  excluded : Bool := false
  deriving DecidableEq, Repr

/-- A compared pair whose types do not look alike. -/
structure TypeMismatch where
  columns : Both String
  types : Both String
  deriving DecidableEq

/-- The columns of a platform by folded name; of several of one name the last stands. -/
def catalogOf (platform : Platform) (columns : List Column) : SortedMap String Column :=
  .ofList (columns.map fun column => (platform.identifier column.name, column))

/-- What becomes of a mapping. -/
inductive Resolution where
  /-- A name is blank, and the mapping says nothing. -/
  | blank
  /-- A catalog lacks the column. -/
  | dangling (names : Both String) (mapping : ColumnMapping)
  /-- The column is kept out. -/
  | tokenized (names : Both String)
  /-- The columns are compared. -/
  | comparable (pair : ColumnPair)
  deriving DecidableEq

namespace ColumnMapping

/-- The names that a mapping links, folded. -/
def names (mapping : ColumnMapping) : Both String :=
  ⟨Platform.legacy.identifier mapping.source, Platform.cloud.identifier mapping.target⟩

/-- Whether a mapping leaves a name blank. -/
def isBlank (mapping : ColumnMapping) : Bool :=
  mapping.names.legacy.isEmpty || mapping.names.cloud.isEmpty

/-- What becomes of a mapping between two catalogs. -/
def resolve (catalogs : Both (SortedMap String Column)) (mapping : ColumnMapping) : Resolution :=
  let names := mapping.names
  if mapping.isBlank then .blank
  else
    match catalogs.legacy.get? names.legacy, catalogs.cloud.get? names.cloud with
    | some legacy, some cloud =>
      if mapping.excluded then .tokenized names
      else
        .comparable
          ⟨.declare .legacy names.legacy legacy.dataType, .declare .cloud names.cloud cloud.dataType⟩
    | _, _ => .dangling names mapping

end ColumnMapping

namespace Resolution

/-- The names that a mapping links, unless one is blank. -/
def names? : Resolution → Option (Both String)
  | .blank => none
  | .dangling names _ => some names
  | .tokenized names => some names
  | .comparable pair => some (pair.map Column.name)

def pair? : Resolution → Option ColumnPair
  | .comparable pair => some pair
  | _ => none

/-- The legacy name of a column that is kept out. -/
def tokenized? : Resolution → Option String
  | .tokenized names => some names.legacy
  | _ => none

def dangling? : Resolution → Option ColumnMapping
  | .dangling _ mapping => some mapping
  | _ => none

end Resolution

/-- The mismatch of a pair's types, if they do not look alike. -/
def ColumnPair.typeMismatch? (pair : ColumnPair) : Option TypeMismatch :=
  if typesCompatible pair.legacy.dataType pair.cloud.dataType then none
  else some ⟨pair.map Column.name, pair.map Column.dataType⟩

/-- Which columns of two catalogs are compared, and what is said of the others. -/
structure Crosswalk where
  /-- The pairs to compare, by legacy name. -/
  comparable : List ColumnPair := []
  /-- The legacy names of the columns kept out. -/
  tokenized : List String := []
  /-- The legacy columns that no mapping names. -/
  legacyOnly : List String := []
  /-- The cloud columns that no mapping names. -/
  cloudOnly : List String := []
  /-- The mappings whose columns a catalog lacks. -/
  dangling : List ColumnMapping := []
  /-- The compared pairs whose types do not look alike. -/
  typeMismatches : List TypeMismatch := []
  deriving DecidableEq

namespace Crosswalk

/-- The crosswalk of two catalogs under a list of mappings. Of several pairs with one legacy
column the last is compared. -/
def build (legacyColumns cloudColumns : List Column) (mappings : List ColumnMapping) :
    Crosswalk :=
  let catalogs : Both (SortedMap String Column) :=
    ⟨catalogOf .legacy legacyColumns, catalogOf .cloud cloudColumns⟩
  let resolutions := mappings.map (·.resolve catalogs)
  let pairs := resolutions.filterMap Resolution.pair?
  let mapped := resolutions.filterMap Resolution.names?
  { comparable := (SortedMap.ofList (pairs.map fun pair => (pair.name, pair))).values
    tokenized := SortedMap.distinct (resolutions.filterMap Resolution.tokenized?)
    legacyOnly := catalogs.legacy.keys.filter fun name => !(mapped.map Both.legacy).contains name
    cloudOnly := catalogs.cloud.keys.filter fun name => !(mapped.map Both.cloud).contains name
    dangling := resolutions.filterMap Resolution.dangling?
    typeMismatches := pairs.filterMap ColumnPair.typeMismatch? }

/-- The compared pair whose legacy column a name denotes. -/
def pair? (crosswalk : Crosswalk) (name : String) : Option ColumnPair :=
  let folded := Platform.legacy.identifier name
  crosswalk.comparable.find? fun pair => pair.name == folded

/-- The names of the compared pairs. -/
def names (crosswalk : Crosswalk) : List String :=
  crosswalk.comparable.map ColumnPair.name

end Crosswalk

end Reconciliation
