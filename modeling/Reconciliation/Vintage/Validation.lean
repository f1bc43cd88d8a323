import Reconciliation.Query.Table
import Reconciliation.Vintage.Fingerprint
import Reconciliation.Vintage.RowCount
import Reconciliation.Vintage.Window

/-! # Validated vintages

A vintage is a window of a table that both platforms have. It is validated once its filters leave
out the days whose numbers of rows differ: what remains has the same number of rows on both
sides, so every later difference is a difference of values.
-/

namespace Reconciliation

/-- A window with the predicate that selects it on each platform. -/
structure Vintage where
  window : Window
  predicates : Both String
  deriving DecidableEq

/-- The vintage of a window, given the partition column of each platform. -/
def Vintage.ofWindow (window : Window) (partitions : Both (Option PartitionColumn)) : Vintage :=
  ⟨window, .tabulate fun platform => window.predicate platform (partitions.on platform)⟩

/-- A vintage of a table as people read it. -/
def Vintage.describe (vintage : Vintage) (table : TableRef) : String :=
  let label := vintage.window.label
  match vintage.window.start, vintage.window.stop with
  | some start, some stop => s!"{table.text}[{label} {start.text}..{stop.text})"
  | _, _ => s!"{table.text}[{label}]"

/-- The predicate that leaves out some days, if there are any. -/
def exclusionPredicate? (platform : Platform) (column : PartitionColumn) (dates : List Date) :
    Option String :=
  if dates.isEmpty then none
  else
    let literals := ", ".intercalate (dates.map (column.literal platform))
    some s!"{column.dayExpression platform} NOT IN ({literals})"

theorem exclusionPredicate?_eq_ite (platform : Platform) (column : PartitionColumn)
    (dates : List Date) : exclusionPredicate? platform column dates =
      if dates = [] then none
      else some (column.dayExpression platform ++ " NOT IN (" ++
        ", ".intercalate (dates.map (column.literal platform)) ++ ")") := by
  cases dates with
  | nil => rfl
  | cons => simp [exclusionPredicate?, toString, String.append_assoc]

/-- What one platform knows of a table. -/
structure TableSide where
  /-- Whether the table could be read. -/
  accessible : Bool := false
  /-- The column it is partitioned on. -/
  partition : Option PartitionColumn := none
  /-- The filter that every query on it keeps to. -/
  baseFilter : Option String := none
  /-- The numbers of rows of a partitioned table. -/
  rowCounts : RowCounts := .empty
  /-- The number of rows of a table without partitions. -/
  totalRows : Option Nat := none

/-- A vintage with the filters that leave its mismatched days out. -/
structure ValidatedVintage where
  window : Window
  filters : Both String
  excludedDates : List Date
  fingerprint : String
  deriving DecidableEq

/-- Whether the mismatched days of a vintage are no longer those that its filters leave out. -/
def ValidatedVintage.isStale (vintage : ValidatedVintage) (current : RowCountComparison) : Bool :=
  Reconciliation.fingerprint (current.mismatchedDates.filter vintage.window.contains)
    ≠ vintage.fingerprint

/-- Why a table is not compared. -/
inductive ExclusionReason where
  | notAccessible (platform : Platform)
  | noOverlap
  | outOfRange
  deriving DecidableEq, Repr

def ExclusionReason.message : ExclusionReason → String
  | .notAccessible platform => s!"not accessible on {platform.name}"
  | .noOverlap => "no overlapping vintage"
  | .outOfRange => "vintage bounds out of range"

/-- A table with its vintages. -/
structure TableValidation where
  table : String
  granularity : Granularity
  rowCounts : RowCountComparison
  vintages : List ValidatedVintage
  deriving DecidableEq

/-- What validation says of a table. -/
inductive TableOutcome where
  | validated (validation : TableValidation)
  | excluded (table : String) (reason : ExclusionReason)
  deriving DecidableEq

namespace TableOutcome

def table : TableOutcome → String
  | .validated validation => validation.table
  | .excluded table _ => table

def vintages : TableOutcome → List ValidatedVintage
  | .validated validation => validation.vintages
  | .excluded _ _ => []

/-- The reason that the table is not compared. -/
def reason? : TableOutcome → Option ExclusionReason
  | .validated _ => none
  | .excluded _ reason => some reason

end TableOutcome

/-- The filter of a vintage on one platform. -/
def composeFilter (platform : Platform) (vintage : Vintage) (side : TableSide)
    (excluded : List Date) : String :=
  let exclusion := side.partition.bind (exclusionPredicate? platform · excluded)
  allOf [vintage.predicates.on platform, side.baseFilter.getD "", exclusion.getD ""]

/-- A window validated against the days whose numbers of rows differ. Without bounds it leaves
no day out. -/
def ValidatedVintage.ofWindow (sides : Both TableSide) (mismatched : List Date)
    (window : Window) : ValidatedVintage :=
  let excluded := if window.isSnapshot then [] else mismatched.filter window.contains
  let vintage := Vintage.ofWindow window (sides.map TableSide.partition)
  { window
    filters := .tabulate fun platform => composeFilter platform vintage (sides.on platform) excluded
    excludedDates := excluded
    fingerprint := Reconciliation.fingerprint excluded }

/-- The windows that both sides of a table have. A table that lacks a partition column on some
side is taken as it stands. -/
def sharedWindows (granularity : Granularity) (sides : Both TableSide) :
    Except DateFault (List Window) :=
  let partitioned := sides.legacy.partition.isSome && sides.cloud.partition.isSome
  if granularity = .snapshot || !partitioned then .ok [.snapshot]
  else
    match granularity.windowsOfDates sides.legacy.rowCounts.keys,
      granularity.windowsOfDates sides.cloud.rowCounts.keys with
    | .ok legacy, .ok cloud => .ok (Window.align legacy cloud)
    | .error fault, _ => .error fault
    | .ok _, .error fault => .error fault

/-- The numbers of rows of a table compared: by their totals where both sides have one and some
side lacks a partition column, day by day otherwise. -/
def compareRowCounts (sides : Both TableSide) : RowCountComparison :=
  let partitioned := sides.legacy.partition.isSome && sides.cloud.partition.isSome
  match partitioned, sides.legacy.totalRows, sides.cloud.totalRows with
  | false, some legacy, some cloud => .compareTotals ⟨legacy, cloud⟩
  | _, _, _ => .compare (sides.map TableSide.rowCounts)

/-- What validation says of a table with its two sides. -/
def validateTable (table : String) (granularity : Granularity) (sides : Both TableSide) :
    TableOutcome :=
  match Platform.all.find? fun platform => !(sides.on platform).accessible with
  | some platform => .excluded table (.notAccessible platform)
  | none =>
    match sharedWindows granularity sides with
    | .error _ => .excluded table .outOfRange
    | .ok [] => .excluded table .noOverlap
    | .ok windows =>
      let rowCounts := compareRowCounts sides
      let mismatched := rowCounts.mismatchedDates
      .validated
        { table, granularity, rowCounts
          vintages := windows.map (ValidatedVintage.ofWindow sides mismatched) }

end Reconciliation
