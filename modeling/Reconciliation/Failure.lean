import Reconciliation.Platform

/-! # Failures

Everything that can go wrong, by cause. Each cause has one wording, and a failure adds the kind
of work that failed in front of it.
-/

namespace Reconciliation

/-- Why a statement cannot be written. -/
inductive CompilationFault where
  /-- The column is declared on the other platform. -/
  | foreignColumn (column : String) (owner target : Platform)
  /-- The column has a blank name. -/
  | emptyColumnName (table : String)
  /-- The frequency list has no place. -/
  | emptyFrequencyList
  /-- There is nothing to hash. -/
  | noHashedColumn
  /-- Rows have no key. -/
  | noKeyColumn
  /-- A key takes the name of a column of the result. -/
  | keyCollision (key : String)
  /-- A table is named without the schema that holds it. -/
  | missingQualifier (reference : String)
  /-- The schema or the table has a blank name. -/
  | incompleteReference (qualifier table : String)
  deriving DecidableEq, Repr

/-- Why a query result cannot be read. -/
inductive ResultFault where
  /-- A statistic is not among the columns. -/
  | missingStatistic (column : String)
  /-- A statistics query gave no row. -/
  | noStatistics
  /-- A key is not among the columns. -/
  | missingKey (column : String)
  /-- The digest is not among the columns, or NULL. -/
  | missingHash (column : String)
  /-- A column of the catalog is absent or NULL. -/
  | missingCatalogEntry (column : String)
  /-- A row count is NULL, negative or no whole number. -/
  | unreadableRowCount
  deriving DecidableEq, Repr

/-- Why a date cannot be found. -/
inductive DateFault where
  /-- Samples of a text column have no known layout. -/
  | unknownLayout (dataType : String)
  /-- The calendar ends before the day. -/
  | daysAfter (date : Date) (days : Nat)
  /-- The calendar begins after the Monday of the week. -/
  | weekStart (date : Date)
  /-- The calendar ends before the next month. -/
  | monthAfter (date : Date)
  /-- A partition holds something else than a date. -/
  | unreadablePartition (value column : String)
  /-- A range ends before it starts. -/
  | reversedRange (first last : Date)
  deriving DecidableEq

/-- Why settings cannot be used. -/
inductive SettingFault where
  | wrongPlatform (expected actual : Platform)
  | unreadableVariable (setting value : String)
  | emptyFrequencyList
  | emptySeparator
  | noParallelism
  | negativeTolerance (statistic : String)
  | malformedColumn (argument : String)
  deriving DecidableEq, Repr

/-- Why something failed. -/
inductive Failure where
  /-- A statement cannot be written. -/
  | compilation (fault : CompilationFault)
  /-- A query failed on its platform. -/
  | execution (platform : Platform) (unit message : String)
  /-- A query result cannot be read. -/
  | malformedResult (fault : ResultFault)
  /-- A date cannot be found. -/
  | invalidDate (fault : DateFault)
  /-- Settings cannot be used. -/
  | configuration (fault : SettingFault)
  /-- A file cannot be read. -/
  | unreadableFile (path : String)
  /-- Settings are not written as they should be. -/
  | malformedSettings
  /-- A document of records is not written as it should be. -/
  | malformedRecords
  deriving DecidableEq

/-- The wording of a compilation fault. -/
def CompilationFault.message : CompilationFault → String
  | .foreignColumn column owner target =>
    s!"Column '{column}' belongs to {owner.name} but was compiled for {target.name}"
  | .emptyColumnName table => s!"Empty column name for table {table}"
  | .emptyFrequencyList => "Frequency list size must be at least 1"
  | .noHashedColumn => "Row hash requires at least one hashed column"
  | .noKeyColumn => "Row hash requires at least one key column"
  | .keyCollision key => s!"Key column '{key}' collides with a row hash output column"
  | .missingQualifier reference => s!"Table reference '{reference}' is missing its qualifier"
  | .incompleteReference qualifier table =>
    s!"Table reference '{qualifier}.{table}' must name both qualifier and table"

/-- The wording of a result fault. -/
def ResultFault.message : ResultFault → String
  | .missingStatistic column => s!"statistics record is missing '{column}'"
  | .noStatistics => "statistics query returned no rows"
  | .missingKey column => s!"hash record is missing key '{column}'"
  | .missingHash column => s!"hash record has no '{column}'"
  | .missingCatalogEntry column => s!"catalog record has no '{column}'"
  | .unreadableRowCount => "row count is not a non-negative integer"

/-- The wording of a date fault. -/
def DateFault.message : DateFault → String
  | .unknownLayout dataType =>
    s!"Cannot detect date layout for partition column of type '{dataType}'"
  | .daysAfter date days => s!"{date.text} + {days} days is out of range"
  | .weekStart date => s!"week start of {date.text} is out of range"
  | .monthAfter date => s!"month after {date.text} is out of range"
  | .unreadablePartition value column => s!"partition value '{value}' of {column}"
  | .reversedRange first last => s!"{first.text} is after {last.text}"

/-- The wording of a setting fault. -/
def SettingFault.message : SettingFault → String
  | .wrongPlatform expected actual =>
    s!"Executor for {expected.name} reports platform {actual.name}"
  | .unreadableVariable setting value =>
    s!"{setting} must be a positive integer, got '{value}'"
  | .emptyFrequencyList => "stats.top_n must be at least 1"
  | .emptySeparator => "hash.separator must not be empty"
  | .noParallelism => "parallelism must be at least 1 per platform"
  | .negativeTolerance statistic => s!"negative tolerance for statistic '{statistic}'"
  | .malformedColumn argument => s!"Expected NAME:LEGACY_TYPE:CLOUD_TYPE, got '{argument}'"

def Failure.message : Failure → String
  | .compilation fault => s!"Compilation error: {fault.message}"
  | .execution platform unit message => s!"Execution failed on {platform.name} for {unit}: {message}"
  | .malformedResult fault => s!"Malformed result: {fault.message}"
  | .invalidDate fault => s!"Invalid date: {fault.message}"
  | .configuration fault => s!"Configuration error: {fault.message}"
  | .unreadableFile path => s!"cannot read {path}"
  | .malformedSettings => "the settings are malformed"
  | .malformedRecords => "the records are malformed"

end Reconciliation
