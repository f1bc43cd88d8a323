import Reconciliation.Session.Counting
import Reconciliation.Session.Exploration
import Reconciliation.Session.Run
import Reconciliation.Statistic.Quality

/-! # Findings of a session

A table is reconciled in steps: crosswalk, partition columns, validation, statistics, quality of
the columns, row hashes. Each step takes from the findings of the earlier ones what it is not
told, and its own findings replace those of an earlier step of its kind.
-/

namespace Reconciliation

/-- What the steps of a session have found so far. -/
structure Findings where
  crosswalk : Crosswalk := {}
  partitions : Both (Option PartitionColumn) := ⟨none, none⟩
  outcome : Option TableOutcome := none
  statistics : SortedMap String (List ColumnOutcome) := .empty
  cleanColumns : List String := []
  keyColumns : List String := []

namespace Findings

/-- The findings with a partition column of one platform. -/
def withPartition (findings : Findings) (platform : Platform) (column : PartitionColumn) :
    Findings :=
  { findings with partitions := findings.partitions.modify (fun _ => some column) platform }

/-- The findings with what is said of the columns over one vintage. -/
def withStatistics (findings : Findings) (report : StatsReport) : Findings :=
  { findings with statistics := findings.statistics.insert report.vintage report.outcomes }

/-- The findings with the quality of the columns. -/
def withQuality (findings : Findings) (quality : ColumnQuality) : Findings :=
  { findings with cleanColumns := quality.cleanColumns, keyColumns := quality.keyColumns }

def vintages (findings : Findings) : List ValidatedVintage :=
  (findings.outcome.map TableOutcome.vintages).getD []

/-- The vintage of a place among those of the table; without a place, the table as it stands. -/
def vintage? (findings : Findings) (place : Option Nat) : Option ValidatedVintage :=
  match place with
  | none => some .snapshot
  | some place => findings.vintages[place]?

/-- Whether each vintage of the table is stale in the light of another validation, if there was
an earlier one and the table is still compared. -/
def staleness? (findings : Findings) (current : TableOutcome) : Option (List Bool) :=
  match findings.outcome, current with
  | some _, .validated validation =>
    some (findings.vintages.map (·.isStale validation.rowCounts))
  | _, _ => none

/-- The pairs of the crosswalk that have the given names. -/
def pairsNamed (findings : Findings) (names : List String) : List ColumnPair :=
  names.filterMap findings.crosswalk.pair?

/-- How some pairs of columns fared over the vintages seen. -/
def quality (findings : Findings) (pairs : List ColumnPair) (keyCount : Nat) : ColumnQuality :=
  .analyze (pairs.map ColumnPair.name) findings.statistics keyCount

end Findings

end Reconciliation
