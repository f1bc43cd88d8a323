import Reconciliation.Query.Statistics
import Reconciliation.Session.Inquiry
import Reconciliation.Session.Report
import Reconciliation.Vintage.Validation

/-! # Runs over a vintage

A run compiles all its statements before it sends any. Each statement is a unit of work that
succeeds or fails by itself: what a failed unit would have found is missing, and everything else
is compared. Results are kept by the name of their unit, so a report does not depend on the order
in which units finish.
-/

namespace Reconciliation

/-- What the units of a platform found, and which of them failed. -/
structure Harvest (α : Type) where
  /-- The findings by unit; of several of one name the last stands. -/
  found : SortedMap String α
  /-- The failures by unit. -/
  failures : List UnitFailure

namespace Harvest

/-- The findings of the units that succeeded. -/
def findings {α : Type} (results : List (String × Except Failure α)) : List (String × α) :=
  results.filterMap fun (name, result) => result.toOption.map (name, ·)

/-- The failures of the units that did not. -/
def failuresOf {α : Type} (platform : Platform) (results : List (String × Except Failure α)) :
    List UnitFailure :=
  results.filterMap fun (name, result) =>
    match result with
    | .ok _ => none
    | .error failure => some ⟨platform, name, failure.message⟩

/-- The results of the units of a platform. -/
def ofResults {α : Type} (platform : Platform) (results : List (String × Except Failure α)) :
    Harvest α :=
  { found := .ofList (findings results)
    failures := (failuresOf platform results).mergeSort fun a b => a.unit ≤ b.unit }

def foundOnBoth {α : Type} (harvests : Both (Harvest α)) : Both (SortedMap String α) :=
  harvests.map Harvest.found

/-- The failures of both platforms, those of the legacy one first. -/
def allFailures {α : Type} (harvests : Both (Harvest α)) : List UnitFailure :=
  harvests.legacy.failures ++ harvests.cloud.failures

end Harvest

/-- The filters of a vintage, as queries take them. -/
def ValidatedVintage.queryFilters (vintage : ValidatedVintage) : Both (Option String) :=
  vintage.filters.map some

def ValidatedVintage.snapshot : ValidatedVintage :=
  { window := .snapshot
    filters := ⟨alwaysTrue, alwaysTrue⟩
    excludedDates := []
    fingerprint := "" }

/-- The units that take the statistics of some pairs of columns. -/
def statsUnits (tables : Both TableRef) (pairs : List ColumnPair) (vintage : ValidatedVintage)
    (places : Nat) : Except CompilationFault (Both (List WorkUnit)) :=
  match pairs with
  | [] => .ok ⟨[], []⟩
  | pair :: pairs => do
    let statement (platform : Platform) : Except CompilationFault String :=
      statisticsQuery platform (tables.on platform) (pair.on platform)
        (vintage.queryFilters.on platform) places
    let legacy ← statement .legacy
    let cloud ← statement .cloud
    let rest ← statsUnits tables pairs vintage places
    return ⟨⟨pair.name, legacy⟩ :: rest.legacy, ⟨pair.name, cloud⟩ :: rest.cloud⟩

/-- The statistics that an answer holds. -/
def readStatistics (answer : Answer) : Except Failure StatRow := do
  let result ← answer
  match result.records with
  | [] => throw (.malformedResult .noStatistics)
  | record :: _ => (StatRow.ofRecord record).mapError .malformedResult

/-- The hashed rows that an answer holds. -/
def readHashRows (keyNames : List String) (answer : Answer) : Except Failure (List HashRow) := do
  let result ← answer
  (HashRow.ofRecords keyNames result.records).mapError .malformedResult

/-- What is said of each pair of columns, given the statistics found. Of several pairs of one name
the first takes the statistics. -/
def pairOutcomes (schema : StatSchema) (found : Both (SortedMap String StatRow)) :
    List ColumnPair → List ColumnOutcome
  | [] => []
  | pair :: pairs =>
    schema.compare pair.name (found.map (·.get? pair.name)) ::
      pairOutcomes schema (found.map (·.erase pair.name)) pairs

/-- The report of the statistics found over a vintage. -/
def StatsReport.ofHarvests (schema : StatSchema) (pairs : List ColumnPair) (vintage : String)
    (harvests : Both (Harvest StatRow)) : StatsReport :=
  { vintage
    outcomes := pairOutcomes schema (Harvest.foundOnBoth harvests) pairs
    failures := Harvest.allFailures harvests }

/-- The name of the unit that hashes the rows of a vintage. -/
def hashUnitName (vintage : String) : String :=
  s!"row hash {vintage}"

/-- The report of the hashed rows found over a vintage. -/
def HashReport.ofHarvests (sampleLimit : Nat) (vintage : String)
    (harvests : Both (Harvest (List HashRow))) : HashReport :=
  { vintage
    outcome :=
      .reconcile ((Harvest.foundOnBoth harvests).map (·.get? (hashUnitName vintage))) sampleLimit
    failures := Harvest.allFailures harvests }

namespace Connections

/-- What some units of each platform found. -/
def harvest {α : Type} (connections : Connections) (units : Both (List WorkUnit))
    (read : Answer → Except Failure α) : Inquiry (Both (Harvest α)) := do
  let results (answers : List (String × Answer)) : List (String × Except Failure α) :=
    answers.map fun (name, answer) => (name, read answer)
  let legacy ← connections.askAll .legacy units.legacy
  let cloud ← connections.askAll .cloud units.cloud
  return ⟨.ofResults .legacy (results legacy), .ofResults .cloud (results cloud)⟩

/-- The statistics of some pairs of columns over a vintage, compared. -/
def runStats (connections : Connections) (tables : Both TableRef) (pairs : List ColumnPair)
    (vintage : ValidatedVintage) (places : Nat) (schema : StatSchema) :
    Inquiry (Except Failure StatsReport) :=
  match statsUnits tables pairs vintage places with
  | .error fault => return .error (.compilation fault)
  | .ok units => do
    let harvests ← connections.harvest units readStatistics
    return .ok (.ofHarvests schema pairs vintage.window.label harvests)

/-- The rows of a vintage, hashed over some pairs of columns and compared by their keys. -/
def runHashes (connections : Connections) (tables : Both TableRef)
    (columns keys : List ColumnPair) (vintage : ValidatedVintage) (options : HashOptions)
    (sampleLimit : Nat) : Inquiry (Except Failure HashReport) :=
  match rowHashQueries tables columns keys vintage.queryFilters options with
  | .error fault => return .error (.compilation fault)
  | .ok statements => do
    let label := vintage.window.label
    let units := statements.map fun statement => [WorkUnit.mk (hashUnitName label) statement]
    let harvests ← connections.harvest units (readHashRows (keys.map ColumnPair.keyName))
    return .ok (.ofHarvests sampleLimit label harvests)

end Connections

end Reconciliation
