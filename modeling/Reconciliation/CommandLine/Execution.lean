import Reconciliation.CommandLine.Command
import Reconciliation.Display.Overview
import Reconciliation.Document.Json.Reader
import Reconciliation.Document.Json.Writer
import Reconciliation.Handoff.Vintage
import Reconciliation.Query.RowHash
import Reconciliation.Settings

/-! # Running commands

What a command prints, and whether what it looked at reconciles. Everything comes from the words
of the command line, the environment and the texts of files, so a run is a function of them.
-/

namespace Reconciliation.CommandLine

/-- What a command prints, and whether everything reconciled. -/
structure Printout where
  text : String
  reconciled : Bool := true
  deriving DecidableEq, Repr

/-- Some lines, each with its end. -/
def linesText (lines : List String) : String :=
  String.join (lines.map (· ++ "\n"))

/-- The pair of columns that an argument `NAME:LEGACY_TYPE:CLOUD_TYPE` denotes. Further colons
belong to the last type. -/
def columnArgument? (argument : String) : Except SettingFault ColumnPair :=
  let parts : Option (List Char × List Char × List Char) := do
    let (name, types) ← Text.splitFirst? [':'] argument.toList
    let (legacy, cloud) ← Text.splitFirst? [':'] types
    return (Text.trimBoth name, Text.trimBoth legacy, Text.trimBoth cloud)
  match parts with
  | some (name, legacy, cloud) =>
    if name.isEmpty || legacy.isEmpty || cloud.isEmpty then .error (.malformedColumn argument)
    else
      let column (platform : Platform) (dataType : List Char) : Column :=
        .declare platform (platform.identifier (String.ofList name)) (String.ofList dataType)
      .ok ⟨column .legacy legacy, column .cloud cloud⟩
  | none => .error (.malformedColumn argument)

/-- The table that a text denotes. -/
def tableOf (text : String) : Except Failure TableRef :=
  (TableRef.ofText? text).mapError .compilation

/-- The value that the JSON text of a file denotes. -/
def readRecords {α : Type} (files : String → Option String) (read? : Document → Option α)
    (path : String) : Except Failure α :=
  match files path with
  | none => .error (.unreadableFile path)
  | some text =>
    match (Document.Json.read? text).bind read? with
    | some value => .ok value
    | none => .error .malformedRecords

namespace Printout

/-- The statistics query of a column. -/
def ofStatisticsQuery (settings : Settings) (platform : Platform) (table column dataType : String)
    (filter : Option String) (places : Option Nat) : Except Failure Printout := do
  let table ← tableOf table
  let declared := Column.declare platform (platform.identifier column) dataType
  let query ← (statisticsQuery platform table declared filter
    (places.getD settings.stats.frequencyPlaces)).mapError .compilation
  return ⟨linesText [query], true⟩

/-- The row hash queries of both platforms. -/
def ofHashQueries (settings : Settings) (tables : Both String) (columns keys : List String)
    (filters : Both (Option String)) (detailed : Bool) : Except Failure Printout := do
  let legacyTable ← tableOf tables.legacy
  let cloudTable ← tableOf tables.cloud
  let columns ← (columns.mapM columnArgument?).mapError .configuration
  let keys ← (keys.mapM columnArgument?).mapError .configuration
  let lines (platform : Platform) (table : TableRef) : Except Failure (List String) := do
    let write := if detailed then rowHashDetailQuery else rowHashQuery
    let query ← (write platform table columns keys (filters.on platform)
      settings.hash.options).mapError .compilation
    return [s!"-- {platform.name}", s!"{query};", ""]
  let legacy ← lines .legacy legacyTable
  let cloud ← lines .cloud cloudTable
  return ⟨linesText (legacy ++ cloud), true⟩

/-- The vintages of a range of dates, on a column of dates that has one name on both platforms. -/
def ofVintages (asJson : Bool) (granularity : Granularity) (first last : Date)
    (partition table : Option String) : Except Failure Printout := do
  if last < first then throw (.invalidDate (.reversedRange first last))
  let column := partition.map fun name => PartitionColumn.mk name .date
  let _ ← table.mapM tableOf
  let windows ← (granularity.windows first last).mapError .invalidDate
  let vintages := windows.map fun window => Vintage.ofWindow window ⟨column, column⟩
  let text :=
    if asJson then Document.Json.pretty (.ofList Vintage.toDocument vintages)
    else (vintageGrid vintages).render
  return ⟨linesText [text], true⟩

/-- Statistics by folded column name; of several columns of one name the last stands. -/
def foldedStatistics (rows : SortedMap String StatRow) : SortedMap String StatRow :=
  .ofList (rows.entries.map fun (name, row) => (Platform.legacy.identifier name, row))

/-- The comparison of statistics of both platforms by column name. -/
def ofStatistics (settings : Settings) (asJson : Bool)
    (rows : Both (SortedMap String StatRow)) : Printout :=
  let folded := rows.map foldedStatistics
  let names := SortedMap.distinct (folded.legacy.keys ++ folded.cloud.keys)
  let outcomes := names.map fun name =>
    settings.stats.schema.compare name (folded.map (·.get? name))
  let quality := ColumnQuality.analyze names (.ofList [("input", outcomes)]) settings.keyCount
  let lines :=
    if asJson then
      [ Document.Json.pretty <| Document.sorted <| .record
          [ ("outcomes", .ofList ColumnOutcome.toDocument outcomes),
            ("quality", quality.toDocument) ] ]
    else (verdictGrid outcomes).render :: quality.keyLine?.toList
  ⟨linesText lines, outcomes.all fun outcome => outcome.verdict? == some .pass⟩

/-- The comparison of hashed rows of both platforms. -/
def ofHashes (settings : Settings) (asJson : Bool) (rows : Both (List HashRow))
    (sampleLimit : Option Nat) : Printout :=
  let comparison := RowHashComparison.reconcile rows (sampleLimit.getD settings.hash.sampleLimit)
  let lines :=
    if asJson then [Document.Json.pretty (HashOutcome.compared comparison).toDocument]
    else
      [comparison.countGrid.render] ++
        comparison.sampleMismatches.map RowHashComparison.mismatchLine ++ [comparison.statusLine]
  ⟨linesText lines, comparison.isMatch⟩

end Printout

namespace Command

/-- What a command prints under some settings. -/
def run (settings : Settings) (asJson : Bool) (files : String → Option String) :
    Command → Except Failure Printout
  | .showStatistics platform table column dataType filter places =>
    Printout.ofStatisticsQuery settings platform table column dataType filter places
  | .showHashes tables columns keys filters detailed =>
    Printout.ofHashQueries settings tables columns keys filters detailed
  | .listVintages granularity first last partition table =>
    Printout.ofVintages asJson granularity first last partition table
  | .compareStatistics paths => do
    let read := readRecords files (Document.map? some StatRow.ofDocument?)
    let legacy ← read paths.legacy
    let cloud ← read paths.cloud
    return .ofStatistics settings asJson ⟨legacy, cloud⟩
  | .compareHashes paths sampleLimit => do
    let read := readRecords files (Document.list? HashRow.ofDocument?)
    let legacy ← read paths.legacy
    let cloud ← read paths.cloud
    return .ofHashes settings asJson ⟨legacy, cloud⟩ sampleLimit

end Command

namespace Invocation

/-- The settings of a run: those of the file, if one is named, with what the environment says. -/
def settings (invocation : Invocation) (environment : String → Option String)
    (files : String → Option String) : Except Failure Settings := do
  let settings ←
    match invocation.settingsPath with
    | none => pure {}
    | some path =>
      match files path with
      | none => throw (.unreadableFile path)
      | some text => Settings.ofText text
  (settings.withEnvironment environment).mapError .configuration

def run (invocation : Invocation) (environment : String → Option String)
    (files : String → Option String) : Except Failure Printout := do
  let settings ← invocation.settings environment files
  invocation.command.run settings invocation.asJson files

end Invocation

/-- How a run ends. -/
inductive Ending where
  | misused
  | failed (failure : Failure)
  | finished (printout : Printout)
  deriving DecidableEq

namespace Ending

/-- How the run of a command line ends. -/
def ofWords (environment : String → Option String) (files : String → Option String)
    (words : List String) : Ending :=
  match Invocation.ofWords? environment words with
  | none => .misused
  | some invocation =>
    match invocation.run environment files with
    | .ok printout => .finished printout
    | .error failure => .failed failure

def text : Ending → String
  | .finished printout => printout.text
  | _ => ""

/-- The number that a shell is told: 0 if everything reconciled, 1 if something differs, and 2 if
the command did not do its work. -/
def exitCode : Ending → Nat
  | .misused => 2
  | .failed _ => 2
  | .finished printout => if printout.reconciled then 0 else 1

end Ending

end Reconciliation.CommandLine
