import Reconciliation.Document.Yaml.Reader
import Reconciliation.Handoff.RowHash
import Reconciliation.Handoff.Statistic
import Reconciliation.Query.Statistics

/-! # Settings

What may be set for a run. Settings come from a file, every section of which may lack, and from
two variables of the environment; they are used only if every part of them can do its work.
-/

namespace Reconciliation

/-- Settings of the comparison of statistics. -/
structure StatsSettings where
  frequencyPlaces : Nat := defaultFrequencyPlaces
  schema : StatSchema := .standard

/-- Settings of the comparison of rows. -/
structure HashSettings where
  options : HashOptions := {}
  sampleLimit : Nat := defaultSampleLimit

/-- The number of queries that run at once on each platform unless another is set. -/
def defaultParallelism : Both Nat := ⟨3, 5⟩

/-- What may be set for a run. -/
structure Settings where
  /-- The comparison of statistics. -/
  stats : StatsSettings := {}
  /-- The comparison of rows. -/
  hash : HashSettings := {}
  /-- The number of key columns. -/
  keyCount : Nat := defaultKeyCount
  /-- The number of queries that run at once on each platform. -/
  parallelism : Both Nat := defaultParallelism

namespace Settings

/-- The variable that sets how many queries run at once on a platform. -/
def parallelismVariable : Platform → String
  | .legacy => "MIGCHECK_LEGACY_PARALLELISM"
  | .cloud => "MIGCHECK_CLOUD_PARALLELISM"

/-- The name of the first statistic whose tolerance is negative. -/
def negativeTolerance? (schema : StatSchema) : Option StatField :=
  let isNegative (bound : Binary64) : Bool := bound.lt .zero
  (schema.toList.find? fun (_, kind) =>
    kind.tolerance?.any fun tolerance =>
      isNegative tolerance.absolute || isNegative tolerance.relative).map Prod.fst

/-- What keeps settings from being used, if anything does. -/
def fault? (settings : Settings) : Option SettingFault :=
  if settings.stats.frequencyPlaces = 0 then some .emptyFrequencyList
  else if settings.hash.options.separator.isEmpty then some .emptySeparator
  else if settings.parallelism.legacy = 0 ∨ settings.parallelism.cloud = 0 then
    some .noParallelism
  else (negativeTolerance? settings.stats.schema).map fun field => .negativeTolerance field.name

/-- Settings, if they can be used. -/
def checked (settings : Settings) : Except SettingFault Settings :=
  match settings.fault? with
  | some fault => .error fault
  | none => .ok settings

/-- The parallelism of a platform, or what its variable in the environment says. -/
def overridden (environment : String → Option String) (platform : Platform) (parallelism : Nat) :
    Except SettingFault Nat :=
  let setting := parallelismVariable platform
  match environment setting with
  | none => .ok parallelism
  | some value =>
    match countOfText? (Text.trimBoth value.toList) with
    | some number => .ok number
    | none => .error (.unreadableVariable setting value)

/-- Settings with what the environment says. -/
def withEnvironment (settings : Settings) (environment : String → Option String) :
    Except SettingFault Settings := do
  let legacy ← overridden environment .legacy settings.parallelism.legacy
  let cloud ← overridden environment .cloud settings.parallelism.cloud
  checked { settings with parallelism := ⟨legacy, cloud⟩ }

def toDocument (settings : Settings) : Document :=
  .record
    [ ("stats", .record
        [ ("top_n", .ofCount settings.stats.frequencyPlaces),
          ("schema", settings.stats.schema.toDocument) ]),
      ("hash", .record <| settings.hash.options.members ++
        [("sample_limit", .ofCount settings.hash.sampleLimit)]),
      ("keys", .record [("count", .ofCount settings.keyCount)]),
      ("parallelism", Both.toDocument .ofCount settings.parallelism) ]

/-- The settings of statistics that a document denotes. -/
def statsOfDocument? (document : Document) : Option StatsSettings := do
  let standard : StatsSettings := {}
  let slots ← document.slots? ["top_n", "schema"]
  return {
    frequencyPlaces := ← (slots "top_n").orDefault standard.frequencyPlaces Document.count?
    schema := ← (slots "schema").orDefault standard.schema StatSchema.ofDocument? }

/-- The settings of rows that a document denotes. -/
def hashOfDocument? (document : Document) : Option HashSettings := do
  let standard : HashSettings := {}
  let slots ← document.namedSlots? ("sample_limit" :: HashOptions.memberNames)
  return {
    options := ← HashOptions.ofSlots? slots
    sampleLimit := ← (slots "sample_limit").orDefault standard.sampleLimit Document.count? }

/-- The number of key columns that a document denotes. -/
def keyCountOfDocument? (document : Document) : Option Nat := do
  let slots ← document.slots? ["count"]
  (slots "count").orDefault defaultKeyCount Document.count?

/-- The parallelism that a document denotes. -/
def parallelismOfDocument? (document : Document) : Option (Both Nat) := do
  let slots ← document.slots? ["legacy", "cloud"]
  return {
    legacy := ← (slots "legacy").orDefault defaultParallelism.legacy Document.count?
    cloud := ← (slots "cloud").orDefault defaultParallelism.cloud Document.count? }

/-- The settings that a document denotes; what lacks is standard. -/
def ofDocument? (document : Document) : Option Settings := do
  let standard : Settings := {}
  let slots ← document.slots? ["stats", "hash", "keys", "parallelism"]
  return {
    stats := ← (slots "stats").orDefault standard.stats statsOfDocument?
    hash := ← (slots "hash").orDefault standard.hash hashOfDocument?
    keyCount := ← (slots "keys").orDefault standard.keyCount keyCountOfDocument?
    parallelism := ← (slots "parallelism").orDefault standard.parallelism parallelismOfDocument? }

/-- The settings that a text denotes, if they can be used. -/
def ofText (text : String) : Except Failure Settings :=
  match (Document.Yaml.read? text).bind ofDocument? with
  | none => .error .malformedSettings
  | some settings => settings.checked.mapError .configuration

end Settings

end Reconciliation
