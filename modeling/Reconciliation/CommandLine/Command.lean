import Reconciliation.CommandLine.Options
import Reconciliation.Number.Numeral
import Reconciliation.Partition

/-! # Commands

What a command line asks for. Words that no command understands ask for nothing.
-/

namespace Reconciliation.CommandLine

/-- The name of a command. -/
inductive CommandName where
  | statistics
  | hashes
  | vintages
  | compare
  | hashCompare
  deriving DecidableEq, Repr

/-- The name that a word denotes. -/
def CommandName.ofText? (text : String) : Option CommandName :=
  match text with
  | "stats-sql" => some .statistics
  | "hash-sql" => some .hashes
  | "vintages" => some .vintages
  | "compare" => some .compare
  | "hash-compare" => some .hashCompare
  | _ => none

/-- A command with its options. -/
inductive Command where
  | showStatistics (platform : Platform) (table column dataType : String)
    (filter : Option String) (places : Option Nat)
  | showHashes (tables : Both String) (columns keys : List String)
    (filters : Both (Option String)) (detailed : Bool)
  | listVintages (granularity : Granularity) (first last : Date)
    (partition table : Option String)
  | compareStatistics (paths : Both String)
  | compareHashes (paths : Both String) (sampleLimit : Option Nat)
  deriving DecidableEq

/-- A command with what holds for every command. -/
structure Invocation where
  settingsPath : Option String
  asJson : Bool
  command : Command
  deriving DecidableEq

namespace Command

/-- The files that a command reads. -/
def paths : Command → List String
  | .compareStatistics paths => [paths.legacy, paths.cloud]
  | .compareHashes paths _ => [paths.legacy, paths.cloud]
  | _ => []

/-- The switch to JSON, which stands before or after the name of the command. -/
def jsonShape : OptionShape := .switch "json"

def isGiven (uses : List OptionUse) (name : String) : Bool :=
  !(valuesOf uses name).isEmpty

/-- An option that has to be given. -/
def required? {α : Type} (uses : List OptionUse) (name : String) (read? : String → Option α) :
    Option α :=
  (valuesOf uses name).head?.bind read?

/-- An option that may be given. -/
def optional? {α : Type} (uses : List OptionUse) (name : String) (read? : String → Option α) :
    Option (Option α) :=
  match valuesOf uses name with
  | [] => some none
  | value :: _ => (read? value).map some

/-- An option that has to be given at least once. -/
def several? (uses : List OptionUse) (name : String) : Option (List String) :=
  let values := valuesOf uses name
  if values.isEmpty then none else some values

/-- A path, which is not empty. -/
def path? (value : String) : Option String :=
  if value.isEmpty then none else some value

def count? (value : String) : Option Nat :=
  countOfText? value.toList

def shapes (name : CommandName) : List OptionShape :=
  jsonShape ::
    match name with
    | .statistics =>
      ["platform", "table", "column", "type", "filter", "top-n"].map OptionShape.valued
    | .hashes =>
      ["legacy-table", "cloud-table", "legacy-filter", "cloud-filter"].map OptionShape.valued ++
        [.listed "column", .listed "key", .switch "debug"]
    | .vintages =>
      ["granularity", "from", "to", "partition-column", "table"].map OptionShape.valued
    | .compare => ["legacy", "cloud"].map OptionShape.valued
    | .hashCompare => ["legacy", "cloud", "sample-limit"].map OptionShape.valued

def ofUses? (name : CommandName) (uses : List OptionUse) : Option Command :=
  let text := Option.some
  match name with
  | .statistics => do
    let platform ← required? uses "platform" fun value => (Platform.ofName? value).toOption
    let table ← required? uses "table" text
    let column ← required? uses "column" text
    let dataType ← required? uses "type" text
    let filter ← optional? uses "filter" text
    let places ← optional? uses "top-n" count?
    return .showStatistics platform table column dataType filter places
  | .hashes => do
    let legacy ← required? uses "legacy-table" text
    let cloud ← required? uses "cloud-table" text
    let columns ← several? uses "column"
    let keys ← several? uses "key"
    let legacyFilter ← optional? uses "legacy-filter" text
    let cloudFilter ← optional? uses "cloud-filter" text
    return .showHashes ⟨legacy, cloud⟩ columns keys ⟨legacyFilter, cloudFilter⟩
      (isGiven uses "debug")
  | .vintages => do
    let granularity ← optional? uses "granularity" fun value => (Granularity.ofName? value).toOption
    let first ← required? uses "from" Date.ofText?
    let last ← required? uses "to" Date.ofText?
    let partition ← optional? uses "partition-column" text
    let table ← optional? uses "table" text
    return .listVintages (granularity.getD .month) first last partition table
  | .compare => do
    let legacy ← required? uses "legacy" path?
    let cloud ← required? uses "cloud" path?
    return .compareStatistics ⟨legacy, cloud⟩
  | .hashCompare => do
    let legacy ← required? uses "legacy" path?
    let cloud ← required? uses "cloud" path?
    let limit ← optional? uses "sample-limit" count?
    return .compareHashes ⟨legacy, cloud⟩ limit

end Command

namespace Invocation

/-- The options that stand before the name of the command. -/
def shapes : List OptionShape :=
  [{ name := "config", letter := some 'c' }, Command.jsonShape]

/-- The variable that names the file with the settings where no option does. -/
def settingsVariable : String := "MIGCHECK_CONFIG"

/-- The file with the settings, if an option or the variable names one. -/
def settingsPath? (environment : String → Option String) (uses : List OptionUse) :
    Option (Option String) :=
  match valuesOf uses "config", environment settingsVariable with
  | [], none => some none
  | [], some path => (Command.path? path).map some
  | path :: _, _ => (Command.path? path).map some

/-- What a command line asks for. -/
def ofWords? (environment : String → Option String) (words : List String) : Option Invocation := do
  let (uses, rest) ← options? shapes words
  match rest with
  | [] => none
  | word :: words =>
    let name ← CommandName.ofText? word
    let (commandUses, rest) ← options? (Command.shapes name) words
    if rest.isEmpty then
      return {
        settingsPath := ← settingsPath? environment uses
        asJson := Command.isGiven uses "json" || Command.isGiven commandUses "json"
        command := ← Command.ofUses? name commandUses }
    else none

def paths (invocation : Invocation) : List String :=
  invocation.settingsPath.toList ++ invocation.command.paths

end Invocation

end Reconciliation.CommandLine
