import Reconciliation.CommandLine.Execution
import Reconciliation.Proofs.Query.Reading
import Reconciliation.Proofs.Session.StatisticsRun
import Reconciliation.Proofs.Statistic.Quality
import Reconciliation.Proofs.Text.ByteOrder

/-! # Comparing statistics on the command line

The command compares two inputs column by column, after folding the names of the columns. Whether
it succeeds is read off the outcomes, and so is the quality of the columns, by another path: the
outcomes serve as those of a single vintage. Both say the same (`compare_succeeds_iff`): the command
succeeds exactly if the inputs name the same columns and all of them pass, and then no column is
mismatched.
-/

namespace Reconciliation

/-- A column gets the verdict on its rows if both platforms have some. -/
theorem StatSchema.verdict?_compare_eq_some_iff {schema : StatSchema} {column : String}
    {rows : Both (Option StatRow)} {verdict : Verdict} :
    (schema.compare column rows).verdict? = some verdict ↔
      ∃ held : Both StatRow, (∀ platform, rows.on platform = some (held.on platform)) ∧
        (schema.compareRows column held).verdict = verdict := by
  constructor
  · intro told
    obtain ⟨legacy, cloud⟩ := rows
    cases legacy with
    | none => cases told
    | some legacy =>
        cases cloud with
        | none => cases told
        | some cloud =>
            exact ⟨⟨legacy, cloud⟩, fun platform => by cases platform <;> rfl,
              Option.some.inj told⟩
  · rintro ⟨⟨legacy, cloud⟩, found, rfl⟩
    obtain ⟨left, right⟩ := rows
    obtain rfl : left = some legacy := found .legacy
    obtain rfl : right = some cloud := found .cloud
    rfl

namespace CommandLine

/-! ## Folded names -/

section

variable {rows : SortedMap String StatRow} {name : String} {row : StatRow}

/-- The names of the columns of an input, folded. -/
def foldedNames (rows : SortedMap String StatRow) : List String :=
  rows.keys.map Platform.legacy.identifier

/-- An input has a row under a folded name. Of several spellings of the name, the row is that of the
last by its bytes. -/
def Holds (rows : SortedMap String StatRow) (name : String) (row : StatRow) : Prop :=
  ∃ spelling, rows.get? spelling = some row ∧ Platform.legacy.identifier spelling = name ∧
    ∀ other ∈ rows.keys, Platform.legacy.identifier other = name →
      Text.bytes other ≤ Text.bytes spelling

theorem get?_foldedStatistics_eq_some_iff :
    (Printout.foldedStatistics rows).get? name = some row ↔ Holds rows name row := by
  simp only [Holds, Text.bytes_le_iff]
  exact SortedMap.get?_ofList_map_iff

theorem isSome_get?_foldedStatistics_iff :
    ((Printout.foldedStatistics rows).get? name).isSome ↔ name ∈ foldedNames rows := by
  rw [Printout.foldedStatistics, SortedMap.isSome_get?_ofList_iff, List.map_map, foldedNames,
    SortedMap.keys, List.map_map]
  rfl

/-- An input has a row under each of its folded names. -/
theorem exists_holds_iff : (∃ row, Holds rows name row) ↔ name ∈ foldedNames rows := by
  rw [← isSome_get?_foldedStatistics_iff, Option.isSome_iff_exists]
  simp only [get?_foldedStatistics_eq_some_iff]

/-- An input has one row under a folded name. -/
theorem Holds.unique {other : StatRow} (holds : Holds rows name row)
    (otherHolds : Holds rows name other) : row = other := by
  have first := get?_foldedStatistics_eq_some_iff.mpr holds
  have second := get?_foldedStatistics_eq_some_iff.mpr otherHolds
  exact Option.some.inj (first.symm.trans second)

end

/-! ## Outcomes and quality -/

section

variable (settings : Settings) (schema : StatSchema) (rows : Both (SortedMap String StatRow))

/-- The folded names of the columns of either input. -/
def inputNames : List String :=
  let folded := rows.map Printout.foldedStatistics
  SortedMap.distinct (folded.legacy.keys ++ folded.cloud.keys)

/-- What is said of a folded name. -/
def inputOutcome (name : String) : ColumnOutcome :=
  schema.compare name ((rows.map Printout.foldedStatistics).map (·.get? name))

def inputOutcomes : List ColumnOutcome :=
  (inputNames rows).map (inputOutcome schema rows)

/-- The outcomes as those of one vintage. -/
def inputVintages : SortedMap String (List ColumnOutcome) :=
  .ofList [("input", inputOutcomes schema rows)]

def inputQuality : ColumnQuality :=
  .analyze (inputNames rows) (inputVintages settings.stats.schema rows) settings.keyCount

/-- What is printed of outcomes and quality. -/
def comparisonText (asJson : Bool) (outcomes : List ColumnOutcome) (quality : ColumnQuality) :
    String :=
  linesText <|
    if asJson then
      [ Document.Json.pretty <| Document.sorted <| .record
          [ ("outcomes", .ofList ColumnOutcome.toDocument outcomes),
            ("quality", quality.toDocument) ] ]
    else (verdictGrid outcomes).render :: quality.keyLine?.toList

theorem ofStatistics_eq (asJson : Bool) :
    Printout.ofStatistics settings asJson rows =
      { text := comparisonText asJson (inputOutcomes settings.stats.schema rows)
          (inputQuality settings rows)
        reconciled := (inputOutcomes settings.stats.schema rows).all fun outcome =>
          outcome.verdict? == some .pass } := rfl

/-- Both inputs name the same columns, and each column passes. -/
structure Reconciles : Prop where
  names : ∀ name, name ∈ foldedNames rows.legacy ↔ name ∈ foldedNames rows.cloud
  passes : ∀ (name : String) (held : Both StatRow),
    (∀ platform, Holds (rows.on platform) name (held.on platform)) →
      (schema.compareRows name held).verdict = .pass

end

section

variable {settings : Settings} {schema : StatSchema} {rows : Both (SortedMap String StatRow)}
  {name : String}

theorem mem_inputNames_iff :
    name ∈ inputNames rows ↔ ∃ platform, name ∈ foldedNames (rows.on platform) := by
  simp only [inputNames, SortedMap.mem_distinct, List.mem_append, SortedMap.mem_keys_iff, Both.map,
    isSome_get?_foldedStatistics_iff]
  constructor
  · rintro (legacy | cloud)
    · exact ⟨.legacy, legacy⟩
    · exact ⟨.cloud, cloud⟩
  · rintro ⟨platform, named⟩
    cases platform with
    | legacy => exact .inl named
    | cloud => exact .inr named

theorem inputOutcome_passes_iff :
    (inputOutcome schema rows name).verdict? = some .pass ↔
      ∃ held : Both StatRow, (∀ platform, Holds (rows.on platform) name (held.on platform)) ∧
        (schema.compareRows name held).verdict = .pass := by
  simp only [inputOutcome, StatSchema.verdict?_compare_eq_some_iff, Both.on_map,
    get?_foldedStatistics_eq_some_iff]

/-- A name of one input is a name of both. -/
theorem Reconciles.mem_foldedNames (reconciles : Reconciles schema rows)
    (listed : name ∈ inputNames rows) (platform : Platform) :
    name ∈ foldedNames (rows.on platform) := by
  obtain ⟨side, listed⟩ := mem_inputNames_iff.mp listed
  have names : name ∈ foldedNames rows.legacy ↔ name ∈ foldedNames rows.cloud :=
    reconciles.names name
  cases side <;> cases platform <;> simp only [Both.on] at listed ⊢ <;> tauto

/-- All columns of either input pass exactly if the inputs reconcile. -/
theorem forall_inputOutcome_passes_iff :
    (∀ name ∈ inputNames rows, (inputOutcome schema rows name).verdict? = some .pass) ↔
      Reconciles schema rows := by
  constructor
  · intro passes
    have held {name : String} {platform : Platform}
        (listed : name ∈ foldedNames (rows.on platform)) :=
      inputOutcome_passes_iff.mp (passes name (mem_inputNames_iff.mpr ⟨platform, listed⟩))
    have shared {name : String} (platform side : Platform)
        (listed : name ∈ foldedNames (rows.on platform)) : name ∈ foldedNames (rows.on side) := by
      obtain ⟨both, holds, -⟩ := held listed
      exact exists_holds_iff.mp ⟨_, holds side⟩
    refine ⟨fun name => ⟨shared .legacy .cloud, shared .cloud .legacy⟩, fun name both holds => ?_⟩
    obtain ⟨found, foundHolds, pass⟩ := held (exists_holds_iff.mp ⟨_, holds .legacy⟩)
    obtain ⟨legacy, cloud⟩ := both
    obtain ⟨foundLegacy, foundCloud⟩ := found
    obtain rfl : legacy = foundLegacy := (holds .legacy).unique (foundHolds .legacy)
    obtain rfl : cloud = foundCloud := (holds .cloud).unique (foundHolds .cloud)
    exact pass
  · intro reconciles name listed
    choose row holds using fun platform =>
      exists_holds_iff.mpr (reconciles.mem_foldedNames listed platform)
    have bothHold (platform : Platform) :
        Holds (rows.on platform) name ((Both.tabulate row).on platform) := by
      rw [Both.on_tabulate]
      exact holds platform
    exact inputOutcome_passes_iff.mpr
      ⟨.tabulate row, bothHold, reconciles.passes name _ bothHold⟩

/-! ## Two paths from the outcomes -/

theorem column_inputOutcome (schema : StatSchema) (rows : Both (SortedMap String StatRow))
    (name : String) : (inputOutcome schema rows name).column = name :=
  StatSchema.column_compare ..

theorem map_column_inputOutcomes :
    (inputOutcomes schema rows).map ColumnOutcome.column = inputNames rows := by
  rw [inputOutcomes, List.map_map]
  exact (List.map_congr_left fun name _ => column_inputOutcome ..).trans (List.map_id _)

theorem distinctOutcomes_inputVintages :
    ColumnQuality.DistinctOutcomes (inputVintages schema rows) := by
  intro outcomes listed
  obtain rfl : outcomes = inputOutcomes schema rows := List.mem_singleton.mp listed
  rw [map_column_inputOutcomes]
  exact SortedMap.distinct_nodup _

/-- Over the one vintage, a column is clean exactly if it passes. -/
theorem isClean_inputVintages_iff (listed : name ∈ inputNames rows) :
    (ColumnQuality.summaryOf (inputVintages schema rows) name).isClean
        (inputVintages schema rows).size = true ↔
      (inputOutcome schema rows name).verdict? = some .pass := by
  rw [ColumnQuality.isClean_summaryOf_iff distinctOutcomes_inputVintages,
    ColumnOutcome.verdict?_eq_some_iff]
  constructor
  · rintro ⟨-, passes⟩
    obtain ⟨result, member, named, pass⟩ := passes _ (List.mem_singleton.mpr rfl)
    obtain ⟨other, -, same⟩ := List.mem_map.mp member
    have otherNamed : other = name := by
      rw [← named, ← column_inputOutcome schema rows other, same]
      rfl
    exact ⟨result, otherNamed ▸ same, pass⟩
  · rintro ⟨result, same, pass⟩
    refine ⟨Nat.one_pos, fun outcomes only => ?_⟩
    obtain rfl : outcomes = inputOutcomes schema rows := List.mem_singleton.mp only
    refine ⟨result, List.mem_map.mpr ⟨name, listed, same⟩, ?_, pass⟩
    have named := column_inputOutcome schema rows name
    rwa [same] at named

/-- No column is mismatched exactly if all columns pass. -/
theorem mismatchedColumns_inputQuality_eq_nil_iff :
    (inputQuality settings rows).mismatchedColumns = [] ↔
      ∀ name ∈ inputNames rows,
        (inputOutcome settings.stats.schema rows name).verdict? = some .pass := by
  rw [inputQuality, ColumnQuality.analyze_eq, List.filter_eq_nil_iff]
  simp only [SortedMap.mem_distinct]
  refine forall₂_congr fun name listed => ?_
  rw [← isClean_inputVintages_iff listed, Bool.not_eq_true', Bool.not_eq_false]

/-- Every key is a column that passes. -/
theorem keyColumns_inputQuality_pass {key : String}
    (isKey : key ∈ (inputQuality settings rows).keyColumns) :
    key ∈ inputNames rows ∧
      (inputOutcome settings.stats.schema rows key).verdict? = some .pass := by
  rw [inputQuality, ColumnQuality.analyze_eq] at isKey
  obtain ⟨listed, isClean⟩ :=
    List.mem_filter.mp ((List.mergeSort_perm _ _).mem_iff.mp (List.mem_of_mem_take isKey))
  rw [SortedMap.mem_distinct] at listed
  exact ⟨listed, (isClean_inputVintages_iff listed).mp isClean⟩

end

/-! ## The command -/

section

variable {environment files : String → Option String} {words : List String}
  {invocation : Invocation} {paths : Both String} {settings : Settings}
  {rows : Both (SortedMap String StatRow)}
  (asked : Invocation.ofWords? environment words = some invocation)
  (command : invocation.command = .compareStatistics paths)
  (configured : invocation.settings environment files = .ok settings)
  (read : ∀ platform, readRecords files (Document.map? some StatRow.ofDocument?)
    (paths.on platform) = .ok (rows.on platform))
include asked command configured read

theorem ofWords_compareStatistics :
    Ending.ofWords environment files words =
      .finished (.ofStatistics settings invocation.asJson rows) := by
  have legacy := read .legacy
  have cloud := read .cloud
  simp only [Both.on] at legacy cloud
  simp only [Ending.ofWords, asked, Invocation.run, configured, command, Command.run, legacy, cloud, bind,
    Except.bind, pure, Except.pure]

/-- **The command succeeds exactly if the inputs have the same columns and all of them pass, and
exactly if the quality that it prints lists no column as mismatched**; every key that it prints is a
column that passes. -/
theorem compare_succeeds_iff :
    (Ending.ofWords environment files words).text =
        comparisonText invocation.asJson (inputOutcomes settings.stats.schema rows)
          (inputQuality settings rows) ∧
      ((Ending.ofWords environment files words).exitCode = 0 ↔
        Reconciles settings.stats.schema rows) ∧
      ((Ending.ofWords environment files words).exitCode = 1 ↔
        ¬Reconciles settings.stats.schema rows) ∧
      ((Ending.ofWords environment files words).exitCode = 0 ↔
        (inputQuality settings rows).mismatchedColumns = []) ∧
      ∀ key ∈ (inputQuality settings rows).keyColumns,
        ∃ outcome ∈ inputOutcomes settings.stats.schema rows,
          outcome.column = key ∧ outcome.verdict? = some .pass := by
  have passes : (inputOutcomes settings.stats.schema rows).all
        (fun outcome => outcome.verdict? == some .pass) = true ↔
      ∀ name ∈ inputNames rows,
        (inputOutcome settings.stats.schema rows name).verdict? = some .pass := by
    simp only [inputOutcomes, List.all_eq_true, List.forall_mem_map, beq_iff_eq]
  have clean := passes.trans mismatchedColumns_inputQuality_eq_nil_iff.symm
  have reconciles := passes.trans forall_inputOutcome_passes_iff
  rw [ofWords_compareStatistics asked command configured read, ofStatistics_eq]
  refine ⟨rfl, ?_, ?_, ?_, ?_⟩
  · rw [Ending.exitCode, ← reconciles]
    split <;> simp_all
  · rw [Ending.exitCode, ← reconciles]
    split <;> simp_all
  · rw [Ending.exitCode, ← clean]
    split <;> simp_all
  · intro key isKey
    obtain ⟨listed, pass⟩ := keyColumns_inputQuality_pass isKey
    exact ⟨_, List.mem_map.mpr ⟨key, listed, rfl⟩, column_inputOutcome .., pass⟩

end

/-- Without a file and without variables, the settings are the standard ones. -/
theorem settings_standard {invocation : Invocation} {environment files : String → Option String}
    (unnamed : invocation.settingsPath = none)
    (silent : ∀ platform, environment (Settings.parallelismVariable platform) = none)
    (usable : Settings.fault? {} = none) : invocation.settings environment files = .ok {} := by
  have kept (settings : Settings) (usable : settings.fault? = none) :
      settings.withEnvironment environment = .ok settings := by
    obtain ⟨stats, hash, keyCount, ⟨legacy, cloud⟩⟩ := settings
    simp only [Settings.withEnvironment, Settings.overridden, silent, Settings.checked, bind,
      Except.bind, usable]
  simp only [Invocation.settings, unnamed, kept _ usable, bind, Except.bind, pure, Except.pure,
    Except.mapError]

/-- Two spellings of one name are one column, and the statistics of the last spelling agree. -/
theorem compare_succeeds_iff_spellings :
    let words : List String := ["compare", "--legacy", "l.json", "--cloud", "c.json"]
    let legacy : String :=
      "\x7b\x22region \x22: \x7b\x22count\x22: 3\x7d, \x22Region\x22: \x7b\x22count\x22: 4\x7d\x7d"
    let cloud : String := "\x7b\x22REGION\x22: \x7b\x22count\x22: 3\x7d\x7d"
    let files (path : String) : Option String := some (if path = "l.json" then legacy else cloud)
    let paths : Both String := ⟨"l.json", "c.json"⟩
    ∃ rows : Both (SortedMap String StatRow),
      (∀ platform, readRecords files (Document.map? some StatRow.ofDocument?)
        (paths.on platform) = .ok (rows.on platform)) ∧
      (Ending.ofWords (fun _ => none) files words).exitCode = 0 ∧ Reconciles .standard rows ∧
      (inputQuality {} rows).mismatchedColumns = [] := by
  intro words legacy cloud files paths
  have readable (platform : Platform) : ∃ rows, readRecords files
      (Document.map? some StatRow.ofDocument?) (paths.on platform) = .ok rows := by
    apply exists_eq_ok_of_isOk
    cases platform <;> decide +kernel
  choose each found using readable
  have read (platform : Platform) : readRecords files (Document.map? some StatRow.ofDocument?)
      (paths.on platform) = .ok ((Both.tabulate each).on platform) := by
    rw [Both.on_tabulate, found]
  have asked : Invocation.ofWords? (fun _ => none) words =
      some ⟨none, false, .compareStatistics paths⟩ := by decide +kernel
  have configured : Invocation.settings ⟨none, false, .compareStatistics paths⟩ (fun _ => none) files =
      .ok {} := settings_standard rfl (fun _ => rfl) (by decide +kernel)
  obtain ⟨-, reconciles, -, clean, -⟩ := compare_succeeds_iff asked rfl configured read
  have succeeds : (Ending.ofWords (fun _ => none) files words).exitCode = 0 := by decide +kernel
  exact ⟨.tabulate each, read, succeeds, reconciles.mp succeeds, clean.mp succeeds⟩

end CommandLine

end Reconciliation
