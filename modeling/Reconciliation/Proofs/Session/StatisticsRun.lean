import Mathlib.Data.List.Nodup
import Reconciliation.Proofs.Session.Harvest

/-! # Statistics runs

The report of a run over columns with names of their own is the report of the columns taken one
after another (`Connections.runStats_value`). So it depends on what the databases answer, and
neither on the number of statements that run at once nor on the order in which they finish; what is
said of a column depends on the answers to its own two statements (`Connections.runStats_reports`).
-/

namespace Reconciliation

/-- The statistics of the first record of an answer, if there is one and it can be read. -/
def firstRow? (answer : Answer) : Option StatRow :=
  match answer with
  | .error _ => none
  | .ok result => result.records.head?.bind fun record => (StatRow.ofRecord record).toOption

theorem toOption_readStatistics (answer : Answer) :
    (readStatistics answer).toOption = firstRow? answer := by
  cases answer with
  | error failure => rfl
  | ok result =>
      obtain ⟨columns, rows⟩ := result
      cases rows with
      | nil => rfl
      | cons row rows =>
          change ((StatRow.ofRecord (QueryResult.record columns row)).mapError
            Failure.malformedResult).toOption =
              (StatRow.ofRecord (QueryResult.record columns row)).toOption
          cases StatRow.ofRecord (QueryResult.record columns row) <;> rfl

theorem readStatistics_eq_ok_iff {answer : Answer} {row : StatRow} :
    readStatistics answer = .ok row ↔ firstRow? answer = some row := by
  rw [← toOption_readStatistics]
  cases readStatistics answer with
  | error failure => exact ⟨nofun, nofun⟩
  | ok held =>
      constructor
      · rintro ⟨⟩
        rfl
      · rintro ⟨⟩
        rfl

theorem exists_readStatistics_eq_error_iff {answer : Answer} :
    (∃ failure, readStatistics answer = .error failure) ↔ firstRow? answer = none := by
  rw [← toOption_readStatistics]
  cases readStatistics answer with
  | error failure => exact ⟨fun _ => rfl, fun _ => ⟨failure, rfl⟩⟩
  | ok held =>
      constructor
      · rintro ⟨failure, ⟨⟩⟩
      · rintro ⟨⟩

/-- Over pairs with names of their own, taking a finding away hides it from no later pair. -/
theorem pairOutcomes_eq_map {schema : StatSchema} {found : Both (SortedMap String StatRow)}
    {pairs : List ColumnPair} (distinct : (pairs.map ColumnPair.name).Nodup) :
    pairOutcomes schema found pairs =
      pairs.map fun pair => schema.compare pair.name (found.map (·.get? pair.name)) := by
  induction pairs generalizing found with
  | nil => rfl
  | cons pair pairs ih =>
      obtain ⟨fresh, distinct⟩ := List.nodup_cons.mp distinct
      rw [pairOutcomes, List.map_cons, ih distinct]
      congr 1
      apply List.map_congr_left
      intro later member
      have other : later.name ≠ pair.name := fun same =>
        fresh (same ▸ List.mem_map_of_mem member)
      simp only [Both.map, SortedMap.get?_erase, if_neg other]

namespace ColumnOutcome

/-- The platforms without statistics of a column. -/
def missingOn : ColumnOutcome → List Platform
  | .compared _ => []
  | .notComparable _ platforms => platforms

end ColumnOutcome

namespace StatSchema

variable (schema : StatSchema) (column : String) (rows : Both (Option StatRow))

@[simp] theorem column_compare : (schema.compare column rows).column = column := by
  unfold compare
  split <;> rfl

@[simp] theorem missingOn_compare :
    (schema.compare column rows).missingOn =
      Platform.all.filter fun platform => (rows.on platform).isNone := by
  obtain ⟨legacy, cloud⟩ := rows
  cases legacy <;> cases cloud <;> rfl

/-- Without statistics from both platforms there is no verdict. -/
theorem verdict?_compare_eq_none {schema : StatSchema} {column : String}
    {rows : Both (Option StatRow)} {platform : Platform} (missing : rows.on platform = none) :
    (schema.compare column rows).verdict? = none := by
  obtain ⟨legacy, cloud⟩ := rows
  cases platform with
  | legacy =>
      obtain rfl : legacy = none := missing
      cases cloud <;> rfl
  | cloud =>
      obtain rfl : cloud = none := missing
      cases legacy <;> rfl

end StatSchema

namespace StatsReport

/-- The failures of a report on one platform. -/
def failuresOn (report : StatsReport) (platform : Platform) : List UnitFailure :=
  report.failures.filter (·.platform = platform)

/-- A report accounts for some pairs of columns, given the answers to their statements. -/
structure AccountsFor (report : StatsReport) (schema : StatSchema) (pairs : List ColumnPair)
    (answers : Platform → ColumnPair → Answer) : Prop where
  /-- The pairs are compared in order, each by the rows in the answers to its own statements. -/
  outcomes_eq : report.outcomes = pairs.map fun pair =>
    schema.compare pair.name (.tabulate fun platform => firstRow? (answers platform pair))
  /-- A platform is missing where it has a failure of the column. -/
  missingOn_eq : ∀ outcome ∈ report.outcomes, outcome.missingOn =
    Platform.all.filter fun platform =>
      (report.failuresOn platform).any fun entry => entry.unit = outcome.column
  /-- A column with a failure gets no verdict. -/
  verdict?_eq_none : ∀ outcome ∈ report.outcomes, ∀ entry ∈ report.failures,
    entry.unit = outcome.column → outcome.verdict? = none
  /-- The units that fail are those whose answer has no row to read. -/
  mem_failures_iff : ∀ entry, entry ∈ report.failures ↔
    ∃ pair ∈ pairs, ∃ failure, readStatistics (answers entry.platform pair) = .error failure ∧
      entry = ⟨entry.platform, pair.name, failure.message⟩
  legacy_first : report.failures = report.failuresOn .legacy ++ report.failuresOn .cloud
  /-- Each unit of a platform fails once, and its failures stand in order of their units. -/
  failures_pairwise : ∀ platform,
    (report.failuresOn platform).Pairwise fun a b => a.unit < b.unit

/-- The result of each pair on one platform, in order. -/
def results (pairs : List ColumnPair) (answers : Platform → ColumnPair → Answer)
    (platform : Platform) : List (String × Except Failure StatRow) :=
  pairs.map fun pair => (pair.name, readStatistics (answers platform pair))

/-- The report of pairs that are taken one after another. -/
def inTurn (schema : StatSchema) (pairs : List ColumnPair) (vintage : String)
    (answers : Platform → ColumnPair → Answer) : StatsReport :=
  .ofHarvests schema pairs vintage
    (.tabulate fun platform => .ofResults platform (results pairs answers platform))

variable {schema : StatSchema} {pairs : List ColumnPair} {vintage : String}
  {answers : Platform → ColumnPair → Answer} {platform : Platform}

theorem map_fst_results : (results pairs answers platform).map Prod.fst =
    pairs.map ColumnPair.name := by
  unfold results
  rw [List.map_map]
  rfl

theorem mem_failures_results_iff {entry : UnitFailure} :
    entry ∈ (Harvest.ofResults platform (results pairs answers platform)).failures ↔
      ∃ pair ∈ pairs, ∃ failure, readStatistics (answers platform pair) = .error failure ∧
        entry = ⟨platform, pair.name, failure.message⟩ := by
  rw [Harvest.mem_failures_iff]
  unfold results
  constructor
  · rintro ⟨failure, member, same⟩
    obtain ⟨pair, listed, result⟩ := List.mem_map.mp member
    obtain ⟨name, failed⟩ := Prod.mk.inj result
    exact ⟨pair, listed, failure, failed, by rw [name]; exact same⟩
  · rintro ⟨pair, listed, failure, failed, rfl⟩
    exact ⟨failure, List.mem_map.mpr ⟨pair, listed, by rw [failed]⟩, rfl⟩

theorem failuresOn_inTurn : (inTurn schema pairs vintage answers).failuresOn platform =
    (Harvest.ofResults platform (results pairs answers platform)).failures := by
  have own (side : Platform) :
      ∀ entry ∈ (Harvest.ofResults side (results pairs answers side)).failures,
        entry.platform = side := by
    intro entry member
    obtain ⟨pair, _, failure, _, rfl⟩ := mem_failures_results_iff.mp member
    rfl
  have kept (side : Platform) :
      ((Harvest.ofResults side (results pairs answers side)).failures.filter
        (·.platform = side)) =
      (Harvest.ofResults side (results pairs answers side)).failures :=
    List.filter_eq_self.mpr fun entry member => decide_eq_true (own side entry member)
  have dropped {side other : Platform} (different : side ≠ other) :
      ((Harvest.ofResults side (results pairs answers side)).failures.filter
        (·.platform = other)) = [] := by
    apply List.filter_eq_nil_iff.mpr
    intro entry member chosen
    exact different ((own side entry member).symm.trans (of_decide_eq_true chosen))
  unfold failuresOn inTurn ofHarvests Harvest.allFailures Both.tabulate
  dsimp only
  rw [List.filter_append]
  cases platform with
  | legacy => rw [kept .legacy, dropped Platform.noConfusion, List.append_nil]
  | cloud => rw [dropped Platform.noConfusion, kept .cloud, List.nil_append]

theorem mem_failures_iff_mem_failuresOn {report : StatsReport} {entry : UnitFailure} :
    entry ∈ report.failures ↔ entry ∈ report.failuresOn entry.platform := by
  unfold failuresOn
  rw [List.mem_filter, decide_eq_true rfl, and_iff_left rfl]

variable (distinct : (pairs.map ColumnPair.name).Nodup)
include distinct

/-- A pair is found by its own answer. -/
theorem get?_found_results {pair : ColumnPair} (listed : pair ∈ pairs) :
    (Harvest.ofResults platform (results pairs answers platform)).found.get? pair.name =
      firstRow? (answers platform pair) := by
  apply Option.ext
  intro row
  rw [Harvest.get?_found_eq_some_iff (map_fst_results ▸ distinct), ← readStatistics_eq_ok_iff]
  unfold results
  rw [List.mem_map]
  constructor
  · rintro ⟨other, otherListed, result⟩
    obtain ⟨name, found⟩ := Prod.mk.inj result
    rwa [List.inj_on_of_nodup_map distinct otherListed listed name] at found
  · intro found
    exact ⟨pair, listed, by rw [found]⟩

/-- A pair fails where its answer has no row to read. -/
theorem any_failuresOn_inTurn {pair : ColumnPair} (listed : pair ∈ pairs) :
    ((inTurn schema pairs vintage answers).failuresOn platform).any
        (fun entry => entry.unit = pair.name) =
      (firstRow? (answers platform pair)).isNone := by
  rw [Bool.eq_iff_iff, List.any_eq_true, Option.isNone_iff_eq_none,
    ← exists_readStatistics_eq_error_iff, failuresOn_inTurn]
  constructor
  · rintro ⟨entry, member, named⟩
    obtain ⟨other, otherListed, failure, failed, rfl⟩ := mem_failures_results_iff.mp member
    have same := List.inj_on_of_nodup_map distinct otherListed listed (of_decide_eq_true named)
    exact ⟨failure, same ▸ failed⟩
  · rintro ⟨failure, failed⟩
    exact ⟨_, mem_failures_results_iff.mpr ⟨pair, listed, failure, failed, rfl⟩,
      decide_eq_true rfl⟩

theorem outcomes_inTurn : (inTurn schema pairs vintage answers).outcomes = pairs.map fun pair =>
    schema.compare pair.name (.tabulate fun platform => firstRow? (answers platform pair)) := by
  change pairOutcomes schema _ pairs = _
  rw [pairOutcomes_eq_map distinct]
  apply List.map_congr_left
  intro pair listed
  congr 1
  exact congr (congrArg Both.mk (get?_found_results distinct listed))
    (get?_found_results distinct listed)

theorem accountsFor_inTurn :
    (inTurn schema pairs vintage answers).AccountsFor schema pairs answers where
  outcomes_eq := outcomes_inTurn distinct
  missingOn_eq := by
    intro outcome member
    rw [outcomes_inTurn distinct] at member
    obtain ⟨pair, listed, rfl⟩ := List.mem_map.mp member
    rw [StatSchema.missingOn_compare, StatSchema.column_compare]
    apply List.filter_congr
    intro platform _
    rw [any_failuresOn_inTurn distinct listed, Both.on_tabulate]
  verdict?_eq_none := by
    intro outcome member entry failed named
    rw [outcomes_inTurn distinct] at member
    obtain ⟨pair, listed, rfl⟩ := List.mem_map.mp member
    rw [StatSchema.column_compare] at named
    have recorded : ((inTurn schema pairs vintage answers).failuresOn entry.platform).any
        fun entry => entry.unit = pair.name :=
      List.any_eq_true.mpr ⟨entry, mem_failures_iff_mem_failuresOn.mp failed,
        decide_eq_true named⟩
    rw [any_failuresOn_inTurn distinct listed, Option.isNone_iff_eq_none] at recorded
    refine StatSchema.verdict?_compare_eq_none (?_ : (Both.tabulate _).on entry.platform = none)
    rw [Both.on_tabulate]
    exact recorded
  mem_failures_iff := by
    intro entry
    rw [mem_failures_iff_mem_failuresOn, failuresOn_inTurn]
    exact mem_failures_results_iff
  legacy_first := by
    rw [failuresOn_inTurn, failuresOn_inTurn]
    rfl
  failures_pairwise := by
    intro platform
    rw [failuresOn_inTurn]
    exact Harvest.failures_pairwise (map_fst_results ▸ distinct)

end StatsReport

section

variable {tables : Both TableRef} {pairs : List ColumnPair} {vintage : ValidatedVintage}
  {places : Nat} {statement : Platform → ColumnPair → String}

/-- Pairs whose statements can be written are units in order. -/
theorem statsUnits_eq
    (compiled : ∀ pair ∈ pairs, ∀ platform,
      statisticsQuery platform (tables.on platform) (pair.on platform)
        (vintage.queryFilters.on platform) places = .ok (statement platform pair)) :
    statsUnits tables pairs vintage places = .ok (.tabulate fun platform =>
      pairs.map fun pair => ⟨pair.name, statement platform pair⟩) := by
  induction pairs with
  | nil => rfl
  | cons pair pairs ih =>
      have here := compiled pair List.mem_cons_self
      have rest := ih fun later member => compiled later (List.mem_cons_of_mem _ member)
      rw [statsUnits]
      simp only [here, rest]
      rfl

namespace Connections

variable (distinct : (pairs.map ColumnPair.name).Nodup)
  (compiled : ∀ pair ∈ pairs, ∀ platform,
    statisticsQuery platform (tables.on platform) (pair.on platform)
      (vintage.queryFilters.on platform) places = .ok (statement platform pair))
include distinct compiled

/-- The report of a run is that of its pairs one after another. -/
theorem runStats_value (connections : Connections) (schema : StatSchema) :
    (connections.runStats tables pairs vintage places schema).value =
      .ok (.inTurn schema pairs vintage.window.label fun platform pair =>
        (connections.databases.on platform).answer (statement platform pair)) := by
  unfold runStats
  rw [statsUnits_eq compiled]
  dsimp only
  rw [Inquiry.value_bind, Inquiry.value_pure, harvest_value]
  · unfold StatsReport.inTurn StatsReport.results
    simp only [Both.tabulate, Both.on, List.map_map]
    rfl
  · intro platform
    rw [Both.on_tabulate, List.map_map]
    exact distinct

/-- **A run over columns with names of their own has one report**, for every number of statements
that run at once and every order in which they finish. The report accounts for all columns, and what
it says of a column stays while the answers to the statements of this column do. -/
theorem runStats_reports (databases : Both Database) (schema : StatSchema) :
    ∃ report,
      (∀ parallelism turn,
        (runStats ⟨databases, parallelism, turn⟩ tables pairs vintage places schema).value =
          .ok report) ∧
      report.vintage = vintage.window.label ∧
      report.AccountsFor schema pairs
        (fun platform pair => (databases.on platform).answer (statement platform pair)) ∧
      ∀ (others : Connections) (other : StatsReport),
        (others.runStats tables pairs vintage places schema).value = .ok other →
        ∀ (place : Nat) (inside : place < pairs.length),
          (∀ platform,
            (others.databases.on platform).answer (statement platform pairs[place]) =
              (databases.on platform).answer (statement platform pairs[place])) →
          other.outcomes[place]? = report.outcomes[place]? := by
  refine ⟨_, fun parallelism turn => runStats_value distinct compiled _ schema, rfl,
    StatsReport.accountsFor_inTurn distinct, ?_⟩
  intro others other ran place inside same
  rw [runStats_value distinct compiled others schema] at ran
  obtain rfl := Except.ok.inj ran
  rw [StatsReport.outcomes_inTurn distinct, StatsReport.outcomes_inTurn distinct,
    List.getElem?_map, List.getElem?_map, List.getElem?_eq_getElem inside]
  simp only [Option.map_some, same]

omit distinct compiled in
/-- Every statement fails on the cloud platform, which is then missing for both columns. -/
theorem runStats_reports_failing_cloud :
    let statistics : QueryResult :=
      { columns := "col_type" :: StatField.all.map StatField.projectedName
        rows := [[some (.text "NUMBER"), some (.integer 3)]] }
    let databases : Both Database :=
      ⟨⟨.legacy, fun _ => .ok statistics⟩,
        ⟨.cloud, fun _ => .error (.execution .cloud "query" "timeout")⟩⟩
    let tables : Both TableRef := ⟨⟨"core", "accounts"⟩, ⟨"core_db", "accounts"⟩⟩
    let pairs : List ColumnPair :=
      [⟨.declare .legacy "region" "VARCHAR2(2)", .declare .cloud "region" "varchar"⟩,
        ⟨.declare .legacy "balance" "NUMBER", .declare .cloud "balance" "double"⟩]
    ∃ report,
      (∀ parallelism turn,
        (runStats ⟨databases, parallelism, turn⟩ tables pairs .snapshot 20 .standard).value =
          .ok report) ∧
      (∀ outcome ∈ report.outcomes, outcome.missingOn = [.cloud]) ∧
      ∀ pair ∈ pairs, ∃ entry ∈ report.failures,
        entry.platform = .cloud ∧ entry.unit = pair.name := by
  intro statistics databases tables pairs
  have written : ∀ pair ∈ pairs, ∀ platform, ∃ statement,
      statisticsQuery platform (tables.on platform) (pair.on platform)
        (ValidatedVintage.snapshot.queryFilters.on platform) 20 = .ok statement := by
    intro pair listed platform
    have possible : (statisticsQuery platform (tables.on platform) (pair.on platform)
        (ValidatedVintage.snapshot.queryFilters.on platform) 20).isOk := by
      revert pair
      cases platform <;> decide +kernel
    match statisticsQuery platform (tables.on platform) (pair.on platform)
        (ValidatedVintage.snapshot.queryFilters.on platform) 20, possible with
    | .ok statement, _ => exact ⟨statement, rfl⟩
  choose! statement compiled using written
  obtain ⟨report, ran, -, accounts, -⟩ :=
    runStats_reports (by decide) (fun pair listed platform => compiled pair listed platform)
      databases .standard
  have readable : (firstRow? (.ok statistics)).isNone = false := by decide +kernel
  refine ⟨report, ran, ?_, ?_⟩
  · intro outcome member
    rw [accounts.outcomes_eq] at member
    obtain ⟨pair, listed, rfl⟩ := List.mem_map.mp member
    rw [StatSchema.missingOn_compare]
    simp only [Platform.all, Both.on_tabulate, List.filter_cons]
    rw [show (firstRow? ((databases.on .legacy).answer _)).isNone = false from readable]
    rfl
  · intro pair listed
    exact ⟨_, (accounts.mem_failures_iff ⟨.cloud, pair.name, _⟩).mpr ⟨pair, listed, _, rfl, rfl⟩,
      rfl, rfl⟩

end Connections

end

end Reconciliation
