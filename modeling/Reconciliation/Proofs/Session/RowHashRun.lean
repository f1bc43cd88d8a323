import Mathlib.Data.List.Nodup
import Reconciliation.Proofs.RowHash.Row
import Reconciliation.Proofs.Session.Harvest

/-! # Row hash runs

The report of a run that hashes rows depends on nothing but the answers to its two statements
(`Connections.runHashes_value`). A platform has all the rows of its answer or none: one record
without a row leaves the whole platform missing. So either all rows of both platforms are compared,
or the run says which platforms are missing and why, and compares nothing
(`Connections.runHashes_allOrNothing`).
-/

namespace Reconciliation

/-! ## The rows of an answer -/

section

variable {keyNames : List String} {answer : Answer} {rows : List HashRow}

/-- The query succeeded, and the rows are those of all its records, in order. -/
def HoldsRows (keyNames : List String) (answer : Answer) (rows : List HashRow) : Prop :=
  ∃ result, answer = .ok result ∧ List.Forall₂ (HashRow.Of keyNames) result.records rows

/-- The query failed, or some record has no row. -/
def LacksRows (keyNames : List String) (answer : Answer) : Prop :=
  (∃ failure, answer = .error failure) ∨
    ∃ result, answer = .ok result ∧ ∃ record ∈ result.records, ¬HashRow.HasRow keyNames record

theorem readHashRows_eq_ok_iff :
    readHashRows keyNames answer = .ok rows ↔ HoldsRows keyNames answer rows := by
  cases answer with
  | error failure => simp [readHashRows, HoldsRows, bind, Except.bind]
  | ok result =>
      simp only [readHashRows, HoldsRows, bind, Except.bind, mapError_eq_ok_iff,
        HashRow.ofRecords_eq_ok_iff, Except.ok.injEq, exists_eq_left']

theorem exists_readHashRows_eq_error_iff :
    (∃ failure, readHashRows keyNames answer = .error failure) ↔ LacksRows keyNames answer := by
  cases answer with
  | error failure => simp [readHashRows, LacksRows, bind, Except.bind]
  | ok result =>
      simp only [readHashRows, LacksRows, bind, Except.bind, exists_mapError_eq_error_iff,
        HashRow.exists_ofRecords_eq_error_iff, Except.ok.injEq, exists_eq_left', reduceCtorEq,
        exists_false, false_or]

theorem toOption_readHashRows_eq_some_iff :
    (readHashRows keyNames answer).toOption = some rows ↔ HoldsRows keyNames answer rows := by
  rw [← readHashRows_eq_ok_iff]
  cases readHashRows keyNames answer <;> simp [Except.toOption]

theorem toOption_readHashRows_eq_none_iff :
    (readHashRows keyNames answer).toOption = none ↔ LacksRows keyNames answer := by
  rw [← exists_readHashRows_eq_error_iff]
  cases readHashRows keyNames answer <;> simp [Except.toOption]

instance : Decidable (LacksRows keyNames answer) :=
  decidable_of_iff _ toOption_readHashRows_eq_none_iff

/-- An answer without records holds no rows, and lacks none. -/
theorem holdsRows_empty {result : QueryResult} (empty : result.rows = []) :
    ¬LacksRows keyNames (.ok result) ∧
      ∀ rows, HoldsRows keyNames (.ok result) rows ↔ rows = [] := by
  have records : result.records = [] := by rw [QueryResult.records, empty, List.map_nil]
  constructor
  · simp [LacksRows, records]
  · simp [HoldsRows, records]

end

/-! ## One unit of work -/

namespace Harvest

variable {α : Type} (platform : Platform) (name : String) (result : Except Failure α)

theorem get?_found_single :
    (ofResults platform [(name, result)]).found.get? name = result.toOption := by
  have distinct : ([(name, result)].map Prod.fst).Nodup := List.nodup_singleton name
  apply Option.ext
  intro value
  rw [get?_found_eq_some_iff distinct, List.mem_singleton]
  cases result <;> simp [Except.toOption, eq_comm]

theorem failures_single : (ofResults platform [(name, result)]).failures =
    failuresOf platform [(name, result)] := by
  cases result <;> simp [ofResults, failuresOf]

end Harvest

namespace HashOutcome

variable {rows : Both (Option (List HashRow))} {sampleLimit : Nat}

theorem reconcile_of_isSome (some : ∀ platform, (rows.on platform).isSome) :
    ∃ found : Both (List HashRow), (∀ platform, rows.on platform = .some (found.on platform)) ∧
      reconcile rows sampleLimit = .compared (.reconcile found sampleLimit) := by
  obtain ⟨legacy, cloud⟩ := rows
  obtain ⟨left, rfl⟩ := Option.isSome_iff_exists.mp (some .legacy)
  obtain ⟨right, rfl⟩ := Option.isSome_iff_exists.mp (some .cloud)
  refine ⟨⟨left, right⟩, fun platform => ?_, rfl⟩
  cases platform <;> rfl

theorem reconcile_of_isNone {platform : Platform} (none : rows.on platform = none) :
    reconcile rows sampleLimit =
      .notComparable (Platform.all.filter fun platform => (rows.on platform).isNone) := by
  obtain ⟨legacy, cloud⟩ := rows
  cases platform with
  | legacy =>
      obtain rfl : legacy = .none := none
      cases cloud <;> rfl
  | cloud =>
      obtain rfl : cloud = .none := none
      cases legacy <;> rfl

end HashOutcome

namespace HashReport

/-- A report compares all the rows that two answers hold, or none. -/
structure AllOrNothing (report : HashReport) (keyNames : List String) (sampleLimit : Nat)
    (answers : Platform → Answer) : Prop where
  /-- If no answer lacks rows, all rows of both are compared. -/
  compared : (∀ platform, ¬LacksRows keyNames (answers platform)) →
    ∃ rows : Both (List HashRow),
      (∀ platform, HoldsRows keyNames (answers platform) (rows.on platform)) ∧
        report.outcome = .compared (.reconcile rows sampleLimit)
  /-- Otherwise the platforms whose answers lack rows are missing, and nothing matches. -/
  notComparable : (∃ platform, LacksRows keyNames (answers platform)) →
    report.outcome = .notComparable
        (Platform.all.filter fun platform => LacksRows keyNames (answers platform)) ∧
      report.outcome.isMatch? = none
  /-- Each platform whose answer lacks rows has one failure, the legacy one first. -/
  failures_platforms : report.failures.map UnitFailure.platform =
    Platform.all.filter fun platform => LacksRows keyNames (answers platform)
  /-- A failure tells why the answer of its platform lacks rows. -/
  failures_reason : ∀ entry ∈ report.failures, ∃ failure,
    readHashRows keyNames (answers entry.platform) = .error failure ∧
      entry = ⟨entry.platform, hashUnitName report.vintage, failure.message⟩
  /-- An answer without records is compared as an empty list of rows. -/
  empty : ∀ platform result, answers platform = .ok result → result.rows = [] →
    ¬LacksRows keyNames (answers platform) ∧
      ∀ rows, HoldsRows keyNames (answers platform) rows ↔ rows = []

variable (keyNames : List String) (sampleLimit : Nat) (vintage : String)
  (answers : Platform → Answer)

/-- The report of two answers. -/
def ofAnswers : HashReport :=
  .ofHarvests sampleLimit vintage (.tabulate fun platform =>
    .ofResults platform [(hashUnitName vintage, readHashRows keyNames (answers platform))])

theorem outcome_ofAnswers : (ofAnswers keyNames sampleLimit vintage answers).outcome =
    .reconcile (.tabulate fun platform => (readHashRows keyNames (answers platform)).toOption)
      sampleLimit := by
  simp only [ofAnswers, ofHarvests, Harvest.foundOnBoth, Both.tabulate, Both.map,
    Harvest.get?_found_single]

theorem failures_ofAnswers : (ofAnswers keyNames sampleLimit vintage answers).failures =
    Platform.all.flatMap fun platform => Harvest.failuresOf platform
      [(hashUnitName vintage, readHashRows keyNames (answers platform))] := by
  simp [ofAnswers, ofHarvests, Harvest.allFailures, Both.tabulate, Harvest.failures_single,
    Platform.all]

/-- The failures of a platform are there exactly if its answer lacks rows. -/
theorem map_platform_failuresOf (platform : Platform) :
    (Harvest.failuresOf platform
        [(hashUnitName vintage, readHashRows keyNames (answers platform))]).map
      UnitFailure.platform =
    [platform].filter fun platform => LacksRows keyNames (answers platform) := by
  rw [List.filter_singleton, Bool.cond_decide]
  simp only [← toOption_readHashRows_eq_none_iff]
  cases readHashRows keyNames (answers platform) <;> rfl

theorem allOrNothing_ofAnswers : (ofAnswers keyNames sampleLimit vintage answers).AllOrNothing
    keyNames sampleLimit answers where
  compared := by
    intro complete
    rw [outcome_ofAnswers]
    obtain ⟨rows, found, compared⟩ := HashOutcome.reconcile_of_isSome fun platform => by
      rw [Both.on_tabulate, Option.isSome_iff_ne_none, ne_eq, toOption_readHashRows_eq_none_iff]
      exact complete platform
    refine ⟨rows, fun platform => ?_, compared⟩
    rw [← toOption_readHashRows_eq_some_iff, ← found platform, Both.on_tabulate]
  notComparable := by
    rintro ⟨platform, lacking⟩
    have none : (Both.tabulate fun platform =>
        (readHashRows keyNames (answers platform)).toOption).on platform = none := by
      rw [Both.on_tabulate, toOption_readHashRows_eq_none_iff]
      exact lacking
    rw [outcome_ofAnswers, HashOutcome.reconcile_of_isNone none]
    refine ⟨congrArg HashOutcome.notComparable (List.filter_congr fun other _ => ?_), rfl⟩
    rw [Both.on_tabulate, Bool.eq_iff_iff, Option.isNone_iff_eq_none, decide_eq_true_iff,
      toOption_readHashRows_eq_none_iff]
  failures_platforms := by
    rw [failures_ofAnswers, List.map_flatMap]
    simp only [map_platform_failuresOf]
    rw [← List.filter_flatMap, List.flatMap_singleton']
  failures_reason := by
    intro entry member
    rw [failures_ofAnswers, List.mem_flatMap] at member
    obtain ⟨platform, -, failed⟩ := member
    obtain ⟨failure, unit, same⟩ := Harvest.mem_failuresOf_iff.mp failed
    obtain ⟨named, result⟩ := Prod.mk.inj (List.mem_singleton.mp unit)
    rw [named] at same
    subst same
    exact ⟨failure, result.symm, rfl⟩
  empty := by
    intro platform result answered empty
    rw [answered]
    exact holdsRows_empty empty

end HashReport

/-! ## The run -/

namespace Connections

variable {tables : Both TableRef} {columns keys : List ColumnPair} {vintage : ValidatedVintage}
  {options : HashOptions} {statements : Both String}
  (compiled : rowHashQueries tables columns keys vintage.queryFilters options = .ok statements)
include compiled

/-- The report of a run is that of the answers to its statements. -/
theorem runHashes_value (connections : Connections) (sampleLimit : Nat) :
    (connections.runHashes tables columns keys vintage options sampleLimit).value =
      .ok (.ofAnswers (keys.map ColumnPair.keyName) sampleLimit vintage.window.label fun platform =>
        (connections.databases.on platform).answer (statements.on platform)) := by
  unfold runHashes
  rw [compiled]
  dsimp only
  rw [Inquiry.value_bind, Inquiry.value_pure, harvest_value]
  · rfl
  · intro platform
    rw [Both.on_map]
    exact List.nodup_singleton _

/-- **A run that hashes rows compares all rows of both platforms or none**, for every number of
statements that run at once and every order in which they finish. -/
theorem runHashes_allOrNothing (databases : Both Database) (sampleLimit : Nat) :
    ∃ report,
      (∀ parallelism turn,
        (runHashes ⟨databases, parallelism, turn⟩ tables columns keys vintage options
          sampleLimit).value = .ok report) ∧
      report.vintage = vintage.window.label ∧
      report.AllOrNothing (keys.map ColumnPair.keyName) sampleLimit
        (fun platform => (databases.on platform).answer (statements.on platform)) :=
  ⟨_, fun parallelism turn => runHashes_value compiled ⟨databases, parallelism, turn⟩ sampleLimit,
    rfl, HashReport.allOrNothing_ofAnswers ..⟩

omit compiled in
/-- A record of the cloud platform has no digest, so its other record is not compared either. -/
theorem runHashes_allOrNothing_missing_digest :
    let legacy : QueryResult := ⟨["ACCT_ID", "HASH_VALUE"],
      [[some (.text "1"), some (.text "AA")], [none, some (.text "BB")]]⟩
    let cloud : QueryResult := ⟨["acct_id", "hash_value"],
      [[some (.integer 1), some (.text "aa")], [some (.integer 2), none]]⟩
    let databases : Both Database :=
      ⟨⟨.legacy, fun _ => .ok legacy⟩, ⟨.cloud, fun _ => .ok cloud⟩⟩
    let tables : Both TableRef := ⟨⟨"core", "accounts"⟩, ⟨"core_db", "accounts"⟩⟩
    let columns : List ColumnPair :=
      [⟨.declare .legacy "balance" "NUMBER", .declare .cloud "balance" "double"⟩]
    let keys : List ColumnPair :=
      [⟨.declare .legacy "acct_id" "NUMBER", .declare .cloud "acct_id" "bigint"⟩]
    ∃ report,
      (∀ parallelism turn,
        (runHashes ⟨databases, parallelism, turn⟩ tables columns keys .snapshot {} 10).value =
          .ok report) ∧
      report.outcome = .notComparable [.cloud] ∧
      report.failures.map UnitFailure.platform = [.cloud] := by
  intro legacy cloud databases tables columns keys
  obtain ⟨statements, compiled⟩ : ∃ statements, rowHashQueries tables columns keys
      ValidatedVintage.snapshot.queryFilters {} = .ok statements := ⟨_, rfl⟩
  obtain ⟨report, ran, -, whole⟩ := runHashes_allOrNothing compiled databases 10
  have legacyWhole : ¬LacksRows (keys.map ColumnPair.keyName) (.ok legacy) := by
    decide +kernel
  have cloudLacks : LacksRows (keys.map ColumnPair.keyName) (.ok cloud) := by
    decide +kernel
  have missing : (Platform.all.filter fun platform => LacksRows (keys.map ColumnPair.keyName)
      ((databases.on platform).answer (statements.on platform))) = [.cloud] := by
    rw [Platform.all, List.filter_cons_of_neg, List.filter_cons_of_pos, List.filter_nil]
    · exact decide_eq_true cloudLacks
    · exact decide_eq_true_iff.not.mpr legacyWhole
  refine ⟨report, ran, ?_, ?_⟩
  · rw [(whole.notComparable ⟨.cloud, cloudLacks⟩).1, missing]
  · rw [whole.failures_platforms, missing]

end Connections

end Reconciliation
