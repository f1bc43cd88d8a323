import Reconciliation.Handoff.Report
import Reconciliation.Proofs.Handoff.RowHash
import Reconciliation.Proofs.Handoff.Statistic
import Reconciliation.Proofs.Handoff.Vintage

/-! # The hand-off loses nothing

One step of a check hands its results to the next as JSON text. Whatever is handed over is what
arrives: numbers keep the kind they have, and dates are kept over the whole calendar.
-/

namespace Reconciliation

open Document

theorem UnitFailure.restores (failure : UnitFailure) : Restores toDocument ofDocument? failure := by
  have platform := failure.platform.restores
  refine restores_record rfl rfl rfl (by decide) ?_ ?_
  · simp [membersArePlain, isPlain, platform.plain]
  · simp [text?, platform.back]

/-- The outcomes of a report are plain. -/
def StatsReport.IsPlain (report : StatsReport) : Prop :=
  ∀ outcome ∈ report.outcomes, outcome.IsPlain

theorem StatsReport.restores {report : StatsReport} (plain : report.IsPlain) :
    Restores toDocument ofDocument? report := by
  have outcomes : Restores _ _ report.outcomes :=
    restores_list fun outcome held => ColumnOutcome.restores (plain outcome held)
  have failures : Restores _ _ report.failures := restores_list fun failure _ => failure.restores
  refine restores_record rfl rfl rfl (by decide) ?_ ?_
  · simp [membersArePlain, isPlain, outcomes.plain, failures.plain]
  · simp [text?, outcomes.back, failures.back]

theorem HashReport.restores {report : HashReport} (plain : report.outcome.IsPlain) :
    Restores toDocument ofDocument? report := by
  have outcome := HashOutcome.restores plain
  have failures : Restores _ _ report.failures := restores_list fun failure _ => failure.restores
  refine restores_record rfl rfl rfl (by decide) ?_ ?_
  · simp [membersArePlain, isPlain, outcome.plain, failures.plain]
  · simp [text?, outcome.back, failures.back]

/-- **What is handed over is what arrives.** For every record of the hand-off whose numbers are
finite and whose counts have 64 bits, the JSON text written of it, on one line or on many, reads as
that record again. The same holds of each scalar, which so keeps its kind, and of each date. -/
theorem handoff_survives :
    (∀ scalar : Scalar, scalar.IsPlain → Survives ofScalar scalar? scalar) ∧
    (∀ date : Date, Survives ofDate date? date) ∧
    (∀ row : StatRow, row.IsPlain → Survives StatRow.toDocument StatRow.ofDocument? row) ∧
    (∀ outcome : ColumnOutcome, outcome.IsPlain →
      Survives ColumnOutcome.toDocument ColumnOutcome.ofDocument? outcome) ∧
    (∀ quality : ColumnQuality, quality.IsPlain →
      Survives ColumnQuality.toDocument ColumnQuality.ofDocument? quality) ∧
    (∀ outcome : TableOutcome, outcome.IsPlain →
      Survives TableOutcome.toDocument TableOutcome.ofDocument? outcome) ∧
    (∀ outcome : HashOutcome, outcome.IsPlain →
      Survives HashOutcome.toDocument HashOutcome.ofDocument? outcome) ∧
    (∀ report : StatsReport, report.IsPlain →
      Survives StatsReport.toDocument StatsReport.ofDocument? report) ∧
    (∀ report : HashReport, report.outcome.IsPlain →
      Survives HashReport.toDocument HashReport.ofDocument? report) :=
  ⟨fun _ plain => (restores_scalar plain).survives, fun date => (restores_date date).survives,
    fun _ plain => (StatRow.restores plain).survives,
    fun _ plain => (ColumnOutcome.restores plain).survives,
    fun _ plain => (ColumnQuality.restores plain).survives,
    fun _ plain => (TableOutcome.restores plain).survives,
    fun _ plain => (HashOutcome.restores plain).survives,
    fun _ plain => (StatsReport.restores plain).survives,
    fun _ plain => (HashReport.restores plain).survives⟩

/-- A row with one number as each kind of scalar. -/
def fives : StatRow :=
  { count := some (.integer 5), mean := some (.float (.ofInt 5)), max := some (.text "5"),
    frequency := some [⟨"5", some 3⟩, ⟨"five", none⟩] }

theorem fives_isPlain : fives.IsPlain where
  scalars := by
    intro field value held
    cases field <;> cases held
    case mean => exact (by decide +kernel : (Binary64.ofInt 5).isFinite = true)
    all_goals trivial
  frequency := by
    rintro _ ⟨⟩ entry held
    unfold FrequencyEntry.IsPlain
    revert entry
    decide

/-- A comparison of such rows. -/
def comparedFives : ColumnOutcome :=
  .compared
    { column := "AMOUNT", agreement := .ofList [(.count, true), (.mean, false)],
      mismatches := [⟨.mean, some "5.0", none⟩], verdict := .fail, types := ⟨some "NUMBER", none⟩,
      rows := ⟨fives, fives⟩ }

theorem comparedFives_isPlain : comparedFives.IsPlain := by
  rintro ⟨⟩ <;> exact fives_isPlain

/-- The quality of one column. -/
def qualityOfFives : ColumnQuality :=
  { totalVintages := 1, mismatchedColumns := ["AMOUNT"],
    columns :=
      .ofList [("AMOUNT", { vintages := 1, failed := 1, maxDistinct := some (.ofInt 5) })] }

theorem qualityOfFives_isPlain : qualityOfFives.IsPlain where
  totalVintages := by decide
  columns := by
    intro entry held
    obtain rfl := List.mem_singleton.mp held
    refine ⟨by decide, by decide, by decide, by decide, by decide, ?_⟩
    intro greatest held
    have five : Binary64.ofInt 5 = greatest := Option.some.inj held
    exact five ▸ (by decide +kernel : (Binary64.ofInt 5).isFinite = true)

theorem isDay_first : IsDay firstYear 1 1 := by decide

theorem isDay_last : IsDay lastYear 12 31 := by decide

/-- The first day of the calendar. -/
def firstDay : Date := ⟨firstYear, 1, 1, isDay_first⟩

/-- The last day of the calendar. -/
def lastDay : Date := ⟨lastYear, 12, 31, isDay_last⟩

/-- A table whose only vintage is as wide as the calendar. -/
def widestTable : TableOutcome :=
  .validated
    { table := "ACCOUNTS", granularity := .whole,
      rowCounts := { totalDays := 1, totals := ⟨1, 2⟩, mismatches := [⟨firstDay, 1, 2⟩] },
      vintages :=
        [ { window := ⟨"whole", some firstDay, some lastDay⟩, filters := ⟨"1=1", "1=1"⟩,
            excludedDates := [firstDay], fingerprint := "" } ] }

theorem widestTable_isPlain : widestTable.IsPlain where
  totalDays := by decide
  matchedDays := by decide
  totals := by rintro ⟨⟩ <;> decide
  mismatches := by
    rintro _ (_ | ⟨_, ⟨⟩⟩)
    rintro ⟨⟩ <;> decide

/-- A row of one side whose key has a NULL. -/
def looseRow : HashOutcome :=
  .compared
    { rows := ⟨0, 1⟩, only := ⟨0, 1⟩, sampleOnly := ⟨[], [⟨[some "1", none]⟩]⟩ }

theorem looseRow_isPlain : looseRow.IsPlain where
  rows := by rintro ⟨⟩ <;> decide
  matched := by decide
  hashMismatch := by decide
  only := by rintro ⟨⟩ <;> decide
  duplicateKeys := by decide

/-- The hand-off of a number of each kind, of the widest table and of a key with a NULL. -/
theorem handoff_survives_fives :
    Survives ofScalar scalar? (.float (.ofInt 5)) ∧
    Survives ofDate date? lastDay ∧
    Survives StatRow.toDocument StatRow.ofDocument? fives ∧
    Survives ColumnOutcome.toDocument ColumnOutcome.ofDocument? comparedFives ∧
    Survives ColumnQuality.toDocument ColumnQuality.ofDocument? qualityOfFives ∧
    Survives TableOutcome.toDocument TableOutcome.ofDocument? widestTable ∧
    Survives HashOutcome.toDocument HashOutcome.ofDocument? looseRow ∧
    Survives StatsReport.toDocument StatsReport.ofDocument?
      ⟨"2024-01", [comparedFives], [⟨.cloud, "AMOUNT", "timeout"⟩]⟩ ∧
    Survives HashReport.toDocument HashReport.ofDocument? ⟨"2024-01", looseRow, []⟩ := by
  obtain ⟨scalar, date, row, column, quality, table, rows, statistics, hashes⟩ := handoff_survives
  refine ⟨scalar _ (by decide +kernel : (Binary64.ofInt 5).isFinite = true), date _,
    row fives fives_isPlain, column comparedFives comparedFives_isPlain,
    quality qualityOfFives qualityOfFives_isPlain, table widestTable widestTable_isPlain,
    rows looseRow looseRow_isPlain, statistics _ ?_, hashes _ looseRow_isPlain⟩
  intro outcome held
  rw [List.mem_singleton] at held
  exact held ▸ comparedFives_isPlain

end Reconciliation
