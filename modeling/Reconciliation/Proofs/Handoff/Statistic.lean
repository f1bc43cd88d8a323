import Reconciliation.Handoff.Statistic
import Reconciliation.Proofs.Handoff.Catalog

/-! # Statistics restored

Rows of statistics, comparisons of columns and column quality are restored from their documents
once their numbers are such as JSON has: finite, and with counts of 64 bits (`IsPlain`).
-/

namespace Reconciliation

open Document

theorem StatField.restores (field : StatField) : Restores toDocument ofDocument? field := by
  cases field <;> exact ⟨rfl, rfl⟩

theorem StatField.ofName?_name (field : StatField) : ofName? field.name = some field := by
  cases field <;> rfl

theorem Verdict.restores (verdict : Verdict) : Restores toDocument ofDocument? verdict := by
  cases verdict <;> exact ⟨rfl, rfl⟩

/-! ## Rows -/

/-- An entry has no count, or one of 64 bits. -/
def FrequencyEntry.IsPlain (entry : FrequencyEntry) : Prop :=
  ∀ count ∈ entry.count, count < countBound

theorem FrequencyEntry.restores {entry : FrequencyEntry} (plain : entry.IsPlain) :
    Restores toDocument ofDocument? entry := by
  have count := restores_option (fun count held => restores_count (plain count held)) rfl
  refine restores_record rfl rfl rfl (by decide) ?_ ?_
  · simp [membersArePlain, isPlain, count.plain]
  · simp [text?, count.back]

/-- The numbers of a row are finite, and its counts have 64 bits. -/
structure StatRow.IsPlain (row : StatRow) : Prop where
  scalars : ∀ field value, row.get field = .scalar (some value) → value.IsPlain
  frequency : ∀ entries ∈ row.frequency, ∀ entry ∈ entries, entry.IsPlain

theorem StatRow.restores {row : StatRow} (plain : row.IsPlain) :
    Restores toDocument ofDocument? row := by
  have type := restores_optionalText row.columnType
  have scalar (field : StatField) {value : Option Scalar} (held : row.get field = .scalar value) :
      Restores (.ofOption .ofScalar) (nullable? scalar?) value := by
    apply restores_option _ rfl
    rintro value rfl
    exact restores_scalar (plain.scalars field value held)
  have count := scalar .count rfl
  have distinct := scalar .distinct rfl
  have min := scalar .min rfl
  have max := scalar .max rfl
  have mean := scalar .mean rfl
  have std := scalar .std rfl
  have sum := scalar .sum rfl
  have sumSq := scalar .sumSq rfl
  have missing := scalar .missing rfl
  have frequency := restores_option
    (fun entries held => restores_list fun entry member =>
      FrequencyEntry.restores (plain.frequency entries held entry member)) rfl
  refine restores_record rfl rfl rfl (by decide) ?_ ?_
  · simp [membersArePlain, type.plain, count.plain, distinct.plain, min.plain, max.plain,
      mean.plain, std.plain, sum.plain, sumSq.plain, missing.plain, frequency.plain]
  · simp [type.back, count.back, distinct.back, min.back, max.back, mean.back, std.back, sum.back,
      sumSq.back, missing.back, frequency.back]

/-! ## Comparisons -/

theorem StatMismatch.restores (mismatch : StatMismatch) :
    Restores toDocument ofDocument? mismatch := by
  have statistic := mismatch.statistic.restores
  have text := restores_optionalText
  refine restores_record rfl rfl rfl (by decide) ?_ ?_
  · simp [membersArePlain, statistic.plain, (text _).plain]
  · simp [statistic.back, (text _).back]

/-- The rows compared are plain. -/
def ComparisonResult.IsPlain (result : ComparisonResult) : Prop :=
  ∀ platform, (result.rows.on platform).IsPlain

theorem ComparisonResult.restores {result : ComparisonResult} (plain : result.IsPlain) :
    Restores toDocument ofDocument? result := by
  have agreement : Restores (.ofMap StatField.name .boolean) (map? StatField.ofName? boolean?)
      result.agreement :=
    restores_map StatField.ofName?_name fun entry _ => restores_boolean entry.2
  have mismatches : Restores _ _ result.mismatches :=
    restores_list fun mismatch _ => mismatch.restores
  have verdict := result.verdict.restores
  have type := restores_optionalText
  have legacy := StatRow.restores (plain .legacy)
  have cloud := StatRow.restores (plain .cloud)
  simp only [Both.on] at legacy cloud
  refine restores_record rfl rfl rfl (by decide) ?_ ?_
  · simp [membersArePlain, isPlain, agreement.plain, mismatches.plain, verdict.plain,
      (type _).plain, legacy.plain, cloud.plain]
  · simp [text?, agreement.back, mismatches.back, verdict.back, (type _).back, legacy.back,
      cloud.back]

/-- What is compared is plain. -/
def ColumnOutcome.IsPlain : ColumnOutcome → Prop
  | .compared result => result.IsPlain
  | .notComparable _ _ => True

theorem ColumnOutcome.restores {outcome : ColumnOutcome} (plain : outcome.IsPlain) :
    Restores toDocument ofDocument? outcome := by
  cases outcome with
  | compared result =>
      have inner := ComparisonResult.restores plain
      refine restores_tagged "compared" result.toDocument rfl rfl ⟨_, rfl, by simp⟩ inner.plain ?_
      simp [inner.back]
  | notComparable column missingOn =>
      have missing : Restores _ _ missingOn := restores_list fun platform _ => platform.restores
      refine restores_tagged "not_comparable" _ rfl rfl ⟨_, rfl, by simp⟩ ?_ ?_
      · simp [isPlain, membersArePlain, missing.plain]
      · simp [slots?_record, text?, missing.back]

/-! ## Quality -/

/-- The counts of a summary have 64 bits, and its number is finite. -/
structure ColumnSummary.IsPlain (summary : ColumnSummary) : Prop where
  vintages : summary.vintages < countBound
  passed : summary.passed < countBound
  passedPartly : summary.passedPartly < countBound
  failed : summary.failed < countBound
  notComparable : summary.notComparable < countBound
  maxDistinct : ∀ greatest ∈ summary.maxDistinct, greatest.isFinite = true

theorem ColumnSummary.restores {summary : ColumnSummary} (plain : summary.IsPlain) :
    Restores toDocument ofDocument? summary := by
  have vintages := restores_count plain.vintages
  have passed := restores_count plain.passed
  have passedPartly := restores_count plain.passedPartly
  have failed := restores_count plain.failed
  have notComparable := restores_count plain.notComparable
  have maxDistinct := restores_option
    (fun greatest held => restores_float (plain.maxDistinct greatest held)) rfl
  refine restores_record rfl rfl rfl (by decide) ?_ ?_
  · simp [membersArePlain, vintages.plain, passed.plain, passedPartly.plain, failed.plain,
      notComparable.plain, maxDistinct.plain]
  · simp [vintages.back, passed.back, passedPartly.back, failed.back, notComparable.back,
      maxDistinct.back]

/-- The count of vintages has 64 bits, and every summary is plain. -/
structure ColumnQuality.IsPlain (quality : ColumnQuality) : Prop where
  totalVintages : quality.totalVintages < countBound
  columns : ∀ entry ∈ quality.columns.entries, entry.2.IsPlain

theorem ColumnQuality.restores {quality : ColumnQuality} (plain : quality.IsPlain) :
    Restores toDocument ofDocument? quality := by
  have totalVintages := restores_count plain.totalVintages
  have columns : Restores (.ofMap id _) (map? some _) quality.columns :=
    restores_map (fun _ => rfl) fun entry held => ColumnSummary.restores (plain.columns entry held)
  have texts := restores_texts
  refine restores_record rfl rfl rfl (by decide) ?_ ?_
  · simp [membersArePlain, totalVintages.plain, columns.plain, (texts _).plain]
  · simp [totalVintages.back, columns.back, (texts _).back]

end Reconciliation
