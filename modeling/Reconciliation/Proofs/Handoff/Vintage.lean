import Reconciliation.Handoff.Vintage
import Reconciliation.Proofs.Handoff.Catalog

/-! # Vintages restored

What validation says of a table is restored from its document, with every date of the calendar,
once its counts have 64 bits (`IsPlain`).
-/

namespace Reconciliation

open Document

/-! ## Row counts -/

/-- The counts of a day have 64 bits. -/
def DateMismatch.IsPlain (mismatch : DateMismatch) : Prop :=
  ∀ platform, mismatch.counts.on platform < countBound

theorem DateMismatch.restores {mismatch : DateMismatch} (plain : mismatch.IsPlain) :
    Restores toDocument ofDocument? mismatch := by
  have date := restores_date mismatch.date
  have legacy : Restores _ _ mismatch.counts.legacy := restores_count (plain .legacy)
  have cloud : Restores _ _ mismatch.counts.cloud := restores_count (plain .cloud)
  refine restores_record rfl rfl rfl (by decide) ?_ ?_
  · simp [membersArePlain, date.plain, legacy.plain, cloud.plain]
  · simp [date.back, legacy.back, cloud.back]

/-- The counts of a comparison have 64 bits. -/
structure RowCountComparison.IsPlain (comparison : RowCountComparison) : Prop where
  totalDays : comparison.totalDays < countBound
  matchedDays : comparison.matchedDays < countBound
  totals : ∀ platform, comparison.totals.on platform < countBound
  mismatches : ∀ mismatch ∈ comparison.mismatches, mismatch.IsPlain

theorem RowCountComparison.restores {comparison : RowCountComparison}
    (plain : comparison.IsPlain) : Restores toDocument ofDocument? comparison := by
  have totalDays := restores_count plain.totalDays
  have matchedDays := restores_count plain.matchedDays
  have legacy : Restores _ _ comparison.totals.legacy := restores_count (plain.totals .legacy)
  have cloud : Restores _ _ comparison.totals.cloud := restores_count (plain.totals .cloud)
  have mismatches : Restores _ _ comparison.mismatches :=
    restores_list fun mismatch held => DateMismatch.restores (plain.mismatches mismatch held)
  refine restores_record rfl rfl rfl (by decide) ?_ ?_
  · simp [membersArePlain, isPlain, totalDays.plain, matchedDays.plain, legacy.plain, cloud.plain,
      mismatches.plain]
  · simp [boolean?, totalDays.back, matchedDays.back, legacy.back, cloud.back, mismatches.back]

/-! ## Vintages -/

theorem restores_optionalDate (date : Option Date) :
    Restores (.ofOption .ofDate) (nullable? date?) date :=
  restores_option (fun date _ => restores_date date) rfl

theorem ValidatedVintage.restores (vintage : ValidatedVintage) :
    Restores toDocument ofDocument? vintage := by
  have date := restores_optionalDate
  have excluded : Restores _ _ vintage.excludedDates :=
    restores_list fun date _ => restores_date date
  refine restores_record rfl rfl rfl (by decide) ?_ ?_
  · simp [Window.vintageMembers, membersArePlain, isPlain, (date _).plain, excluded.plain]
  · simp [Window.vintageMembers, Window.ofVintageSlots?, text?, (date _).back, excluded.back]

/-! ## Outcomes -/

theorem ExclusionReason.restores (reason : ExclusionReason) :
    Restores toDocument ofDocument? reason := by
  cases reason with
  | notAccessible platform =>
      have platform := platform.restores
      refine restores_tagged "not_accessible" (.record [("platform", _)]) rfl rfl
        ⟨_, rfl, by simp⟩ ?_ ?_
      · simp [isPlain, membersArePlain, platform.plain]
      · simp [slots?_record, platform.back]
  | noOverlap => exact ⟨rfl, rfl⟩
  | outOfRange => exact ⟨rfl, rfl⟩

/-- The row counts of a table are plain. -/
def TableOutcome.IsPlain : TableOutcome → Prop
  | .validated validation => validation.rowCounts.IsPlain
  | .excluded _ _ => True

theorem TableValidation.restores {validation : TableValidation}
    (plain : validation.rowCounts.IsPlain) : Restores toDocument ofDocument? validation := by
  have granularity := validation.granularity.restores
  have rowCounts := RowCountComparison.restores plain
  have vintages : Restores _ _ validation.vintages :=
    restores_list fun vintage _ => vintage.restores
  refine restores_record rfl rfl rfl (by decide) ?_ ?_
  · simp [membersArePlain, isPlain, granularity.plain, rowCounts.plain, vintages.plain]
  · simp [text?, granularity.back, rowCounts.back, vintages.back]

theorem TableOutcome.restores {outcome : TableOutcome} (plain : outcome.IsPlain) :
    Restores toDocument ofDocument? outcome := by
  cases outcome with
  | validated validation =>
      have inner := TableValidation.restores plain
      refine restores_tagged "validated" validation.toDocument rfl rfl ⟨_, rfl, by simp⟩
        inner.plain ?_
      simp [inner.back]
  | excluded table reason =>
      have reason := reason.restores
      refine restores_tagged "excluded" _ rfl rfl ⟨_, rfl, by simp⟩ ?_ ?_
      · simp [isPlain, membersArePlain, reason.plain]
      · simp [slots?_record, text?, reason.back]

end Reconciliation
