import Reconciliation.Handoff.Catalog
import Reconciliation.Proofs.Document.Members

/-! # Catalogs restored

Platforms, granularities and crosswalks are restored from their documents. They hold no numbers, so
nothing is asked of them.
-/

namespace Reconciliation

open Document

theorem Platform.restores (platform : Platform) : Restores toDocument ofDocument? platform := by
  cases platform <;> exact ⟨rfl, rfl⟩

theorem ColumnCategory.restores (category : ColumnCategory) :
    Restores toDocument ofDocument? category := by
  cases category <;> exact ⟨rfl, rfl⟩

theorem Granularity.restores (granularity : Granularity) :
    Restores toDocument ofDocument? granularity := by
  cases granularity <;> exact ⟨rfl, rfl⟩

theorem Column.restores (column : Column) : Restores toDocument ofDocument? column := by
  have platform := column.platform.restores
  have category := column.category.restores
  refine restores_record rfl rfl rfl (by decide) ?_ ?_
  · simp [membersArePlain, isPlain, platform.plain, category.plain]
  · simp [text?, platform.back, category.back]

/-- A pair is restored once both of its values are. -/
theorem Both.restores {α : Type} {write : α → Document} {read? : Document → Option α}
    {both : Both α} (each : ∀ platform, Restores write read? (both.on platform)) :
    Restores (toDocument write) (ofDocument? read?) both := by
  have legacy : Restores write read? both.legacy := each .legacy
  have cloud : Restores write read? both.cloud := each .cloud
  refine restores_record rfl rfl rfl (by decide) ?_ ?_
  · simp [membersArePlain, legacy.plain, cloud.plain]
  · simp [legacy.back, cloud.back]

theorem ColumnMapping.restores (mapping : ColumnMapping) :
    Restores toDocument ofDocument? mapping := by
  refine restores_record rfl rfl rfl (by decide) ?_ ?_
  · simp [membersArePlain, isPlain]
  · simp [Slot.orDefault, text?, boolean?]

theorem TypeMismatch.restores (mismatch : TypeMismatch) :
    Restores toDocument ofDocument? mismatch := by
  refine restores_record rfl rfl rfl (by decide) ?_ ?_
  · simp [membersArePlain, isPlain]
  · simp [text?]

/-- A crosswalk is restored from its document, whatever it pairs. -/
theorem Crosswalk.restores (crosswalk : Crosswalk) : Restores toDocument ofDocument? crosswalk := by
  have texts := restores_texts
  have comparable : Restores (.ofList ColumnPair.toDocument) (list? ColumnPair.ofDocument?)
      crosswalk.comparable :=
    restores_list fun pair _ => Both.restores fun platform => (pair.on platform).restores
  have dangling : Restores _ _ crosswalk.dangling :=
    restores_list fun mapping _ => mapping.restores
  have mismatches : Restores _ _ crosswalk.typeMismatches :=
    restores_list fun mismatch _ => mismatch.restores
  refine restores_record rfl rfl rfl (by decide) ?_ ?_
  · simp [membersArePlain, comparable.plain, (texts _).plain, dangling.plain, mismatches.plain]
  · simp [comparable.back, (texts _).back, dangling.back, mismatches.back]

end Reconciliation
