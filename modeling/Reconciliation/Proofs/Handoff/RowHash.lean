import Reconciliation.Handoff.RowHash
import Reconciliation.Proofs.Handoff.Catalog

/-! # Hashed rows restored

The comparison of hashed rows is restored from its document, keys with NULLs included, once its
counts have 64 bits (`IsPlain`).
-/

namespace Reconciliation

open Document

theorem RowKey.restores (key : RowKey) : Restores toDocument ofDocument? key := by
  have values : Restores _ (list? (nullable? text?)) key.values :=
    restores_list fun value _ => restores_optionalText value
  refine ⟨values.plain, ?_⟩
  rw [ofDocument?, toDocument, values.back]
  rfl

theorem HashMismatch.restores (mismatch : HashMismatch) :
    Restores toDocument ofDocument? mismatch := by
  have key := mismatch.key.restores
  refine restores_record rfl rfl rfl (by decide) ?_ ?_
  · simp [membersArePlain, isPlain, key.plain]
  · simp [text?, key.back]

/-- The counts of a comparison have 64 bits. -/
structure RowHashComparison.IsPlain (comparison : RowHashComparison) : Prop where
  rows : ∀ platform, comparison.rows.on platform < countBound
  matched : comparison.matched < countBound
  hashMismatch : comparison.hashMismatch < countBound
  only : ∀ platform, comparison.only.on platform < countBound
  duplicateKeys : comparison.duplicateKeys < countBound

theorem RowHashComparison.restores {comparison : RowHashComparison}
    (plain : comparison.IsPlain) : Restores toDocument ofDocument? comparison := by
  have legacy : Restores _ _ comparison.rows.legacy := restores_count (plain.rows .legacy)
  have cloud : Restores _ _ comparison.rows.cloud := restores_count (plain.rows .cloud)
  have matched := restores_count plain.matched
  have hashMismatch := restores_count plain.hashMismatch
  have legacyOnly : Restores _ _ comparison.only.legacy := restores_count (plain.only .legacy)
  have cloudOnly : Restores _ _ comparison.only.cloud := restores_count (plain.only .cloud)
  have duplicateKeys := restores_count plain.duplicateKeys
  have mismatches : Restores _ _ comparison.sampleMismatches :=
    restores_list fun mismatch _ => mismatch.restores
  have keys (keys : List RowKey) :
      Restores (.ofList RowKey.toDocument) (list? RowKey.ofDocument?) keys :=
    restores_list fun key _ => key.restores
  refine restores_record rfl rfl rfl (by decide) ?_ ?_
  · simp [membersArePlain, legacy.plain, cloud.plain, matched.plain, hashMismatch.plain,
      legacyOnly.plain, cloudOnly.plain, duplicateKeys.plain, mismatches.plain, (keys _).plain]
  · simp [legacy.back, cloud.back, matched.back, hashMismatch.back, legacyOnly.back, cloudOnly.back,
      duplicateKeys.back, mismatches.back, (keys _).back]

/-- What is compared is plain. -/
def HashOutcome.IsPlain : HashOutcome → Prop
  | .compared comparison => comparison.IsPlain
  | .notComparable _ => True

theorem HashOutcome.restores {outcome : HashOutcome} (plain : outcome.IsPlain) :
    Restores toDocument ofDocument? outcome := by
  cases outcome with
  | compared comparison =>
      have inner := RowHashComparison.restores plain
      refine restores_tagged "compared" comparison.toDocument rfl rfl ⟨_, rfl, by simp⟩
        inner.plain ?_
      simp [inner.back]
  | notComparable missingOn =>
      have missing : Restores _ _ missingOn := restores_list fun platform _ => platform.restores
      refine restores_tagged "not_comparable" _ rfl rfl ⟨_, rfl, by simp⟩ ?_ ?_
      · simp [isPlain, membersArePlain, missing.plain]
      · simp [slots?_record, missing.back]

end Reconciliation
