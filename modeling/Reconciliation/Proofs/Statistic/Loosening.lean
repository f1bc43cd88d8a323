import Reconciliation.Proofs.Statistic.Agreement
import Reconciliation.Proofs.Statistic.CommonReading
import Reconciliation.Proofs.Statistic.Tolerance

/-! # Looser tolerances

A wider tolerance accepts whatever a narrower one accepts, also after rounding, and no kind lets the
tolerance decide how its values are read. So a schema whose tolerance is loosened loses no agreement
(`StatSchema.agrees_of_agrees`), and its verdicts only rise (`StatSchema.compare_loosened`).
-/

namespace Reconciliation

namespace ComparisonKind

/-! ## Kinds with a wider tolerance -/

theorem relateOptional_mono {relate wider : Scalar → Scalar → Bool}
    (implies : ∀ a b, relate a b = true → wider a b = true) {left right : Option Scalar}
    (related : relateOptional relate left right = true) :
    relateOptional wider left right = true := by
  cases left with
  | none =>
      cases right with
      | none => rfl
      | some b => cases related
  | some a =>
      cases right with
      | none => cases related
      | some b => exact implies a b related

theorem relateLists_mono {α : Type} {relate wider : α → α → Bool}
    (implies : ∀ a b, relate a b = true → wider a b = true) {left right : List α}
    (related : relateLists relate left right = true) : relateLists wider left right = true := by
  induction left generalizing right with
  | nil =>
      cases right with
      | nil => rfl
      | cons b bs => cases related
  | cons a as ih =>
      cases right with
      | nil => cases related
      | cons b bs =>
          rw [relateLists, Bool.and_eq_true] at related ⊢
          exact ⟨implies a b related.1, ih related.2⟩

theorem isNumeric_withTolerance (kind : ComparisonKind) (tolerance : Tolerance) :
    (kind.withTolerance tolerance).isNumeric = kind.isNumeric := by
  cases kind <;> rfl

variable {narrow wide : Tolerance} (proper : narrow.IsProper) (properWide : wide.IsProper)
  (within : narrow.Within wide)
include proper properWide within

theorem numericallyEqual_of_narrow {left right : Scalar}
    (equal : numericallyEqual narrow left right = true) :
    numericallyEqual wide left right = true := by
  unfold numericallyEqual at equal ⊢
  split at equal
  · exact proper.accepts_of_accepts properWide within equal
  · cases equal

theorem flexiblyEqual_of_narrow {tryDate tryNumeric : Bool} {left right : Scalar}
    (equal : flexiblyEqual tryDate tryNumeric narrow left right = true) :
    flexiblyEqual tryDate tryNumeric wide left right = true := by
  rw [flexiblyEqual_eq_agrees] at equal ⊢
  generalize commonReading tryDate tryNumeric left right = reading at equal ⊢
  cases reading with
  | days a b => exact equal
  | numbers a b => exact proper.accepts_of_accepts properWide within equal
  | texts a b => exact equal

theorem entriesEqual_of_narrow {left right : FrequencyEntry}
    (equal : entriesEqual narrow left right = true) : entriesEqual wide left right = true := by
  unfold entriesEqual at equal ⊢
  rw [Bool.and_eq_true] at equal ⊢
  refine ⟨flexiblyEqual_of_narrow proper properWide within equal.1, ?_⟩
  have counted := equal.2
  split at counted
  · exact proper.accepts_of_accepts properWide within counted
  · cases counted

/-- No kind decides by the tolerance how its values are read. -/
theorem accepts_of_narrow (kind : ComparisonKind) {left right : StatValue}
    (accepted : (kind.withTolerance narrow).accepts left right = true) :
    (kind.withTolerance wide).accepts left right = true := by
  cases kind with
  | exact => exact accepted
  | exactWithZeroAsNull => exact accepted
  | numericTolerance =>
      exact relateOptional_mono
        (fun _ _ => numericallyEqual_of_narrow proper properWide within) accepted
  | flexibleString =>
      exact relateOptional_mono
        (fun _ _ => flexiblyEqual_of_narrow proper properWide within) accepted
  | frequencyList =>
      exact relateLists_mono (fun _ _ => entriesEqual_of_narrow proper properWide within) accepted

end ComparisonKind

/-! ## Comparisons with a wider tolerance -/

namespace Verdict

/-- How good a verdict is. -/
def rank : Verdict → Nat
  | .fail => 0
  | .partialPass => 1
  | .pass => 2

/-- A verdict is no better than another if it passes only where the other does, and fails wherever
the other does. -/
theorem rank_le_iff {verdict other : Verdict} :
    verdict.rank ≤ other.rank ↔
      (other = .fail → verdict = .fail) ∧ (verdict = .pass → other = .pass) := by
  cases verdict <;> cases other <;> decide

end Verdict

namespace StatSchema

/-- A schema under which no agreement is lost gives no worse verdict. -/
theorem rank_verdict_le_of_agrees {schema other : StatSchema} {rows : Both StatRow}
    (column : String)
    (kept : ∀ field, schema.agrees rows field = true → other.agrees rows field = true) :
    (schema.compareRows column rows).verdict.rank ≤
      (other.compareRows column rows).verdict.rank := by
  have differs {field : StatField} (differing : field ∈ other.differing rows) :
      field ∈ schema.differing rows := by
    rw [mem_differing, ← Bool.not_eq_true] at differing ⊢
    exact mt (kept field) differing
  rw [Verdict.rank_le_iff]
  constructor
  · rw [verdict_eq_fail_iff, verdict_eq_fail_iff]
    intro ⟨field, differing, notFrequency⟩
    exact ⟨field, differs differing, notFrequency⟩
  · rw [verdict_eq_pass_iff, verdict_eq_pass_iff, List.eq_nil_iff_forall_not_mem,
      List.eq_nil_iff_forall_not_mem]
    intro none field differing
    exact none field (differs differing)

variable (schema : StatSchema) {narrow wide : Tolerance} (proper : narrow.IsProper)
  (properWide : wide.IsProper) (within : narrow.Within wide) (rows : Both StatRow)
include proper properWide within

omit proper properWide within in
/-- Forgiveness asks of a kind only whether it reads numbers. -/
theorem forgives_withTolerance (tolerance : Tolerance) (kind : ComparisonKind)
    (left right : StatValue) :
    (schema.withTolerance tolerance).forgives (kind.withTolerance tolerance) left right =
      schema.forgives kind left right := by
  cases left with
  | scalar a =>
      cases right with
      | scalar b =>
          rw [forgives, forgives, zeroAsNull_withTolerance, ComparisonKind.isNumeric_withTolerance]
      | frequency => rfl
  | frequency => rfl

theorem agrees_of_agrees {field : StatField}
    (agreed : (schema.withTolerance narrow).agrees rows field = true) :
    (schema.withTolerance wide).agrees rows field = true := by
  unfold agrees accepts at agreed ⊢
  rw [kindOf_withTolerance, forgives_withTolerance, Bool.or_eq_true] at agreed ⊢
  exact agreed.imp_left (ComparisonKind.accepts_of_narrow proper properWide within _)

theorem rank_verdict_le (column : String) :
    ((schema.withTolerance narrow).compareRows column rows).verdict.rank ≤
      ((schema.withTolerance wide).compareRows column rows).verdict.rank :=
  rank_verdict_le_of_agrees column fun _ =>
    schema.agrees_of_agrees proper properWide within rows

/-- **Loosening the tolerance makes no comparison worse**: what agreed agrees, and the verdict does
not fall. -/
theorem compare_loosened (column : String) :
    ∃ result loosened,
      (schema.withTolerance narrow).compare column (rows.map some) = .compared result ∧
      (schema.withTolerance wide).compare column (rows.map some) = .compared loosened ∧
      (∀ field, result.agreement.get? field = some true →
        loosened.agreement.get? field = some true) ∧
      result.verdict.rank ≤ loosened.verdict.rank := by
  refine ⟨_, _, rfl, rfl, ?_, schema.rank_verdict_le proper properWide within rows column⟩
  intro field agreed
  rw [get?_agreement, Option.some.injEq] at agreed ⊢
  exact schema.agrees_of_agrees proper properWide within rows agreed

omit proper properWide within in
/-- From no tolerance at all to the standard one. -/
theorem compare_loosened_zero :
    let narrow : Tolerance := ⟨.zero, .zero⟩
    let rows : Both StatRow :=
      ⟨{ max := some (.text "0.1"), sum := some (.integer 3) },
        { max := some (.text "0.1000001"), sum := some (.text " 3.0") }⟩
    narrow.IsProper ∧ Tolerance.standard.IsProper ∧ narrow.Within .standard ∧
      ∃ result loosened,
        (standard.withTolerance narrow).compare "A" (rows.map some) = .compared result ∧
        (standard.withTolerance .standard).compare "A" (rows.map some) = .compared loosened ∧
        (∀ field, result.agreement.get? field = some true →
          loosened.agreement.get? field = some true) ∧
        result.verdict.rank ≤ loosened.verdict.rank := by
  intro narrow rows
  have proper : narrow.IsProper := ⟨rfl, rfl, by decide, by decide⟩
  have properWide := Tolerance.standard_isProper
  have within : narrow.Within .standard := ⟨properWide.zeroLeAbsolute, properWide.zeroLeRelative⟩
  exact ⟨proper, properWide, within, compare_loosened standard proper properWide within rows "A"⟩

end StatSchema

end Reconciliation
