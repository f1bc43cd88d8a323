import Reconciliation.Proofs.Statistic.Agreement
import Reconciliation.Proofs.Statistic.CommonReading
import Reconciliation.Proofs.Statistic.Tolerance
import Reconciliation.Proofs.Statistic.Value

/-! # A row compared with itself

Every kind accepts a value against itself, numbers without a finite reading and frequencies without
a count apart: a comparison as numbers rejects the former, one of frequency lists the latter. So
under the standard schema, with any proper tolerance, a row fails against itself exactly if a
statistic that has to be a number has no finite reading, and passes in part exactly if only a count
lacks (`StatSchema.compare_self`).
-/

namespace Reconciliation

variable {tolerance : Tolerance}

/-! ## Values against themselves -/

namespace Scalar

/-- A scalar has a finite numeric view. -/
def IsReadable (scalar : Scalar) : Prop :=
  ∃ number, scalar.number? = some number ∧ number.isFinite = true

theorem exactlyEqual_self {scalar : Scalar} (plain : scalar.IsPlain) :
    scalar.exactlyEqual scalar = true := by
  cases scalar with
  | integer value => exact beq_self_eq_true value
  | float value => exact (Binary64.eq_iff_toUnits plain plain).mpr rfl
  | text value => exact beq_self_eq_true value

/-- A flexible comparison meets a scalar as the number zero. -/
def MeetsAsZero (scalar : Scalar) : Prop :=
  Date.recognise? scalar.display = none ∧ scalar.isZero = true

end Scalar

namespace ComparisonKind

theorem isZeroAgainstNull_self (value : Option Scalar) : isZeroAgainstNull value value = false := by
  cases value <;> rfl

theorem relateOptional_self {relate : Scalar → Scalar → Bool} {value : Option Scalar} :
    relateOptional relate value value = true ↔ ∀ scalar ∈ value, relate scalar scalar = true := by
  cases value <;> simp [relateOptional]

theorem relateLists_self {α : Type} {relate : α → α → Bool} {members : List α} :
    relateLists relate members members = true ↔ ∀ member ∈ members, relate member member = true := by
  induction members with
  | nil => simp [relateLists]
  | cons head rest ih =>
      rw [relateLists, Bool.and_eq_true, ih, List.forall_mem_cons]

/-- A flexible comparison accepts every scalar against itself, unless a zero meets a tolerance that
grows without bound. -/
theorem flexiblyEqual_self_iff (nonnegative : tolerance.IsNonnegative) {scalar : Scalar}
    (plain : scalar.IsPlain) : flexiblyEqual true true tolerance scalar scalar = true ↔
      (tolerance.relative = .infinite false → ¬scalar.MeetsAsZero) := by
  unfold flexiblyEqual Scalar.MeetsAsZero Scalar.isZero
  cases Date.recognise? scalar.display with
  | some day => simp
  | none =>
      cases view : scalar.number? with
      | none => simp
      | some number => simp [nonnegative.accepts_self_iff (plain.isFinite view)]

section

variable (proper : tolerance.IsProper)
include proper

/-- A comparison as numbers accepts the readable scalars against themselves. -/
theorem numericallyEqual_self_iff {scalar : Scalar} (plain : scalar.IsPlain) :
    numericallyEqual tolerance scalar scalar = true ↔ scalar.IsReadable := by
  unfold numericallyEqual Scalar.IsReadable
  cases view : scalar.number? with
  | none => simp
  | some number =>
      have finite := plain.isFinite view
      simp [proper.accepts_self finite, finite]

/-- A flexible comparison accepts every scalar against itself, whatever it is read as. -/
theorem flexiblyEqual_self {scalar : Scalar} (plain : scalar.IsPlain)
    (tryDate tryNumeric : Bool) :
    flexiblyEqual tryDate tryNumeric tolerance scalar scalar = true := by
  rw [flexiblyEqual_eq_agrees]
  have reads := commonReading_reads tryDate tryNumeric scalar scalar
  generalize commonReading tryDate tryNumeric scalar scalar = reading at reads ⊢
  cases reading with
  | days a b => exact decide_eq_true (Option.some.inj (reads.1.symm.trans reads.2))
  | numbers a b =>
      obtain rfl : a = b := Option.some.inj (reads.1.symm.trans reads.2)
      exact proper.accepts_self (plain.isFinite reads.1)
  | texts a b => exact beq_iff_eq.mpr (reads.1.symm.trans reads.2)

theorem entriesEqual_self_iff {entry : FrequencyEntry} (plain : entry.IsPlain) :
    entriesEqual tolerance entry entry = true ↔ entry.count ≠ none := by
  unfold entriesEqual
  rw [flexiblyEqual_self proper (Scalar.isPlain_text entry.value), Bool.true_and]
  cases counted : entry.count with
  | none => simp
  | some count => simp [proper.accepts_self (plain.isFinite counted)]

end

variable {value : StatValue} (plain : value.IsPlain)
include plain

theorem exactWithZeroAsNull_accepts_self : exactWithZeroAsNull.accepts value value = true := by
  rw [accepts, Bool.or_eq_true, relateOptional_self]
  exact .inr fun scalar held => Scalar.exactlyEqual_self (plain.scalar scalar held)

variable (proper : tolerance.IsProper)
include proper

theorem flexibleString_accepts_self (tryDate tryNumeric : Bool) :
    (flexibleString tryDate tryNumeric tolerance).accepts value value = true := by
  rw [accepts, relateOptional_self]
  exact fun scalar held =>
    flexiblyEqual_self proper (plain.scalar scalar held) tryDate tryNumeric

theorem numericTolerance_accepts_self_iff : (numericTolerance tolerance).accepts value value = true ↔
    ∀ scalar ∈ value.scalar?, scalar.IsReadable := by
  rw [accepts, relateOptional_self]
  exact forall₂_congr fun scalar held => numericallyEqual_self_iff proper (plain.scalar scalar held)

theorem frequencyList_accepts_self_iff : (frequencyList tolerance).accepts value value = true ↔
    ∀ entries ∈ value.frequency?, ∀ entry ∈ entries, entry.count ≠ none := by
  rw [accepts, relateLists_self]
  have counted (entry : FrequencyEntry) (member : entry ∈ value.frequency?.getD []) :=
    entriesEqual_self_iff proper (FrequencyEntry.isPlain_of_mem_getD plain.frequency member)
  rw [forall₂_congr counted]
  cases value.frequency? <;> simp

end ComparisonKind

/-! ## Statistics against themselves -/

theorem Verdict.eq_partialPass_iff {verdict : Verdict} :
    verdict = .partialPass ↔ ¬verdict = .fail ∧ ¬verdict = .pass := by
  cases verdict <;> simp

namespace StatRow

/-- A statistic that has to be a number is there, but has no finite reading. -/
def HasUnreadable (row : StatRow) : Prop :=
  ∃ field ∈ [StatField.mean, .std, .sum, .sumSq], ∃ scalar,
    row.get field = .scalar (some scalar) ∧ ¬scalar.IsReadable

/-- A frequency has no count. -/
def HasUncounted (row : StatRow) : Prop :=
  ∃ entries, row.frequency = some entries ∧ ∃ entry ∈ entries, entry.count = none

end StatRow

namespace StatSchema

variable {row : StatRow} (plain : row.IsPlain) (proper : tolerance.IsProper)

theorem forgives_self (schema : StatSchema) (kind : ComparisonKind) (value : StatValue) :
    schema.forgives kind value value = false := by
  cases value with
  | scalar value =>
      rw [forgives, ComparisonKind.isZeroAgainstNull_self, Bool.and_false]
  | frequency => rfl

/-- Under the standard schema a statistic is judged by its default. -/
theorem agrees_standard_self (field : StatField) :
    (standard.withTolerance tolerance).agrees ⟨row, row⟩ field =
      (field.defaultKind.withTolerance tolerance).accepts (row.get field) (row.get field) := by
  rw [agrees, accepts, forgives_self, Bool.or_false, kindOf_withTolerance, kindOf_standard]

include plain proper

/-- What differs from itself: a number without a finite reading, and a list with a count that
lacks. -/
theorem agrees_self_eq_false_iff (field : StatField) :
    (standard.withTolerance tolerance).agrees ⟨row, row⟩ field = false ↔
      (field ∈ [StatField.mean, .std, .sum, .sumSq] ∧
        ∃ scalar, row.get field = .scalar (some scalar) ∧ ¬scalar.IsReadable) ∨
      (field = .frequency ∧ row.HasUncounted) := by
  rw [agrees_standard_self, ← Bool.not_eq_true]
  have plainValue := plain.get field
  cases field
  case count | distinct | missing =>
    exact iff_of_false
      (not_not.mpr (ComparisonKind.exactWithZeroAsNull_accepts_self plainValue)) (by simp)
  case min | max =>
    exact iff_of_false
      (not_not.mpr (ComparisonKind.flexibleString_accepts_self plainValue proper _ _)) (by simp)
  case mean | std | sum | sumSq =>
    refine (not_congr (ComparisonKind.numericTolerance_accepts_self_iff plainValue proper)).trans ?_
    simp [StatRow.get, StatValue.scalar?]
  case frequency =>
    refine (not_congr (ComparisonKind.frequencyList_accepts_self_iff plainValue proper)).trans ?_
    simp [StatRow.get, StatValue.frequency?, StatRow.HasUncounted]

theorem verdict_self_eq_fail_iff (column : String) :
    ((standard.withTolerance tolerance).compareRows column ⟨row, row⟩).verdict = .fail ↔
      row.HasUnreadable := by
  rw [verdict_eq_fail_iff]
  simp only [mem_differing, agrees_self_eq_false_iff plain proper]
  constructor
  · rintro ⟨field, ⟨member, unreadable⟩ | ⟨rfl, -⟩, other⟩
    · exact ⟨field, member, unreadable⟩
    · exact absurd rfl other
  · rintro ⟨field, member, unreadable⟩
    refine ⟨field, .inl ⟨member, unreadable⟩, ?_⟩
    rintro rfl
    exact absurd member (by decide)

theorem verdict_self_eq_pass_iff (column : String) :
    ((standard.withTolerance tolerance).compareRows column ⟨row, row⟩).verdict = .pass ↔
      ¬row.HasUnreadable ∧ ¬row.HasUncounted := by
  rw [verdict_eq_pass_iff, List.eq_nil_iff_forall_not_mem]
  simp only [mem_differing, agrees_self_eq_false_iff plain proper]
  constructor
  · intro none
    refine ⟨?_, fun uncounted => none .frequency (.inr ⟨rfl, uncounted⟩)⟩
    rintro ⟨field, member, unreadable⟩
    exact none field (.inl ⟨member, unreadable⟩)
  · rintro ⟨readable, counted⟩ field (⟨member, unreadable⟩ | ⟨-, uncounted⟩)
    · exact readable ⟨field, member, unreadable⟩
    · exact counted uncounted

/-- **A row agrees with itself where it can be read.** It fails if a statistic that has to be a
number has no finite reading, else passes in part if a frequency has no count, and passes
otherwise. -/
theorem compare_self (column : String) :
    ∃ result, (standard.withTolerance tolerance).compare column ⟨some row, some row⟩ =
        .compared result ∧
      (result.verdict = .fail ↔ row.HasUnreadable) ∧
      (result.verdict = .partialPass ↔ ¬row.HasUnreadable ∧ row.HasUncounted) ∧
      (result.verdict = .pass ↔ ¬row.HasUnreadable ∧ ¬row.HasUncounted) := by
  have fails := verdict_self_eq_fail_iff plain proper column
  have passes := verdict_self_eq_pass_iff plain proper column
  refine ⟨_, rfl, fails, ?_, passes⟩
  rw [Verdict.eq_partialPass_iff, fails, passes]
  constructor
  · rintro ⟨readable, unclear⟩
    exact ⟨readable, not_not.mp fun counted => unclear ⟨readable, counted⟩⟩
  · rintro ⟨readable, uncounted⟩
    exact ⟨readable, fun clear => clear.2 uncounted⟩

omit plain proper in
/-- A row of texts, whose last frequency has no count. -/
theorem compare_self_uncounted :
    let row : StatRow :=
      { min := some (.text "2024-01-05"), mean := some (.text " -1.5e0"),
        frequency := some [⟨"a||b", some 2⟩, ⟨"c::d", none⟩] }
    row.IsPlain ∧ Tolerance.standard.IsProper ∧
      ∃ result, (standard.withTolerance .standard).compare "A" ⟨some row, some row⟩ =
        .compared result ∧ result.verdict = .partialPass := by
  intro row
  have plain : row.IsPlain := by
    constructor
    · intro field value held
      cases field <;> cases held <;> trivial
    · rintro entries ⟨⟩ entry member count counted
      rcases List.mem_pair.mp member with rfl | rfl <;> cases counted
      decide
  obtain ⟨result, compared, -, passesInPart, -⟩ := compare_self plain Tolerance.standard_isProper "A"
  refine ⟨plain, Tolerance.standard_isProper, result, compared, passesInPart.mpr ⟨?_, ?_⟩⟩
  · rintro ⟨field, member, scalar, held, unreadable⟩
    cases field <;> cases held
    · exact absurd member (by decide)
    · exact unreadable ((Option.any_eq_true _ _).mp (by decide +kernel))
  · exact ⟨_, rfl, ⟨"c::d", none⟩, by decide, rfl⟩

end StatSchema

end Reconciliation
