import Reconciliation.Proofs.Statistic.Agreement
import Reconciliation.Proofs.Statistic.CommonReading
import Reconciliation.Proofs.Statistic.Tolerance
import Reconciliation.Proofs.Statistic.Value
import Reconciliation.Statistic.Outcome

/-! # Sides exchanged

Tolerances that do not grow with the second number are nearly all that tells the sides of a
comparison apart. Under a schema without any other, exchanging the sides exchanges all that the
comparison tells of either side, and leaves the verdict and the table of agreement as they are,
exactly if no statistic is lopsided (`StatSchema.compare_swap_iff`): compared as a number within an
infinite tolerance, infinite on one side and finite on the other.
-/

namespace Reconciliation

/-! ## Values exchanged -/

theorem Scalar.exactlyEqual_comm (left right : Scalar) :
    left.exactlyEqual right = right.exactlyEqual left := by
  cases left with
  | integer a =>
      cases right with
      | integer b => exact Bool.beq_comm
      | float b => exact Binary64.eq_swap _ b
      | text b => rfl
  | float a =>
      cases right with
      | integer b => exact Binary64.eq_swap a _
      | float b => exact Binary64.eq_swap a b
      | text b => rfl
  | text a =>
      cases right with
      | integer b => rfl
      | float b => rfl
      | text b => exact Bool.beq_comm

/-- A scalar that is infinite denotes no day. -/
theorem Scalar.recognise?_of_isInfinite {scalar : Scalar} {number : Binary64}
    (view : scalar.number? = some number) (infinite : number.isInfinite = true) :
    Date.recognise? scalar.display = none := by
  obtain ⟨negative, rfl⟩ := exists_float_of_isInfinite view infinite
  cases negative <;> decide +kernel

namespace ComparisonKind

theorem isZeroAgainstNull_comm (left right : Option Scalar) :
    isZeroAgainstNull left right = isZeroAgainstNull right left := by
  cases left <;> cases right <;> rfl

theorem relateOptional_comm_iff {relate : Scalar → Scalar → Bool} {left right : Option Scalar} :
    relateOptional relate left right = relateOptional relate right left ↔
      ∀ a ∈ left, ∀ b ∈ right, relate a b = relate b a := by
  cases left <;> cases right <;> simp [relateOptional]

theorem relateLists_comm {α : Type} {relate : α → α → Bool} {left right : List α}
    (comm : ∀ a ∈ left, ∀ b ∈ right, relate a b = relate b a) :
    relateLists relate left right = relateLists relate right left := by
  induction left generalizing right with
  | nil => cases right <;> rfl
  | cons a as ih =>
      cases right with
      | nil => rfl
      | cons b bs =>
          rw [relateLists, relateLists, comm a List.mem_cons_self b List.mem_cons_self]
          congr 1
          exact ih fun a inLeft b inRight =>
            comm a (List.mem_cons_of_mem _ inLeft) b (List.mem_cons_of_mem _ inRight)

section

variable {tolerance : Tolerance} (constant : tolerance.IsConstant)
include constant

theorem numericallyEqual_comm_iff {left right : Scalar} :
    numericallyEqual tolerance left right = numericallyEqual tolerance right left ↔
      ∀ a ∈ left.number?, ∀ b ∈ right.number?, ¬tolerance.IsLopsided a b := by
  unfold numericallyEqual
  cases left.number? with
  | none => cases right.number? <;> simp
  | some a =>
      cases right.number? with
      | none => simp
      | some b => simp [constant.accepts_comm_iff]

theorem flexiblyEqual_comm_iff {left right : Scalar} (tryDate tryNumeric : Bool) :
    flexiblyEqual tryDate tryNumeric tolerance left right =
        flexiblyEqual tryDate tryNumeric tolerance right left ↔
      (tryNumeric = true →
        ∀ a ∈ left.number?, ∀ b ∈ right.number?, ¬tolerance.IsLopsided a b) := by
  rw [flexiblyEqual_eq_agrees, flexiblyEqual_eq_agrees, commonReading_swap _ _ left right]
  constructor
  · intro same wanted a leftView b rightView lopsided
    -- the infinite one of the two denotes no day, so they are compared as numbers
    have noDays : readBoth? tryDate (Date.recognise? ·.display) left right = none := by
      rcases lopsided.2 with ⟨infinite, -⟩ | ⟨-, infinite⟩
      · exact readBoth?_eq_none tryDate (.inl (Scalar.recognise?_of_isInfinite leftView infinite))
      · exact readBoth?_eq_none tryDate (.inr (Scalar.recognise?_of_isInfinite rightView infinite))
    have reading : commonReading tryDate tryNumeric left right = .numbers a b :=
      (commonReading_eq_numbers_iff ..).mpr ⟨noDays, wanted, leftView, rightView⟩
    rw [reading] at same
    exact constant.accepts_comm_iff.mp same lopsided
  · intro balanced
    cases reading : commonReading tryDate tryNumeric left right with
    | days a b => exact decide_eq_decide.mpr eq_comm
    | numbers a b =>
        obtain ⟨-, wanted, leftView, rightView⟩ := (commonReading_eq_numbers_iff ..).mp reading
        exact constant.accepts_comm_iff.mpr (balanced wanted a leftView b rightView)
    | texts a b => exact Bool.beq_comm

/-- Neither the texts of two entries nor their counts are read as infinite. -/
theorem entriesEqual_comm {left right : FrequencyEntry} (leftPlain : left.IsPlain)
    (rightPlain : right.IsPlain) :
    entriesEqual tolerance left right = entriesEqual tolerance right left := by
  have values : flexiblyEqual true true tolerance (.text left.value) (.text right.value) =
      flexiblyEqual true true tolerance (.text right.value) (.text left.value) :=
    (flexiblyEqual_comm_iff constant true true).mpr fun _ a leftView b rightView =>
      Tolerance.not_isLopsided_of_isFinite ((Scalar.isPlain_text _).isFinite leftView)
        ((Scalar.isPlain_text _).isFinite rightView)
  unfold entriesEqual
  rw [values]
  congr 1
  cases leftCount : left.count with
  | none => cases right.count <;> rfl
  | some a =>
      cases rightCount : right.count with
      | none => rfl
      | some b =>
          exact constant.accepts_comm_iff.mpr <| Tolerance.not_isLopsided_of_isFinite
            (leftPlain.isFinite leftCount) (rightPlain.isFinite rightCount)

end

/-- A kind has no tolerance that grows with the numbers. -/
def IsConstant (kind : ComparisonKind) : Prop :=
  ∀ tolerance ∈ kind.tolerance?, tolerance.IsConstant

theorem isConstant_withTolerance (kind : ComparisonKind) {tolerance : Tolerance}
    (constant : tolerance.IsConstant) : (kind.withTolerance tolerance).IsConstant := by
  intro other held
  cases kind with
  | exact | exactWithZeroAsNull => cases held
  | numericTolerance | flexibleString | frequencyList =>
      cases held
      exact constant

/-- The tolerance of a kind that compares scalars as numbers. -/
def scalarTolerance? : ComparisonKind → Option Tolerance
  | .numericTolerance tolerance => some tolerance
  | .flexibleString _ true tolerance => some tolerance
  | _ => none

/-- A kind compares two values as numbers within an infinite tolerance, of which one is infinite and
the other finite. -/
def IsLopsided (kind : ComparisonKind) (left right : StatValue) : Prop :=
  ∃ tolerance ∈ kind.scalarTolerance?, ∃ scalar ∈ left.scalar?, ∃ other ∈ right.scalar?,
    ∃ a ∈ scalar.number?, ∃ b ∈ other.number?, tolerance.IsLopsided a b

instance (kind : ComparisonKind) (left right : StatValue) :
    Decidable (kind.IsLopsided left right) :=
  inferInstanceAs (Decidable (∃ _ ∈ _, _))

theorem not_isLopsided {kind : ComparisonKind} (none : kind.scalarTolerance? = none)
    (left right : StatValue) : ¬kind.IsLopsided left right := by
  rintro ⟨tolerance, held, -⟩
  cases none.symm.trans held

/-- **A kind without a growing tolerance treats both values alike, be they scalars or lists, unless
it is lopsided between them.** -/
theorem accepts_comm_iff {kind : ComparisonKind} (constant : kind.IsConstant)
    {left right : StatValue}
    (leftPlain : ∀ entries ∈ left.frequency?, ∀ entry ∈ entries, entry.IsPlain)
    (rightPlain : ∀ entries ∈ right.frequency?, ∀ entry ∈ entries, entry.IsPlain) :
    kind.accepts left right = kind.accepts right left ↔ ¬kind.IsLopsided left right := by
  have exactly : relateOptional Scalar.exactlyEqual left.scalar? right.scalar? =
      relateOptional Scalar.exactlyEqual right.scalar? left.scalar? :=
    relateOptional_comm_iff.mpr fun a _ b _ => Scalar.exactlyEqual_comm a b
  cases kind with
  | exact => exact iff_of_true exactly (not_isLopsided rfl left right)
  | exactWithZeroAsNull =>
      rw [accepts, accepts, isZeroAgainstNull_comm, exactly]
      exact iff_of_true rfl (not_isLopsided rfl left right)
  | numericTolerance tolerance =>
      rw [accepts, accepts, relateOptional_comm_iff]
      simp [numericallyEqual_comm_iff (constant tolerance rfl), IsLopsided, scalarTolerance?]
  | flexibleString tryDate tryNumeric tolerance =>
      rw [accepts, accepts, relateOptional_comm_iff]
      cases tryNumeric <;>
        simp [flexiblyEqual_comm_iff (constant tolerance rfl), IsLopsided, scalarTolerance?]
  | frequencyList tolerance =>
      refine iff_of_true (relateLists_comm fun a left b right => ?_) (not_isLopsided rfl _ _)
      exact entriesEqual_comm (constant tolerance rfl)
        (FrequencyEntry.isPlain_of_mem_getD leftPlain left)
        (FrequencyEntry.isPlain_of_mem_getD rightPlain right)

end ComparisonKind

/-! ## Comparisons exchanged -/

/-- A statistic that differs, with its sides exchanged. -/
def StatMismatch.swap (mismatch : StatMismatch) : StatMismatch :=
  { mismatch with values := mismatch.values.swap }

/-- The comparison of the sides exchanged: the verdict and the table of agreement stay. -/
def ComparisonResult.swap (result : ComparisonResult) : ComparisonResult :=
  { result with
    mismatches := result.mismatches.map StatMismatch.swap
    types := result.types.swap
    rows := result.rows.swap }

theorem ComparisonResult.agreement_swap (result : ComparisonResult) :
    result.swap.agreement = result.agreement := rfl

namespace StatSchema

variable {schema : StatSchema} {rows : Both StatRow}

theorem forgives_comm (kind : ComparisonKind) (left right : StatValue) :
    schema.forgives kind left right = schema.forgives kind right left := by
  cases left with
  | scalar a =>
      cases right with
      | scalar b => rw [forgives, forgives, ComparisonKind.isZeroAgainstNull_comm]
      | frequency => rfl
  | frequency => cases right <;> rfl

/-- A statistic is lopsided: compared as a number within an infinite tolerance, infinite on one side
and finite on the other. -/
def IsLopsided (schema : StatSchema) (rows : Both StatRow) (field : StatField) : Prop :=
  (schema.kindOf field).IsLopsided (rows.legacy.get field) (rows.cloud.get field)

instance (schema : StatSchema) (rows : Both StatRow) (field : StatField) :
    Decidable (schema.IsLopsided rows field) :=
  inferInstanceAs (Decidable (ComparisonKind.IsLopsided _ _ _))

/-- The policy on zero and NULL does not meet two numbers. -/
theorem forgives_of_isLopsided {kind : ComparisonKind} {left right : StatValue}
    (lopsided : kind.IsLopsided left right) : schema.forgives kind left right = false := by
  obtain ⟨-, -, a, leftHeld, b, rightHeld, -⟩ := lopsided
  cases left with
  | frequency => rfl
  | scalar =>
      cases right with
      | frequency => rfl
      | scalar =>
          cases leftHeld
          cases rightHeld
          exact Bool.and_false _

section

variable (constant : ∀ field, (schema.kindOf field).IsConstant)
  (plain : ∀ platform, (rows.on platform).HasPlainFrequencies)
include constant plain

theorem agrees_swap_iff (field : StatField) :
    schema.agrees rows.swap field = schema.agrees rows field ↔ ¬schema.IsLopsided rows field := by
  have alike : (schema.kindOf field).accepts (rows.legacy.get field) (rows.cloud.get field) =
        (schema.kindOf field).accepts (rows.cloud.get field) (rows.legacy.get field) ↔
      ¬schema.IsLopsided rows field :=
    ComparisonKind.accepts_comm_iff (constant field) ((plain .legacy).get field)
      ((plain .cloud).get field)
  change schema.accepts _ (rows.cloud.get field) (rows.legacy.get field) =
    schema.accepts _ (rows.legacy.get field) (rows.cloud.get field) ↔ _
  rw [accepts, accepts, forgives_comm]
  by_cases lopsided : schema.IsLopsided rows field
  · rw [forgives_of_isLopsided lopsided, Bool.or_false, Bool.or_false, eq_comm]
    exact alike
  · rw [alike.mpr lopsided]
    exact iff_of_true rfl lopsided

theorem compareRows_swap (column : String) (balanced : ∀ field, ¬schema.IsLopsided rows field) :
    schema.compareRows column rows.swap = (schema.compareRows column rows).swap := by
  have agreement : schema.agrees rows.swap = schema.agrees rows :=
    funext fun field => (agrees_swap_iff constant plain field).mpr (balanced field)
  have shown : (fun field => (⟨field, rows.swap.map fun row => (row.get field).display?⟩ :
        StatMismatch)) =
      StatMismatch.swap ∘ fun field => ⟨field, rows.map fun row => (row.get field).display?⟩ :=
    rfl
  simp only [compareRows, ComparisonResult.swap, agreement, shown, List.map_map]
  rfl

/-- **Exchanging the sides of a comparison mirrors it** exactly if no statistic is lopsided, where
no tolerance grows with the numbers. The table of agreement changes at the lopsided statistics
only. -/
theorem compare_swap_iff (column : String) :
    ∃ result exchanged, schema.compare column (rows.map some) = .compared result ∧
      schema.compare column (rows.swap.map some) = .compared exchanged ∧
      (exchanged = result.swap ↔ ∀ field, ¬schema.IsLopsided rows field) ∧
      ∀ field, exchanged.agreement.get? field = result.agreement.get? field ↔
        ¬schema.IsLopsided rows field := by
  have table (field : StatField) :
      (schema.compareRows column rows.swap).agreement.get? field =
          (schema.compareRows column rows).agreement.get? field ↔
        ¬schema.IsLopsided rows field := by
    rw [get?_agreement, get?_agreement, Option.some_inj]
    exact agrees_swap_iff constant plain field
  refine ⟨schema.compareRows column rows, schema.compareRows column rows.swap, rfl, rfl,
    ⟨fun mirrored field => (table field).mp ?_, compareRows_swap constant plain column⟩, table⟩
  rw [mirrored, ComparisonResult.agreement_swap]

end

theorem isConstant_kindOf_withTolerance (schema : StatSchema) {tolerance : Tolerance}
    (constant : tolerance.IsConstant) (field : StatField) :
    ((schema.withTolerance tolerance).kindOf field).IsConstant := by
  rw [kindOf_withTolerance]
  exact ComparisonKind.isConstant_withTolerance _ constant

/-- A scalar is judged as a frequency list, a frequency list by a zero policy, and numbers that are
not finite within an infinite tolerance. -/
theorem compare_swap_iff_mixed :
    let tolerance : Tolerance := ⟨.infinite false, .zero⟩
    let schema := ((standard.withKind .count (.frequencyList .standard)).withKind .frequency
      .exactWithZeroAsNull).withTolerance tolerance
    let rows : Both StatRow :=
      ⟨{ count := some (.text "a::1||b::3"), mean := some (.float .nan),
          std := some (.float (.infinite false)), sum := some (.integer 0) },
        { count := some (.text "a::2||c::3"), mean := some (.integer 5),
          std := some (.float (.infinite true)), frequency := some [] }⟩
    (∀ field, (schema.kindOf field).IsConstant) ∧
      (∀ platform, (rows.on platform).HasPlainFrequencies) ∧
      ∃ result, schema.compare "A" (rows.map some) = .compared result ∧
        schema.compare "A" (rows.swap.map some) = .compared result.swap ∧
        result.verdict = .fail := by
  intro tolerance schema rows
  have constant : ∀ field, (schema.kindOf field).IsConstant :=
    isConstant_kindOf_withTolerance _ (Tolerance.isConstant_zero _)
  have plain : ∀ platform, (rows.on platform).HasPlainFrequencies := by
    rintro (_ | _) entries listed
    · cases listed
    · cases listed
      nofun
  have balanced : ∀ field, ¬schema.IsLopsided rows field := by
    intro field
    cases field <;> decide +kernel
  obtain ⟨result, exchanged, compared, swapped, mirrored, -⟩ := compare_swap_iff constant plain "A"
  refine ⟨constant, plain, result, compared, mirrored.mpr balanced ▸ swapped, ?_⟩
  have fails : (schema.compare "A" (rows.map some)).verdict? = some .fail := by decide +kernel
  rw [compared] at fails
  exact Option.some.inj fails

/-- A column may pass on one side and fail on the other: where a statistic is lopsided, and where a
statistic that the schema does not list has a default tolerance that grows. -/
theorem verdict_changes_with_sides :
    (let schema := standard.withTolerance ⟨.infinite false, .zero⟩
      let rows : Both StatRow :=
        ⟨{ mean := some (.float (.infinite false)) }, { mean := some (.integer 5) }⟩
      (∀ field, (schema.kindOf field).IsConstant) ∧
        (schema.compare "A" (rows.map some)).verdict? = some .pass ∧
        (schema.compare "A" (rows.swap.map some)).verdict? = some .fail) ∧
    (let schema : StatSchema := ⟨.empty, true⟩
      let rows : Both StatRow :=
        ⟨{ mean := some (.integer 2000000) }, { mean := some (.integer 1999998) }⟩
      (∀ kind ∈ schema.kinds.values, kind.IsConstant) ∧
        (schema.compare "A" (rows.map some)).verdict? = some .fail ∧
        (schema.compare "A" (rows.swap.map some)).verdict? = some .pass) := by
  constructor
  · intro schema rows
    have constant : ∀ field, (schema.kindOf field).IsConstant :=
      isConstant_kindOf_withTolerance _ (Tolerance.isConstant_zero _)
    exact ⟨constant, by decide +kernel, by decide +kernel⟩
  · intro schema rows
    refine ⟨fun kind listed => ?_, by decide +kernel, by decide +kernel⟩
    cases listed

end StatSchema

end Reconciliation
