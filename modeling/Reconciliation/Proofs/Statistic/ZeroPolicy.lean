import Reconciliation.Proofs.Statistic.Loosening

/-! # The policy on zero and NULL

A schema may take zero on one side and NULL on the other for equal. The policy decides only where
scalars are compared within a tolerance (`StatSchema.agrees_lenient_iff`): the kind that counts are
compared by takes zero for NULL without it, and a frequency list is no scalar. So a comparison with
the policy differs from one without it in the statistics that the policy names, and in nothing else
(`StatSchema.compare_zeroAsNull`).
-/

namespace Reconciliation

/-! ## Zero against NULL -/

namespace Scalar

/-- A scalar denotes zero: as an integer, as a number of either sign, or as the text of one. -/
def ReadsAsZero : Scalar → Prop
  | .integer value => value = 0
  | .float value => ∃ negative, value = .finite negative 0 Binary64.representable_zero
  | .text value => ∃ negative, Binary64.ofText? (Text.trimBoth value.toList) =
      some (.finite negative 0 Binary64.representable_zero)

theorem isZero_iff_readsAsZero {scalar : Scalar} : scalar.isZero = true ↔ scalar.ReadsAsZero := by
  unfold isZero
  cases scalar with
  | integer value =>
      rw [number?, Option.any_some, Binary64.ofInt_eq_zero_iff]
      exact Int64.toInt_inj (y := 0)
  | float value => rw [number?, Option.any_some, Binary64.eq_zero_iff, ReadsAsZero]
  | text value =>
      rw [number?, ReadsAsZero, Option.any_eq_true]
      constructor
      · rintro ⟨number, read, isZero⟩
        obtain ⟨negative, rfl⟩ := Binary64.eq_zero_iff.mp isZero
        exact ⟨negative, (Option.filter_eq_some_iff.mp read).1⟩
      · rintro ⟨negative, read⟩
        refine ⟨_, Option.filter_eq_some_iff.mpr ⟨read, rfl⟩, ?_⟩
        exact Binary64.eq_zero_iff.mpr ⟨negative, rfl⟩

end Scalar

namespace ComparisonKind

variable {left right : Option Scalar}

theorem isZeroAgainstNull_iff :
    isZeroAgainstNull left right = true ↔
      (∃ scalar, left = some scalar ∧ scalar.ReadsAsZero ∧ right = none) ∨
        ∃ scalar, right = some scalar ∧ scalar.ReadsAsZero ∧ left = none := by
  cases left <;> cases right <;> simp [isZeroAgainstNull, Scalar.isZero_iff_readsAsZero]

/-- Values of which one lacks are not related, whatever the relation. -/
theorem relateOptional_eq_false (relate : Scalar → Scalar → Bool)
    (apart : isZeroAgainstNull left right = true) : relateOptional relate left right = false := by
  cases left <;> cases right <;> first | rfl | cases apart

end ComparisonKind

/-- A statistic is NULL on one side and a scalar that denotes zero on the other. -/
def ZeroAgainstNull (rows : Both StatRow) (field : StatField) : Prop :=
  ∃ platform scalar, (rows.on platform).get field = .scalar (some scalar) ∧ scalar.ReadsAsZero ∧
    (rows.on platform.other).get field = .scalar none

section

variable {rows : Both StatRow} {field : StatField}

theorem StatRow.exists_get_eq_scalar (row : StatRow) (notFrequency : field ≠ .frequency) :
    ∃ value, row.get field = .scalar value := by
  cases field <;> first | exact ⟨_, rfl⟩ | exact absurd rfl notFrequency

theorem ZeroAgainstNull.notFrequency (apart : ZeroAgainstNull rows field) :
    field ≠ .frequency := by
  rintro rfl
  obtain ⟨_, _, held, -⟩ := apart
  cases held

theorem zeroAgainstNull_iff {left right : Option Scalar}
    (legacy : rows.legacy.get field = .scalar left) (cloud : rows.cloud.get field = .scalar right) :
    ZeroAgainstNull rows field ↔ ComparisonKind.isZeroAgainstNull left right = true := by
  rw [ComparisonKind.isZeroAgainstNull_iff]
  constructor
  · intro ⟨platform, scalar, held, zero, lacking⟩
    cases platform with
    | legacy =>
        cases legacy.symm.trans held
        cases cloud.symm.trans lacking
        exact .inl ⟨scalar, rfl, zero, rfl⟩
    | cloud =>
        cases cloud.symm.trans held
        cases legacy.symm.trans lacking
        exact .inr ⟨scalar, rfl, zero, rfl⟩
  · rintro (⟨scalar, rfl, zero, rfl⟩ | ⟨scalar, rfl, zero, rfl⟩)
    · exact ⟨.legacy, scalar, legacy, zero, cloud⟩
    · exact ⟨.cloud, scalar, cloud, zero, legacy⟩

end

/-! ## What the policy decides -/

namespace StatSchema

variable (schema : StatSchema) (rows : Both StatRow) {field : StatField}

/-- The schema with the policy on zero and NULL on or off. -/
def withZeroAsNull (zeroAsNull : Bool) : StatSchema :=
  { schema with zeroAsNull }

/-- The policy on zero and NULL names a statistic. -/
structure Names (field : StatField) : Prop where
  notFrequency : field ≠ .frequency
  tolerant : ∃ tolerance, schema.kindOf field = .numericTolerance tolerance
  zeroAgainstNull : ZeroAgainstNull rows field

theorem forgives_iff (kind : ComparisonKind) :
    schema.forgives kind (rows.legacy.get field) (rows.cloud.get field) = true ↔
      schema.zeroAsNull = true ∧ kind.isNumeric = true ∧ ZeroAgainstNull rows field := by
  by_cases frequency : field = .frequency
  · subst frequency
    exact iff_of_false Bool.false_ne_true fun forgiven => forgiven.2.2.notFrequency rfl
  · obtain ⟨left, legacy⟩ := rows.legacy.exists_get_eq_scalar frequency
    obtain ⟨right, cloud⟩ := rows.cloud.exists_get_eq_scalar frequency
    rw [zeroAgainstNull_iff legacy cloud, legacy, cloud, forgives, Bool.and_eq_true,
      Bool.and_eq_true, and_assoc]

/-- Without the policy, the kind alone decides. -/
theorem agrees_strict : (schema.withZeroAsNull false).agrees rows field =
    (schema.kindOf field).accepts (rows.legacy.get field) (rows.cloud.get field) := by
  have unforgiven : (schema.withZeroAsNull false).forgives (schema.kindOf field)
      (rows.legacy.get field) (rows.cloud.get field) = false := by
    rw [← Bool.not_eq_true, forgives_iff]
    exact fun forgiven => Bool.false_ne_true forgiven.1
  exact (congrArg (_ || ·) unforgiven).trans (Bool.or_false _)

variable {schema rows}

/-- What the policy names differs without it. -/
theorem Names.agrees_strict_eq_false (named : schema.Names rows field) :
    (schema.withZeroAsNull false).agrees rows field = false := by
  obtain ⟨tolerance, tolerant⟩ := named.tolerant
  obtain ⟨left, legacy⟩ := rows.legacy.exists_get_eq_scalar named.notFrequency
  obtain ⟨right, cloud⟩ := rows.cloud.exists_get_eq_scalar named.notFrequency
  rw [agrees_strict, tolerant, legacy, cloud]
  exact ComparisonKind.relateOptional_eq_false _
    ((zeroAgainstNull_iff legacy cloud).mp named.zeroAgainstNull)

/-- The kind of the counts takes zero for NULL by itself. -/
theorem exactWithZeroAsNull_accepts (apart : ZeroAgainstNull rows field) :
    ComparisonKind.exactWithZeroAsNull.accepts (rows.legacy.get field) (rows.cloud.get field) =
      true := by
  obtain ⟨left, legacy⟩ := rows.legacy.exists_get_eq_scalar apart.notFrequency
  obtain ⟨right, cloud⟩ := rows.cloud.exists_get_eq_scalar apart.notFrequency
  rw [legacy, cloud, ComparisonKind.accepts, Bool.or_eq_true]
  exact .inl ((zeroAgainstNull_iff legacy cloud).mp apart)

/-- With the policy, what it names agrees as well, and nothing else does that did not before. -/
theorem agrees_lenient_iff : (schema.withZeroAsNull true).agrees rows field = true ↔
    (schema.withZeroAsNull false).agrees rows field = true ∨ schema.Names rows field := by
  rw [agrees_strict, agrees, accepts, Bool.or_eq_true, forgives_iff]
  change _ ∨ (true = true ∧ (schema.kindOf field).isNumeric = true ∧ _) ↔ _
  constructor
  · rintro (accepted | ⟨-, numeric, apart⟩)
    · exact .inl accepted
    · cases kind : schema.kindOf field with
      | exact | flexibleString | frequencyList =>
          rw [kind] at numeric
          cases numeric
      | exactWithZeroAsNull => exact .inl (exactWithZeroAsNull_accepts apart)
      | numericTolerance tolerance => exact .inr ⟨apart.notFrequency, ⟨tolerance, kind⟩, apart⟩
  · rintro (accepted | named)
    · exact .inl accepted
    · obtain ⟨tolerance, tolerant⟩ := named.tolerant
      rw [tolerant]
      exact .inr ⟨rfl, rfl, named.zeroAgainstNull⟩

/-- A comparison with the policy on zero and NULL differs from one without it in the statistics that
the policy names, and in nothing else. -/
structure DiffersAsNamed (schema : StatSchema) (rows : Both StatRow)
    (strict lenient : ComparisonResult) : Prop where
  /-- The tables have the same statistics. -/
  keys : strict.agreement.keys = StatField.all ∧ lenient.agreement.keys = StatField.all
  /-- They tell apart what the policy names. -/
  named : ∀ field, strict.agreement.get? field ≠ lenient.agreement.get? field ↔
    schema.Names rows field
  /-- What it names differs without it and agrees with it. -/
  turned : ∀ field, schema.Names rows field →
    strict.agreement.get? field = some false ∧ lenient.agreement.get? field = some true
  /-- What is counted is compared as before. -/
  counted : ∀ field, schema.kindOf field = .exactWithZeroAsNull →
    strict.agreement.get? field = lenient.agreement.get? field
  /-- The list loses what the policy names. -/
  listed : ∀ mismatch, mismatch ∈ lenient.mismatches ↔
    mismatch ∈ strict.mismatches ∧ ¬schema.Names rows mismatch.statistic
  /-- The verdict is no worse. -/
  verdict : strict.verdict.rank ≤ lenient.verdict.rank
  /-- All else that is told is the same. -/
  rest : lenient.column = strict.column ∧ lenient.types = strict.types ∧ lenient.rows = strict.rows

variable (schema rows)

theorem agrees_ne_iff : (schema.withZeroAsNull false).agrees rows field ≠
    (schema.withZeroAsNull true).agrees rows field ↔ schema.Names rows field := by
  constructor
  · intro apart
    by_contra unnamed
    refine apart (Bool.eq_iff_iff.mpr ?_)
    rw [agrees_lenient_iff]
    exact (or_iff_left unnamed).symm
  · intro named
    rw [named.agrees_strict_eq_false, agrees_lenient_iff.mpr (.inr named)]
    exact Bool.false_ne_true

theorem differsAsNamed_compareRows (column : String) :
    schema.DiffersAsNamed rows ((schema.withZeroAsNull false).compareRows column rows)
      ((schema.withZeroAsNull true).compareRows column rows) where
  keys := ⟨keys_agreement _ column rows, keys_agreement _ column rows⟩
  named field := by
    rw [get?_agreement, get?_agreement, ← agrees_ne_iff, Ne, Option.some_inj]
  turned field named := by
    rw [get?_agreement, get?_agreement, named.agrees_strict_eq_false,
      agrees_lenient_iff.mpr (.inr named)]
    exact ⟨rfl, rfl⟩
  counted field kind := by
    have unnamed : ¬schema.Names rows field := by
      intro named
      obtain ⟨tolerance, tolerant⟩ := named.tolerant
      cases kind.symm.trans tolerant
    rw [get?_agreement, get?_agreement]
    exact congrArg some (not_ne_iff.mp (mt (schema.agrees_ne_iff rows).mp unnamed))
  listed mismatch := by
    rw [mem_mismatches_iff, mem_mismatches_iff, ← Bool.not_eq_true, ← Bool.not_eq_true,
      agrees_lenient_iff, not_or, and_right_comm]
  verdict := rank_verdict_le_of_agrees column fun _ agreed => agrees_lenient_iff.mpr (.inl agreed)
  rest := ⟨rfl, rfl, rfl⟩

/-- **The policy on zero and NULL changes nothing but what it names**, whatever the schema lists. -/
theorem compare_zeroAsNull (column : String) :
    ∃ strict lenient,
      (schema.withZeroAsNull false).compare column (rows.map some) = .compared strict ∧
      (schema.withZeroAsNull true).compare column (rows.map some) = .compared lenient ∧
      schema.DiffersAsNamed rows strict lenient :=
  ⟨_, _, rfl, rfl, schema.differsAsNamed_compareRows rows column⟩

end StatSchema

end Reconciliation
