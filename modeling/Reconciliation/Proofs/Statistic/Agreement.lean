import Mathlib.Data.List.Nodup
import Reconciliation.Proofs.Statistic.Schema
import Reconciliation.Statistic.Outcome

/-! # The comparison of a column tells one story

A comparison says three times how the statistics of a column compare: by a table of which agree, by
a list of those that differ, and by a verdict. Whatever the schema lists, the table has all
statistics (`entries_agreement`), the list has those that the table says differ, and the verdict is
the one that either of them calls for (`compare_consistent`). So a column fails as soon as any
statistic other than the frequency list differs.
-/

namespace Reconciliation

namespace Verdict

variable {others frequency : Bool}

theorem ofAgreement_eq_pass_iff :
    ofAgreement others frequency = .pass ↔ others = true ∧ frequency = true := by
  cases others <;> cases frequency <;> simp [ofAgreement]

theorem ofAgreement_eq_partialPass_iff :
    ofAgreement others frequency = .partialPass ↔ others = true ∧ frequency = false := by
  cases others <;> cases frequency <;> simp [ofAgreement]

theorem ofAgreement_eq_fail_iff : ofAgreement others frequency = .fail ↔ others = false := by
  cases others <;> cases frequency <;> simp [ofAgreement]

/-- The verdict that a table of agreement calls for. A frequency list that it lacks does not
differ. -/
def ofTable (table : SortedMap StatField Bool) : Verdict :=
  .ofAgreement (table.entries.all fun (field, agrees) => field.isFrequency || agrees)
    ((table.get? .frequency).getD true)

end Verdict

namespace StatSchema

variable (schema : StatSchema) (column : String) (rows : Both StatRow)

/-! ## The table and the list -/

/-- The table of agreement holds every statistic once, in order. -/
theorem entries_agreement :
    (schema.compareRows column rows).agreement.entries =
      StatField.all.map fun field => (field, schema.agrees rows field) := by
  refine (SortedMap.entries_ofList_map StatField.all (schema.agrees rows)).trans ?_
  rw [SortedMap.distinct_eq_self StatField.all_pairwise]

theorem keys_agreement : (schema.compareRows column rows).agreement.keys = StatField.all := by
  rw [SortedMap.keys, entries_agreement, List.map_map, Function.comp_def, List.map_id']

theorem get?_agreement (field : StatField) :
    (schema.compareRows column rows).agreement.get? field = some (schema.agrees rows field) := by
  rw [SortedMap.get?_eq_some_iff, entries_agreement]
  exact List.mem_map.mpr ⟨field, field.mem_all, rfl⟩

/-- The statistics that differ. -/
def differing : List StatField :=
  StatField.all.filter fun field => !schema.agrees rows field

theorem mem_differing {field : StatField} :
    field ∈ schema.differing rows ↔ schema.agrees rows field = false := by
  rw [differing, List.mem_filter, Bool.not_eq_true']
  exact and_iff_right field.mem_all

theorem differing_pairwise : (schema.differing rows).Pairwise (· < ·) :=
  StatField.all_pairwise.filter _

theorem statistics_mismatches :
    (schema.compareRows column rows).mismatches.map StatMismatch.statistic =
      schema.differing rows := by
  rw [compareRows, List.map_map]
  exact List.map_id' _

theorem mem_mismatches_iff {mismatch : StatMismatch} :
    mismatch ∈ (schema.compareRows column rows).mismatches ↔
      schema.agrees rows mismatch.statistic = false ∧
        mismatch.values = rows.map fun row => (row.get mismatch.statistic).display? := by
  rw [← mem_differing]
  constructor
  · intro member
    obtain ⟨field, differs, rfl⟩ := List.mem_map.mp member
    exact ⟨differs, rfl⟩
  · intro ⟨differs, shown⟩
    refine List.mem_map.mpr ⟨mismatch.statistic, differs, ?_⟩
    rw [← shown]

/-! ## The verdict -/

theorem differing_all_isFrequency_iff :
    (schema.differing rows).all StatField.isFrequency = true ↔
      ∀ field ∈ schema.differing rows, field = .frequency := by
  simp only [List.all_eq_true, StatField.isFrequency, decide_eq_true_eq]

theorem verdict_compareRows :
    (schema.compareRows column rows).verdict =
      .ofAgreement ((schema.differing rows).all StatField.isFrequency)
        (schema.agrees rows .frequency) :=
  rfl

/-- The verdict may as well be read off the table. -/
theorem verdict_eq_ofTable :
    (schema.compareRows column rows).verdict =
      .ofTable (schema.compareRows column rows).agreement := by
  rw [verdict_compareRows, Verdict.ofTable, entries_agreement, get?_agreement, differing,
    List.all_filter, List.all_map]
  simp only [Bool.not_not, Bool.or_comm, Function.comp_def, Option.getD_some]

theorem verdict_eq_fail_iff :
    (schema.compareRows column rows).verdict = .fail ↔
      ∃ field ∈ schema.differing rows, field ≠ .frequency := by
  rw [verdict_compareRows, Verdict.ofAgreement_eq_fail_iff, ← Bool.not_eq_true,
    differing_all_isFrequency_iff]
  simp only [not_forall, exists_prop]

theorem verdict_eq_pass_iff :
    (schema.compareRows column rows).verdict = .pass ↔ schema.differing rows = [] := by
  rw [verdict_compareRows, Verdict.ofAgreement_eq_pass_iff, differing_all_isFrequency_iff,
    List.eq_nil_iff_forall_not_mem]
  constructor
  · rintro ⟨only, agrees⟩ field member
    obtain rfl := only field member
    rw [mem_differing, agrees] at member
    cases member
  · intro none
    refine ⟨fun field member => (none field member).elim, ?_⟩
    rw [← Bool.not_eq_false, ← mem_differing]
    exact none .frequency

theorem verdict_eq_partialPass_iff :
    (schema.compareRows column rows).verdict = .partialPass ↔
      schema.differing rows = [.frequency] := by
  have distinct : (schema.differing rows).Nodup :=
    SortedMap.nodup_of_pairwise_lt (schema.differing_pairwise rows)
  rw [verdict_compareRows, Verdict.ofAgreement_eq_partialPass_iff, differing_all_isFrequency_iff,
    ← mem_differing, ← List.perm_singleton,
    List.perm_ext_iff_of_nodup distinct (List.nodup_singleton _)]
  simp only [List.mem_singleton]
  constructor
  · rintro ⟨only, differs⟩ field
    exact ⟨only field, fun same => same ▸ differs⟩
  · intro same
    exact ⟨fun field member => (same field).mp member, (same .frequency).mpr rfl⟩

end StatSchema

/-- A comparison of two rows whose table, list and verdict tell the same. -/
structure ComparisonResult.Consistent (result : ComparisonResult) (schema : StatSchema)
    (rows : Both StatRow) : Prop where
  /-- The table has the statistics, and nothing else. -/
  keys : result.agreement.keys = StatField.all
  /-- A statistic is judged by its listed kind, or else by its default. -/
  judged : ∀ field, result.agreement.get? field =
    some (schema.accepts ((schema.kinds.get? field).getD field.defaultKind)
      (rows.legacy.get field) (rows.cloud.get field))
  /-- The list has the statistics that differ by the table. -/
  listed : ∀ field, field ∈ result.mismatches.map StatMismatch.statistic ↔
    result.agreement.get? field = some false
  /-- It has them once each, in reporting order. -/
  ordered : (result.mismatches.map StatMismatch.statistic).Pairwise (· < ·)
  /-- It shows the values of both sides. -/
  values : ∀ mismatch ∈ result.mismatches, ∀ platform,
    mismatch.values.on platform = ((rows.on platform).get mismatch.statistic).display?
  /-- The verdict is the one that the table calls for. -/
  tabled : result.verdict = .ofTable result.agreement
  /-- The column passes if nothing differs. -/
  pass : result.verdict = .pass ↔ result.mismatches = []
  /-- The column passes in part if only the frequency list differs. -/
  partialPass : result.verdict = .partialPass ↔
    result.mismatches.map StatMismatch.statistic = [.frequency]
  /-- The column fails if anything else differs. -/
  fail : result.verdict = .fail ↔
    ∃ mismatch ∈ result.mismatches, mismatch.statistic ≠ .frequency

namespace StatSchema

theorem consistent_compareRows (schema : StatSchema) (column : String) (rows : Both StatRow) :
    (schema.compareRows column rows).Consistent schema rows where
  keys := keys_agreement schema column rows
  judged := get?_agreement schema column rows
  listed field := by
    rw [statistics_mismatches, mem_differing, get?_agreement, Option.some.injEq]
  ordered := by
    rw [statistics_mismatches]
    exact differing_pairwise schema rows
  values mismatch member platform := by
    rw [((mem_mismatches_iff schema column rows).mp member).2, Both.on_map]
  tabled := verdict_eq_ofTable schema column rows
  pass := by
    rw [verdict_eq_pass_iff, ← statistics_mismatches schema column, List.map_eq_nil_iff]
  partialPass := by
    rw [verdict_eq_partialPass_iff, statistics_mismatches]
  fail := by
    rw [verdict_eq_fail_iff, ← statistics_mismatches schema column]
    simp only [List.mem_map, exists_exists_and_eq_and]

/-- **A comparison is consistent**, whatever kinds the schema lists. If for other rows a statistic
differs that agreed before, and it is not the frequency list, then they fail, however their
frequency lists compare. -/
theorem compare_consistent (schema : StatSchema) (column : String) (rows : Both StatRow) :
    ∃ result, schema.compare column (rows.map some) = .compared result ∧
      result.Consistent schema rows ∧
      ∀ (changed : Both StatRow) (changedResult : ComparisonResult) (field : StatField),
        schema.compare column (changed.map some) = .compared changedResult →
        field ≠ .frequency → result.agreement.get? field = some true →
        changedResult.agreement.get? field = some false → changedResult.verdict = .fail := by
  refine ⟨_, rfl, consistent_compareRows schema column rows, ?_⟩
  intro changed changedResult field compared notFrequency _ differs
  obtain rfl : schema.compareRows column changed = changedResult :=
    ColumnOutcome.compared.inj compared
  rw [verdict_eq_fail_iff]
  rw [get?_agreement, Option.some.injEq] at differs
  exact ⟨field, (mem_differing schema changed).mpr differs, notFrequency⟩

/-- The count changes on one side, with nothing listed for it. -/
theorem compare_consistent_count :
    let schema : StatSchema := ⟨.ofList [(.sum, .exact)], false⟩
    let rows : Both StatRow := ⟨{ count := some (.integer 10) }, { count := some (.integer 10) }⟩
    let changed : Both StatRow :=
      ⟨{ count := some (.integer 10) }, { count := some (.integer 11), frequency := some [] }⟩
    (schema.compareRows "A" rows).agreement.get? .count = some true ∧
      (schema.compareRows "A" changed).agreement.get? .count = some false ∧
      (schema.compareRows "A" changed).verdict = .fail := by
  intro schema rows changed
  obtain ⟨result, compared, -, turned⟩ := compare_consistent schema "A" rows
  obtain rfl : schema.compareRows "A" rows = result := ColumnOutcome.compared.inj compared
  have agreed : (schema.compareRows "A" rows).agreement.get? .count = some true :=
    (get?_agreement schema "A" rows .count).trans (congrArg some (by decide))
  have differs : (schema.compareRows "A" changed).agreement.get? .count = some false :=
    (get?_agreement schema "A" changed .count).trans (congrArg some (by decide))
  exact ⟨agreed, differs, turned changed _ .count rfl (by decide) agreed differs⟩

end StatSchema

end Reconciliation
