import Reconciliation.Proofs.Vintage.Alignment

/-! # Days left out

A comparison of row counts lists exactly the days whose numbers differ, where a day that one side
lacks has no rows there (`mem_mismatchedDates_compare`). The vintages of partitioned tables leave
out the days of this list that lie in their windows, so the days that remain agree on both sides
(`validated_vintages_exclude`).
-/

namespace Reconciliation

/-! ## Mismatched days -/

namespace RowCountComparison

/-- A day that a table lacks has no rows. -/
theorem countOn_eq_zero {counts : RowCounts} {date : Date} (missing : date ∉ counts.keys) :
    countOn counts date = 0 := by
  rw [countOn, SortedMap.get?_eq_none_iff.mpr missing, Option.getD_none]

/-- A day is a mismatch with its own date, if its numbers differ. -/
theorem mismatchOn_eq_some_iff {counts : Both RowCounts} {date : Date} {mismatch : DateMismatch} :
    mismatchOn counts date = some mismatch ↔
      countOn counts.legacy date ≠ countOn counts.cloud date ∧
        ⟨date, counts.map (countOn · date)⟩ = mismatch := by
  simp only [mismatchOn, Both.map]
  by_cases same : countOn counts.legacy date = countOn counts.cloud date
  · simp only [same, if_true, reduceCtorEq, ne_eq, not_true_eq_false, false_and]
  · simp only [same, if_false, Option.some.injEq, ne_eq, not_false_eq_true, true_and]

/-- **The mismatched days are those whose numbers of rows differ.** -/
theorem mem_mismatchedDates_compare {counts : Both RowCounts} {date : Date} :
    date ∈ (compare counts).mismatchedDates ↔
      countOn counts.legacy date ≠ countOn counts.cloud date := by
  simp only [mismatchedDates, SortedMap.mem_distinct, compare, List.mem_map, List.mem_filterMap,
    mismatchOn_eq_some_iff, List.mem_append]
  constructor
  · rintro ⟨_, ⟨day, _, differ, rfl⟩, rfl⟩
    exact differ
  · intro differ
    refine ⟨_, ⟨date, ?_, differ, rfl⟩, rfl⟩
    by_contra missing
    obtain ⟨noLegacy, noCloud⟩ := not_or.mp missing
    exact differ (by rw [countOn_eq_zero noLegacy, countOn_eq_zero noCloud])

theorem mismatchedDates_pairwise (comparison : RowCountComparison) :
    comparison.mismatchedDates.Pairwise (· < ·) :=
  SortedMap.distinct_pairwise _

end RowCountComparison

/-! ## Validation -/

/-- A validated table has a vintage for each of its shared windows. -/
theorem exists_of_validateTable {table : String} {granularity : Granularity}
    {sides : Both TableSide} {validation : TableValidation}
    (validated : validateTable table granularity sides = .validated validation) :
    ∃ windows, sharedWindows granularity sides = .ok windows ∧
      validation = ⟨table, granularity, compareRowCounts sides,
        windows.map (.ofWindow sides (compareRowCounts sides).mismatchedDates)⟩ := by
  unfold validateTable at validated
  split at validated
  · cases validated
  · split at validated
    · cases validated
    · cases validated
    · next windows _ found =>
        cases validated
        exact ⟨windows, found, rfl⟩

/-- Partitioned tables are compared day by day. -/
theorem compareRowCounts_of_partitioned {sides : Both TableSide}
    (partitioned : ∀ platform, (sides.on platform).partition.isSome = true) :
    compareRowCounts sides = .compare (sides.map TableSide.rowCounts) := by
  rw [compareRowCounts, partitioned_of_forall partitioned]

namespace ValidatedVintage

open RowCountComparison

/-- A vintage of a window of days that leaves out the days whose numbers of rows differ. -/
structure ExcludesMismatches (vintage : ValidatedVintage) (sides : Both TableSide) : Prop where
  /-- The window has both bounds. -/
  bounded : vintage.window.Bounded
  /-- The days left out are those of the window whose numbers differ. -/
  excluded_iff : ∀ date, date ∈ vintage.excludedDates ↔
    vintage.window.contains date = true ∧
      countOn sides.legacy.rowCounts date ≠ countOn sides.cloud.rowCounts date
  /-- The days left out ascend. -/
  ascending : vintage.excludedDates.Pairwise (· < ·)
  /-- The days that remain agree. -/
  kept : ∀ date, vintage.window.contains date = true → date ∉ vintage.excludedDates →
    countOn sides.legacy.rowCounts date = countOn sides.cloud.rowCounts date
  /-- The filters of both platforms select the window and leave out the same days, by the literals
  of all of them or, where there are none, by no predicate. -/
  filters : ∀ platform, ∃ column, (sides.on platform).partition = some column ∧
    vintage.filters.on platform =
      allOf [vintage.window.predicate platform (some column),
        (sides.on platform).baseFilter.getD "",
        (exclusionPredicate? platform column vintage.excludedDates).getD ""] ∧
    exclusionPredicate? platform column vintage.excludedDates =
      if vintage.excludedDates = [] then none
      else some (column.dayExpression platform ++ " NOT IN (" ++
        ", ".intercalate (vintage.excludedDates.map (column.literal platform)) ++ ")")

/-- A window with bounds leaves out its mismatched days. -/
theorem excludedDates_ofWindow {window : Window} (bounded : window.Bounded)
    (sides : Both TableSide) (mismatched : List Date) :
    (ofWindow sides mismatched window).excludedDates = mismatched.filter window.contains := by
  simp only [ofWindow, bounded.isSnapshot_eq_false, Bool.false_eq_true, if_false]

/-- The filters of a partitioned table select the window and leave out the days left out. -/
theorem filters_ofWindow {sides : Both TableSide} {platform : Platform} {column : PartitionColumn}
    (partition : (sides.on platform).partition = some column) (mismatched : List Date)
    (window : Window) :
    (ofWindow sides mismatched window).filters.on platform =
      allOf [window.predicate platform (some column), (sides.on platform).baseFilter.getD "",
        (exclusionPredicate? platform column
          (ofWindow sides mismatched window).excludedDates).getD ""] := by
  cases platform <;>
    · simp only [Both.on] at partition
      simp only [ofWindow, composeFilter, Vintage.ofWindow, Both.tabulate, Both.on, Both.map,
        partition, Option.bind_some]

/-- **A window with bounds becomes a vintage without mismatches.** -/
theorem excludesMismatches_ofWindow {window : Window} {sides : Both TableSide}
    (bounded : window.Bounded)
    (partitioned : ∀ platform, (sides.on platform).partition.isSome = true) :
    (ofWindow sides (compareRowCounts sides).mismatchedDates window).ExcludesMismatches sides := by
  have excluded := excludedDates_ofWindow bounded sides (compareRowCounts sides).mismatchedDates
  have excluded_iff : ∀ date,
      date ∈ (ofWindow sides (compareRowCounts sides).mismatchedDates window).excludedDates ↔
        window.contains date = true ∧
          countOn sides.legacy.rowCounts date ≠ countOn sides.cloud.rowCounts date := by
    intro date
    rw [excluded, List.mem_filter, compareRowCounts_of_partitioned partitioned,
      mem_mismatchedDates_compare, and_comm]
    rfl
  refine ⟨bounded, excluded_iff, ?_, fun date inside notExcluded => ?_, fun platform => ?_⟩
  · rw [excluded]
    exact (mismatchedDates_pairwise _).sublist List.filter_sublist
  · by_contra differ
    exact notExcluded ((excluded_iff date).mpr ⟨inside, differ⟩)
  · obtain ⟨column, partition⟩ := Option.isSome_iff_exists.mp (partitioned platform)
    exact ⟨column, partition, filters_ofWindow partition _ window,
      exclusionPredicate?_eq_ite platform column _⟩

end ValidatedVintage

/-- **Validated vintages of partitioned tables share no day, ascend, hold every day that both sides
have exactly once and leave out exactly the days whose numbers of rows differ.** -/
theorem validated_vintages_exclude {table : String} {granularity : Granularity}
    {sides : Both TableSide} {validation : TableValidation} (calendar : granularity ≠ .snapshot)
    (partitioned : ∀ platform, (sides.on platform).partition.isSome = true)
    (validated : validateTable table granularity sides = .validated validation) :
    (validation.vintages.map ValidatedVintage.window).Pairwise Window.Disjoint ∧
      (validation.vintages.map ValidatedVintage.window).Pairwise Window.StartsBefore ∧
      (∀ date, date ∈ sides.legacy.rowCounts.keys → date ∈ sides.cloud.rowCounts.keys →
        validation.vintages.countP (·.window.contains date) = 1) ∧
      ∀ vintage ∈ validation.vintages, vintage.ExcludesMismatches sides := by
  obtain ⟨windows, found, rfl⟩ := exists_of_validateTable validated
  obtain ⟨series, covers⟩ := sharedSeries_of_sharedWindows calendar partitioned found
  have windowsEq : (windows.map (ValidatedVintage.ofWindow sides
      (compareRowCounts sides).mismatchedDates)).map ValidatedVintage.window = windows := by
    rw [List.map_map]
    exact List.map_id windows
  have disjoint := series.ordered.imp Window.Before.disjoint
  dsimp only
  rw [windowsEq]
  refine ⟨disjoint, ?_, fun date inLegacy inCloud => ?_, fun vintage member => ?_⟩
  · exact series.ordered.imp_of_mem fun member _ before =>
      before.startsBefore (series.bounded _ member)
  · rw [List.countP_map]
    exact Window.countP_contains_eq_one disjoint (covers date inLegacy inCloud)
  · obtain ⟨window, inWindows, rfl⟩ := List.mem_map.mp member
    exact ValidatedVintage.excludesMismatches_ofWindow (series.bounded window inWindows) partitioned

/-- A readable table partitioned on a column of dates. -/
def TableSide.ofDays (counts : List (Date × Nat)) : TableSide :=
  { accessible := true, partition := some ⟨"as_of", .date⟩, rowCounts := .ofList counts }

/-- The sides differ on one of two days of a month, and only one side has the month after. -/
theorem validated_vintages_exclude_month :
    let sides : Both TableSide :=
      ⟨.ofDays [(⟨2024, 1, 5, by decide⟩, 10), (⟨2024, 1, 9, by decide⟩, 4),
          (⟨2024, 2, 3, by decide⟩, 8)],
        .ofDays [(⟨2024, 1, 5, by decide⟩, 10), (⟨2024, 1, 9, by decide⟩, 3)]⟩
    ∃ validation, validateTable "t" .month sides = .validated validation ∧
      (validation.vintages.map ValidatedVintage.window).Pairwise Window.Disjoint ∧
      (validation.vintages.map ValidatedVintage.window).Pairwise Window.StartsBefore ∧
      (∀ date, date ∈ sides.legacy.rowCounts.keys → date ∈ sides.cloud.rowCounts.keys →
        validation.vintages.countP (·.window.contains date) = 1) ∧
      ∀ vintage ∈ validation.vintages, vintage.ExcludesMismatches sides := by
  intro sides
  have compared : (validateTable "t" .month sides).reason? = none := by decide +kernel
  cases outcome : validateTable "t" .month sides with
  | excluded table reason =>
      rw [outcome] at compared
      cases compared
  | validated validation =>
      refine ⟨validation, rfl, validated_vintages_exclude (by decide) (fun platform => ?_) outcome⟩
      cases platform <;> rfl

end Reconciliation
