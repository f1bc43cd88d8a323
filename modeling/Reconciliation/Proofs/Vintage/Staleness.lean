import Reconciliation.Proofs.Vintage.Exclusion

/-! # When vintages are stale

A vintage is stale once the mismatched days in its window have another fingerprint than the days it
leaves out. A window with bounds leaves out exactly those days, so its vintage is fresh when it is
made. The snapshot holds every day but leaves none out: it is stale from the start unless nothing
differs (`isStale_eq_false_iff`).
-/

namespace Reconciliation

namespace ValidatedVintage

/-- A vintage with bounds is fresh against the comparison that it is made from. -/
theorem isStale_ofWindow_of_bounded {window : Window} (bounded : window.Bounded)
    (sides : Both TableSide) (current : RowCountComparison) :
    (ofWindow sides current.mismatchedDates window).isStale current = false := by
  have excluded := excludedDates_ofWindow bounded sides current.mismatchedDates
  have fingerprints : (ofWindow sides current.mismatchedDates window).fingerprint =
      Reconciliation.fingerprint (current.mismatchedDates.filter window.contains) := by
    rw [← excluded]
    rfl
  rw [isStale, fingerprints]
  exact decide_eq_false (not_not_intro rfl)

theorem contains_snapshot (date : Date) : Window.snapshot.contains date = true := rfl

/-- The snapshot is fresh exactly if the mismatched days have the fingerprint of no days. -/
theorem isStale_snapshot_eq_false_iff (sides : Both TableSide) (mismatched : List Date)
    (current : RowCountComparison) :
    (ofWindow sides mismatched .snapshot).isStale current = false ↔
      Reconciliation.fingerprint current.mismatchedDates = Reconciliation.fingerprint [] := by
  have held : current.mismatchedDates.filter Window.snapshot.contains =
      current.mismatchedDates :=
    List.filter_eq_self.mpr fun date _ => contains_snapshot date
  have fingerprints : (ofWindow sides mismatched .snapshot).fingerprint =
      Reconciliation.fingerprint [] := rfl
  rw [isStale, fingerprints]
  change decide (Reconciliation.fingerprint
    (current.mismatchedDates.filter Window.snapshot.contains) ≠ _) = false ↔ _
  rw [held, decide_eq_false_iff_not, ne_eq, not_not]

end ValidatedVintage

/-- Without a calendar or without partition columns the only window is the snapshot. -/
theorem sharedWindows_eq_snapshot {granularity : Granularity} {sides : Both TableSide}
    (uncut : ¬(granularity ≠ .snapshot ∧
      ∀ platform, (sides.on platform).partition.isSome = true)) :
    sharedWindows granularity sides = .ok [.snapshot] := by
  rw [sharedWindows, if_pos]
  by_cases calendar : granularity = .snapshot
  · simp only [calendar, decide_true, Bool.true_or]
  · have lacking : (sides.legacy.partition.isSome && sides.cloud.partition.isSome) = false := by
      refine Bool.eq_false_iff.mpr fun partitioned => uncut ⟨calendar, fun platform => ?_⟩
      obtain ⟨legacy, cloud⟩ := Bool.and_eq_true_iff.mp partitioned
      cases platform with
      | legacy => exact legacy
      | cloud => exact cloud
    simp only [lacking, Bool.not_false, Bool.or_true]

/-- **A validated vintage is fresh exactly if its table is cut by the calendar or the mismatched
days have the fingerprint of no days.** -/
theorem isStale_eq_false_iff {table : String} {granularity : Granularity} {sides : Both TableSide}
    {validation : TableValidation} {vintage : ValidatedVintage}
    (validated : validateTable table granularity sides = .validated validation)
    (member : vintage ∈ validation.vintages) :
    vintage.isStale validation.rowCounts = false ↔
      (granularity ≠ .snapshot ∧ ∀ platform, (sides.on platform).partition.isSome = true) ∨
        fingerprint validation.rowCounts.mismatchedDates = fingerprint [] := by
  obtain ⟨windows, found, rfl⟩ := exists_of_validateTable validated
  obtain ⟨window, inWindows, rfl⟩ := List.mem_map.mp member
  by_cases cut : granularity ≠ .snapshot ∧
      ∀ platform, (sides.on platform).partition.isSome = true
  · have shared := sharedSeries_of_sharedWindows cut.1 cut.2 found
    exact iff_of_true (ValidatedVintage.isStale_ofWindow_of_bounded
      (shared.series.bounded window inWindows) sides _) (.inl cut)
  · rw [sharedWindows_eq_snapshot cut] at found
    cases found
    obtain rfl := List.mem_singleton.mp inWindows
    rw [ValidatedVintage.isStale_snapshot_eq_false_iff]
    exact (or_iff_right cut).symm

/-- A snapshot of two sides that agree on their only day is fresh. -/
theorem isStale_eq_false_iff_snapshot :
    let side : TableSide := .ofDays [(⟨2024, 1, 5, by decide⟩, 10)]
    ∃ validation, validateTable "t" .snapshot ⟨side, side⟩ = .validated validation ∧
      ∀ vintage ∈ validation.vintages, vintage.isStale validation.rowCounts = false := by
  intro side
  have made : validateTable "t" .snapshot ⟨side, side⟩ = .validated _ := rfl
  refine ⟨_, made, fun vintage member => ?_⟩
  refine (isStale_eq_false_iff made member).mpr (.inr ?_)
  decide +kernel

/-- **A snapshot of two sides that differ on their only day is stale as soon as it is made.** -/
theorem snapshot_stale_when_made :
    ¬∀ validation, validateTable "t" .snapshot
        ⟨.ofDays [(⟨2024, 1, 5, by decide⟩, 10)], .ofDays [(⟨2024, 1, 5, by decide⟩, 9)]⟩ =
          .validated validation →
      ∀ vintage ∈ validation.vintages, vintage.isStale validation.rowCounts = false := by
  intro fresh
  have made := fresh _ rfl _ List.mem_cons_self
  revert made
  decide +kernel

end Reconciliation
