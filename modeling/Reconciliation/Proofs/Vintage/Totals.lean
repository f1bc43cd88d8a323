import Reconciliation.Proofs.Vintage.Exclusion
import Reconciliation.Session.Counting

/-! # Totals of a comparison

A counted side either has a partition column and rows by the day, or no partition column and a
number of all rows. A comparison adds up days, unless neither side has any. So the total that it
reports for a side is that side's own number of rows exactly if the side has days, the other side
has none either, or there are no rows (`totals_eq_rowTotal_iff`): beside days, a number of all rows
is reported as zero (`mixed_total_is_zero`).
-/

namespace Reconciliation

-- Sums start from the literal zero, whatever else is imported beside this module.
attribute [local instance (high)] Zero.ofOfNat0

namespace TableSide

/-- The rows of a side are counted as its partition column asks for. -/
inductive Counted : TableSide → Prop
  /-- Rows are counted by the day. -/
  | partitioned (column : PartitionColumn) (baseFilter : Option String) (rowCounts : RowCounts) :
    Counted { accessible := true, partition := some column, baseFilter, rowCounts }
  /-- All rows are counted at once. -/
  | unpartitioned (baseFilter : Option String) (total : Nat) :
    Counted { accessible := true, baseFilter, totalRows := some total }

/-- The number of rows of a side. -/
def rowTotal (side : TableSide) : Nat :=
  match side.partition with
  | some _ => side.rowCounts.values.sum
  | none => side.totalRows.getD 0

/-- What counting finds out about a table is a counted side. -/
theorem counted_of_readTableSide {scope : TableScope} {answer : Answer} {side : TableSide}
    (read : readTableSide scope answer = .ok side) : side.Counted := by
  unfold readTableSide at read
  cases answer with
  | error failure => cases read
  | ok result =>
      cases partition : scope.partition with
      | none =>
          cases rows : readTotal result with
          | error failure => simp [partition, rows, bind, Except.bind] at read
          | ok total =>
              simp only [partition, rows, bind, Except.bind, pure, Except.pure] at read
              cases read
              exact .unpartitioned _ _
      | some column =>
          cases days : result.records.mapM (dayCountOf column) with
          | error failure => simp [partition, days, bind, Except.bind] at read
          | ok dayCounts =>
              simp only [partition, days, bind, Except.bind, pure, Except.pure] at read
              cases read
              exact .partitioned _ _ _

namespace Counted

variable {side : TableSide} (counted : side.Counted)
include counted

theorem totalRows_eq :
    side.totalRows = if side.partition.isSome then none else some side.rowTotal := by
  cases counted <;> rfl

theorem values_sum_eq :
    side.rowCounts.values.sum = if side.partition.isSome then side.rowTotal else 0 := by
  cases counted <;> rfl

end Counted

end TableSide

/-! ## The totals reported -/

section

variable {sides : Both TableSide} (counted : ∀ platform, (sides.on platform).Counted)
include counted

theorem compareRowCounts_of_unpartitioned
    (lacking : ∀ platform, (sides.on platform).partition = none) :
    compareRowCounts sides = .compareTotals (sides.map TableSide.rowTotal) := by
  have total (platform : Platform) :
      (sides.on platform).totalRows = some (sides.on platform).rowTotal := by
    rw [(counted platform).totalRows_eq, lacking platform]
    rfl
  have uncut : sides.legacy.partition = none := lacking .legacy
  have legacy := total .legacy
  have cloud := total .cloud
  simp only [Both.on] at legacy cloud
  simp only [compareRowCounts, uncut, legacy, cloud, Option.isSome_none, Bool.false_and, Both.map]

theorem compareRowCounts_of_counted {platform : Platform}
    (partitioned : (sides.on platform).partition.isSome = true) :
    compareRowCounts sides = .compare (sides.map TableSide.rowCounts) := by
  have missing := (counted platform).totalRows_eq
  rw [if_pos partitioned] at missing
  dsimp only [compareRowCounts]
  split
  · next foundLegacy foundCloud =>
      cases platform with
      | legacy => cases missing.symm.trans foundLegacy
      | cloud => cases missing.symm.trans foundCloud
  · rfl

/-- Beside days, a number of all rows counts for nothing. -/
theorem totals_compareRowCounts_of_counted {other : Platform}
    (partitioned : (sides.on other).partition.isSome = true) (platform : Platform) :
    (compareRowCounts sides).totals.on platform =
      if (sides.on platform).partition.isSome then (sides.on platform).rowTotal else 0 := by
  rw [compareRowCounts_of_counted counted partitioned]
  simp only [RowCountComparison.compare, Both.on_map]
  exact (counted platform).values_sum_eq

/-- **A validated table reports the own number of rows of a side exactly if the side has days, the
other side has none either, or the side has no rows.** Otherwise it reports no rows. -/
theorem totals_eq_rowTotal_iff {table : String} {granularity : Granularity}
    {validation : TableValidation}
    (validated : validateTable table granularity sides = .validated validation)
    (platform : Platform) :
    (validation.rowCounts.totals.on platform = (sides.on platform).rowTotal ↔
        (sides.on platform).partition.isSome = true ∨
          (sides.on platform.other).partition = none ∨ (sides.on platform).rowTotal = 0) ∧
      (validation.rowCounts.totals.on platform = (sides.on platform).rowTotal ∨
        validation.rowCounts.totals.on platform = 0) := by
  obtain ⟨windows, _, rfl⟩ := exists_of_validateTable validated
  dsimp only
  by_cases own : (sides.on platform).partition.isSome = true
  · have total := totals_compareRowCounts_of_counted counted own platform
    rw [if_pos own] at total
    exact ⟨iff_of_true total (.inl own), .inl total⟩
  by_cases other : (sides.on platform.other).partition.isSome = true
  · have total := totals_compareRowCounts_of_counted counted other platform
    rw [if_neg own] at total
    simp [total, own, Option.isSome_iff_ne_none.mp other, eq_comm]
  · have lacking (each : Platform) : (sides.on each).partition = none := by
      cases platform <;> cases each <;> simp_all [Platform.other]
    have total : (compareRowCounts sides).totals.on platform = (sides.on platform).rowTotal := by
      rw [compareRowCounts_of_unpartitioned counted lacking]
      exact Both.on_map _ _ _
    exact ⟨iff_of_true total (.inr (.inl (lacking _))), .inl total⟩

end

/-- A readable table without partitions. -/
def TableSide.ofTotal (total : Nat) : TableSide :=
  { accessible := true, totalRows := some total }

/-- Ten rows of one day beside ten rows without days. -/
def mixedSides : Both TableSide :=
  ⟨.ofDays [(⟨2024, 1, 5, by decide⟩, 10)], .ofTotal 10⟩

theorem counted_mixedSides : ∀ platform, (mixedSides.on platform).Counted
  | .legacy => .partitioned _ _ _
  | .cloud => .unpartitioned _ _

/-- Of a side with days and one without, the first keeps its total. -/
theorem totals_eq_rowTotal_iff_mixed :
    (∀ platform, (mixedSides.on platform).Counted) ∧
      ∃ validation, validateTable "t" .month mixedSides = .validated validation ∧
        ∀ platform,
          (validation.rowCounts.totals.on platform = (mixedSides.on platform).rowTotal ↔
              (mixedSides.on platform).partition.isSome = true ∨
                (mixedSides.on platform.other).partition = none ∨
                  (mixedSides.on platform).rowTotal = 0) ∧
            (validation.rowCounts.totals.on platform = (mixedSides.on platform).rowTotal ∨
              validation.rowCounts.totals.on platform = 0) := by
  have made : validateTable "t" .month mixedSides = .validated _ := rfl
  exact ⟨counted_mixedSides, _, made, totals_eq_rowTotal_iff counted_mixedSides made⟩

/-- **The ten rows without days are reported as none.** -/
theorem mixed_total_is_zero :
    (∀ platform, (mixedSides.on platform).Counted) ∧
      ¬∀ validation, validateTable "t" .month mixedSides = .validated validation →
        validation.rowCounts.totals.cloud = mixedSides.cloud.rowTotal := by
  refine ⟨counted_mixedSides, fun kept => ?_⟩
  have total := kept _ rfl
  revert total
  decide +kernel

end Reconciliation
