import Mathlib.Algebra.BigOperators.Group.Finset.Basic
import Mathlib.Algebra.Order.BigOperators.Group.Finset
import Reconciliation.Proofs.Vintage.Exclusion

/-! # What a comparison of row counts accounts for

The days of two tables are compared in order, and each of them either agrees or is listed with both
of its numbers. So the rows that a table has beyond the other are those that its mismatches have
beyond the other's (`conserves_compare`), and tables that agree on all days have the same total. The
mismatches depend on the number of rows of each day alone, so a day without rows may be listed or
not (`mismatches_compare_congr`). Together: `compare_accounts`.
-/

namespace Reconciliation

-- Sums start from the literal zero, whatever else is imported beside this module.
attribute [local instance (high)] Zero.ofOfNat0

/-- A mismatch with the platforms exchanged. -/
def DateMismatch.swap (mismatch : DateMismatch) : DateMismatch :=
  { mismatch with counts := mismatch.counts.swap }

namespace RowCountComparison

/-- The comparison of the platforms exchanged. -/
def swap (comparison : RowCountComparison) : RowCountComparison :=
  { comparison with
    totals := comparison.totals.swap
    mismatches := comparison.mismatches.map DateMismatch.swap }

/-- The days that either of two tables has, in order. -/
def days (counts : Both RowCounts) : List Date :=
  SortedMap.distinct (counts.legacy.keys ++ counts.cloud.keys)

variable {counts others : Both RowCounts} {date : Date} {platform : Platform}

theorem mem_days : date ∈ days counts ↔ date ∈ counts.legacy.keys ∨ date ∈ counts.cloud.keys := by
  rw [days, SortedMap.mem_distinct, List.mem_append]

theorem mem_days_of_mem_keys (listed : date ∈ (counts.on platform).keys) : date ∈ days counts := by
  cases platform with
  | legacy => exact mem_days.mpr (.inl listed)
  | cloud => exact mem_days.mpr (.inr listed)

theorem mismatches_eq_filterMap :
    (compare counts).mismatches = (days counts).filterMap (mismatchOn counts) := rfl

/-! ## Mismatches in order -/

theorem mem_mismatches_compare {mismatch : DateMismatch} :
    mismatch ∈ (compare counts).mismatches ↔
      (mismatch.date ∈ counts.legacy.keys ∨ mismatch.date ∈ counts.cloud.keys) ∧
        mismatch.counts = counts.map (countOn · mismatch.date) ∧
        mismatch.counts.legacy ≠ mismatch.counts.cloud := by
  rw [mismatches_eq_filterMap, List.mem_filterMap]
  simp only [mismatchOn_eq_some_iff, mem_days]
  constructor
  · rintro ⟨date, listed, differ, rfl⟩
    exact ⟨listed, rfl, differ⟩
  · rintro ⟨listed, own, differ⟩
    rw [own] at differ
    exact ⟨mismatch.date, listed, differ, (DateMismatch.mk.injEq ..).mpr ⟨rfl, own.symm⟩⟩

/-- The mismatches stand in the order of their days. -/
theorem mismatches_compare_ascending (counts : Both RowCounts) :
    ((compare counts).mismatches.map DateMismatch.date).Pairwise (· < ·) := by
  have own : ∀ day mismatch, mismatchOn counts day = some mismatch → mismatch.date = day := by
    intro day mismatch found
    obtain ⟨-, rfl⟩ := mismatchOn_eq_some_iff.mp found
    rfl
  rw [List.pairwise_map, mismatches_eq_filterMap, List.pairwise_filterMap]
  refine (SortedMap.distinct_pairwise _).imp fun {a b} below first found second found' => ?_
  rw [own a first found, own b second found']
  exact below

theorem mismatchedDates_compare (counts : Both RowCounts) :
    (compare counts).mismatchedDates = (compare counts).mismatches.map DateMismatch.date :=
  SortedMap.distinct_eq_self (mismatches_compare_ascending counts)

/-- The mismatches are told by their days. -/
theorem mismatches_compare (counts : Both RowCounts) :
    (compare counts).mismatches =
      (compare counts).mismatchedDates.map fun date => ⟨date, counts.map (countOn · date)⟩ := by
  rw [mismatchedDates_compare, List.map_map]
  symm
  refine (List.map_congr_left fun mismatch member => ?_).trans (List.map_id _)
  obtain ⟨-, own, -⟩ := mem_mismatches_compare.mp member
  exact (DateMismatch.mk.injEq ..).mpr ⟨rfl, own.symm⟩

/-- **Tables with the same rows on every day have the same mismatches**, whichever days without rows
they list. -/
theorem mismatches_compare_congr
    (same : ∀ platform date,
      countOn (counts.on platform) date = countOn (others.on platform) date) :
    (compare counts).mismatches = (compare others).mismatches := by
  have legacy := same .legacy
  have cloud := same .cloud
  simp only [Both.on] at legacy cloud
  have mem (compared : Both RowCounts) (date : Date) :
      date ∈ (compare compared).mismatches.map DateMismatch.date ↔
        countOn compared.legacy date ≠ countOn compared.cloud date :=
    SortedMap.mem_distinct.symm.trans mem_mismatchedDates_compare
  have dates : (compare counts).mismatchedDates = (compare others).mismatchedDates := by
    apply SortedMap.distinct_congr
    intro date
    rw [mem, mem, legacy, cloud]
  rw [mismatches_compare, mismatches_compare, dates]
  simp only [Both.map, legacy, cloud]

/-- A day that a table lacks may be listed without rows. -/
theorem countOn_insert_zero {map : RowCounts} (lacking : date ∉ map.keys) (day : Date) :
    countOn (map.insert date 0) day = countOn map day := by
  by_cases here : day = date
  · subst here
    rw [countOn_eq_zero lacking, countOn, SortedMap.get?_insert, if_pos rfl, Option.getD_some]
  · rw [countOn, SortedMap.get?_insert, if_neg here, countOn]

/-- A day without rows may be left out. -/
theorem countOn_erase_of_zero {map : RowCounts} (empty : map.get? date = some 0) (day : Date) :
    countOn (map.erase date) day = countOn map day := by
  by_cases here : day = date
  · subst here
    rw [countOn, countOn, SortedMap.get?_erase, if_pos rfl, empty, Option.getD_none,
      Option.getD_some]
  · rw [countOn, SortedMap.get?_erase, if_neg here, countOn]

/-- What leaves the rows of every day of a table leaves its mismatches. -/
theorem mismatches_modify {change : RowCounts → RowCounts}
    (kept : ∀ day, countOn (change (counts.on platform)) day = countOn (counts.on platform) day) :
    (compare (counts.modify change platform)).mismatches = (compare counts).mismatches := by
  apply mismatches_compare_congr
  intro side day
  cases platform <;> cases side
  · exact kept day
  · rfl
  · rfl
  · exact kept day

/-! ## Totals -/

/-- The values of a map are the numbers of rows of its days. -/
theorem values_eq_map_countOn (map : RowCounts) : map.values = map.keys.map (countOn map) := by
  rw [SortedMap.values, SortedMap.keys, List.map_map]
  refine List.map_congr_left fun entry member => ?_
  have found : map.get? entry.1 = some entry.2 := SortedMap.get?_eq_some_iff.mpr member
  rw [Function.comp_apply, countOn, found, Option.getD_some]

/-- The days that only the other table has add no rows. -/
theorem values_sum_eq_days (counts : Both RowCounts) (platform : Platform) :
    (counts.on platform).values.sum =
      ((days counts).map (countOn (counts.on platform))).sum := by
  have nodup : (counts.on platform).keys.Nodup :=
    SortedMap.nodup_of_pairwise_lt (SortedMap.keys_pairwise _)
  have distinct : (days counts).Nodup := SortedMap.distinct_nodup _
  rw [values_eq_map_countOn, ← List.sum_toFinset _ nodup, ← List.sum_toFinset _ distinct]
  apply Finset.sum_subset
  · intro date listed
    exact List.mem_toFinset.mpr (mem_days_of_mem_keys (List.mem_toFinset.mp listed))
  · intro date _ lacking
    exact countOn_eq_zero fun listed => lacking (List.mem_toFinset.mpr listed)

/-- Over any days, the rows of one table and the mismatches of the other make up the rows of the
other and the mismatches of the one. -/
theorem sum_add_mismatches (counts : Both RowCounts) (days : List Date) :
    (days.map (countOn counts.legacy)).sum +
        ((days.filterMap (mismatchOn counts)).map (·.counts.cloud)).sum =
      (days.map (countOn counts.cloud)).sum +
        ((days.filterMap (mismatchOn counts)).map (·.counts.legacy)).sum := by
  induction days with
  | nil => rfl
  | cons day rest ih =>
      rw [List.map_cons, List.map_cons, List.sum_cons, List.sum_cons, List.filterMap_cons]
      by_cases same : countOn counts.legacy day = countOn counts.cloud day
      · have agrees : mismatchOn counts day = none := if_pos same
        rw [agrees]
        dsimp only
        omega
      · have differs : mismatchOn counts day = some ⟨day, counts.map (countOn · day)⟩ := if_neg same
        rw [differs]
        simp only [Both.map, List.map_cons, List.sum_cons]
        omega

/-- **What one table has beyond the other is in the mismatches.** -/
theorem conserves_compare (counts : Both RowCounts) :
    (compare counts).totals.legacy + ((compare counts).mismatches.map (·.counts.cloud)).sum =
      (compare counts).totals.cloud + ((compare counts).mismatches.map (·.counts.legacy)).sum := by
  have legacy := values_sum_eq_days counts .legacy
  have cloud := values_sum_eq_days counts .cloud
  simp only [Both.on] at legacy cloud
  change counts.legacy.values.sum + _ = counts.cloud.values.sum + _
  rw [legacy, cloud]
  exact sum_add_mismatches counts (days counts)

/-! ## The platforms exchanged -/

theorem days_swap (counts : Both RowCounts) : days counts.swap = days counts := by
  apply SortedMap.distinct_congr
  intro date
  rw [List.mem_append, List.mem_append]
  exact or_comm

theorem mismatchOn_swap (counts : Both RowCounts) (date : Date) :
    mismatchOn counts.swap date = (mismatchOn counts date).map DateMismatch.swap := by
  by_cases same : countOn counts.legacy date = countOn counts.cloud date
  · have agrees : mismatchOn counts date = none := if_pos same
    rw [agrees]
    exact if_pos same.symm
  · have differs : mismatchOn counts date = some ⟨date, counts.map (countOn · date)⟩ := if_neg same
    rw [differs]
    exact if_neg (Ne.symm same)

/-- Exchanging the tables exchanges all that is told of either. -/
theorem compare_swapped (counts : Both RowCounts) :
    compare counts.swap = (compare counts).swap := by
  have mismatches : (compare counts.swap).mismatches =
      (compare counts).mismatches.map DateMismatch.swap := by
    rw [mismatches_eq_filterMap, mismatches_eq_filterMap, days_swap, List.map_filterMap]
    exact List.filterMap_congr fun date _ => mismatchOn_swap counts date
  change RowCountComparison.mk (days counts.swap).length
    ((days counts.swap).length - (compare counts.swap).mismatches.length) _
    (compare counts.swap).mismatches
    (!(days counts.swap).isEmpty && (compare counts.swap).mismatches.isEmpty) = _
  rw [mismatches, days_swap, List.length_map, List.isEmpty_map]
  rfl

/-! ## The comparison as a whole -/

/-- What a comparison day by day tells of two tables. -/
structure Accounts (counts : Both RowCounts) (comparison : RowCountComparison) : Prop where
  /-- The mismatches are the days of either table whose numbers differ, a day that a table lacks
  having no rows there. -/
  mem_mismatches : ∀ mismatch, mismatch ∈ comparison.mismatches ↔
    (mismatch.date ∈ counts.legacy.keys ∨ mismatch.date ∈ counts.cloud.keys) ∧
      mismatch.counts = counts.map (countOn · mismatch.date) ∧
      mismatch.counts.legacy ≠ mismatch.counts.cloud
  /-- They ascend, so each is listed once. -/
  ascending : (comparison.mismatches.map DateMismatch.date).Pairwise (· < ·)
  /-- All days of either table are compared. -/
  totalDays_eq :
    comparison.totalDays = (counts.legacy.keys.toFinset ∪ counts.cloud.keys.toFinset).card
  /-- Each of them agrees or is a mismatch. -/
  days_add : comparison.matchedDays + comparison.mismatches.length = comparison.totalDays
  /-- All rows of each table are in its total. -/
  totals_eq : comparison.totals = counts.map (·.values.sum)
  /-- What one table has beyond the other is in the mismatches. -/
  conserves : comparison.totals.legacy + (comparison.mismatches.map (·.counts.cloud)).sum =
    comparison.totals.cloud + (comparison.mismatches.map (·.counts.legacy)).sum
  /-- All agrees if there are days and none of them is a mismatch. -/
  matchesAll_iff : comparison.matchesAll = true ↔
    (∃ date, date ∈ counts.legacy.keys ∨ date ∈ counts.cloud.keys) ∧ comparison.mismatches = []
  /-- Tables that agree have as many rows. -/
  totals_of_matchesAll :
    comparison.matchesAll = true → comparison.totals.legacy = comparison.totals.cloud

theorem totalDays_compare (counts : Both RowCounts) :
    (compare counts).totalDays =
      (counts.legacy.keys.toFinset ∪ counts.cloud.keys.toFinset).card := by
  have distinct : (days counts).Nodup := SortedMap.distinct_nodup _
  have listed : (days counts).toFinset =
      counts.legacy.keys.toFinset ∪ counts.cloud.keys.toFinset := by
    ext date
    rw [List.mem_toFinset, Finset.mem_union, List.mem_toFinset, List.mem_toFinset, mem_days]
  rw [← listed, List.toFinset_card_of_nodup distinct]
  rfl

theorem accounts_compare (counts : Both RowCounts) : Accounts counts (compare counts) := by
  have matchesAll_iff : (compare counts).matchesAll = true ↔
      (∃ date, date ∈ counts.legacy.keys ∨ date ∈ counts.cloud.keys) ∧
        (compare counts).mismatches = [] := by
    change (!(days counts).isEmpty && (compare counts).mismatches.isEmpty) = true ↔ _
    rw [Bool.and_eq_true, Bool.not_eq_true', List.isEmpty_eq_false_iff_exists_mem,
      List.isEmpty_iff]
    simp only [mem_days]
  refine ⟨fun _ => mem_mismatches_compare, mismatches_compare_ascending counts,
    totalDays_compare counts, ?_, rfl, conserves_compare counts, matchesAll_iff, fun all => ?_⟩
  · have fewer : (compare counts).mismatches.length ≤ (days counts).length :=
      List.length_filterMap_le _ _
    exact Nat.sub_add_cancel fewer
  · have conserved := conserves_compare counts
    rw [(matchesAll_iff.mp all).2] at conserved
    exact conserved

/-- **A comparison of row counts accounts for every day and every row of both tables**, treats the
platforms alike, and finds the same mismatches whether or not a day without rows is listed. -/
theorem compare_accounts (counts : Both RowCounts) :
    Accounts counts (compare counts) ∧
      compare counts.swap = (compare counts).swap ∧
      ∀ platform date,
        (date ∉ (counts.on platform).keys →
          (compare (counts.modify (·.insert date 0) platform)).mismatches =
            (compare counts).mismatches) ∧
        ((counts.on platform).get? date = some 0 →
          (compare (counts.modify (·.erase date) platform)).mismatches =
            (compare counts).mismatches) := by
  refine ⟨accounts_compare counts, compare_swapped counts, fun platform date => ⟨?_, ?_⟩⟩
  · intro lacking
    exact mismatches_modify (countOn_insert_zero lacking)
  · intro empty
    exact mismatches_modify (countOn_erase_of_zero empty)

/-- One day differs, and another has no rows and is listed on one platform only. -/
theorem compare_accounts_idleDay :
    let counts : Both RowCounts :=
      ⟨.ofList [(⟨2024, 1, 5, by decide⟩, 10), (⟨2024, 1, 6, by decide⟩, 0)],
        .ofList [(⟨2024, 1, 5, by decide⟩, 9)]⟩
    let idle : Date := ⟨2024, 1, 6, by decide⟩
    idle ∉ counts.cloud.keys ∧ counts.legacy.get? idle = some 0 ∧
      (compare (counts.modify (·.insert idle 0) .cloud)).mismatches =
        (compare counts).mismatches ∧
      (compare (counts.modify (·.erase idle) .legacy)).mismatches =
        (compare counts).mismatches := by
  intro counts idle
  obtain ⟨-, -, edits⟩ := compare_accounts counts
  have lacking : idle ∉ counts.cloud.keys := by decide
  have empty : counts.legacy.get? idle = some 0 := by decide
  exact ⟨lacking, empty, (edits .cloud idle).1 lacking, (edits .legacy idle).2 empty⟩

end RowCountComparison

end Reconciliation
