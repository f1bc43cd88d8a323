import Mathlib.Data.List.Induction
import Mathlib.Data.List.Nodup
import Reconciliation.Proofs.Number.Order
import Reconciliation.Proofs.SortedMap
import Reconciliation.Statistic.Quality

/-! # Clean columns and keys

A column is clean if it passed in every vintage (`ColumnQuality.isClean_summaryOf_iff`). The keys
are the first of the clean columns in the order of the greatest number of distinct values that any
vintage observes, then of names. Where none is observed the least finite number stands in, so that
only a column with this very number can come later.
-/

namespace Reconciliation

namespace ColumnOutcome

/-- The number of distinct legacy values that an outcome observes. -/
def distinct? : ColumnOutcome → Option Binary64
  | .compared result => result.rows.legacy.distinct.bind Scalar.number?
  | .notComparable _ _ => none

theorem verdict?_eq_some_iff {outcome : ColumnOutcome} {verdict : Verdict} :
    outcome.verdict? = some verdict ↔ ∃ result, outcome = .compared result ∧
      result.verdict = verdict := by
  cases outcome with
  | compared result => simp [verdict?]
  | notComparable => simp [verdict?]

/-- Where no column stands twice, a column finds the outcome that is its own. -/
theorem find?_column_eq_some_iff {outcomes : List ColumnOutcome} {outcome : ColumnOutcome}
    {column : String} (distinct : (outcomes.map ColumnOutcome.column).Nodup) :
    outcomes.find? (fun outcome => outcome.column == column) = some outcome ↔
      outcome ∈ outcomes ∧ outcome.column = column := by
  have named {outcome : ColumnOutcome}
      (found : outcomes.find? (fun outcome => outcome.column == column) = some outcome) :
      outcome ∈ outcomes ∧ outcome.column = column :=
    ⟨List.mem_of_find?_eq_some found, by simpa using List.find?_some found⟩
  refine ⟨named, fun ⟨member, same⟩ => ?_⟩
  have some : (outcomes.find? fun outcome => outcome.column == column).isSome :=
    List.find?_isSome.mpr ⟨outcome, member, beq_iff_eq.mpr same⟩
  obtain ⟨other, found⟩ := Option.isSome_iff_exists.mp some
  obtain ⟨otherMember, otherSame⟩ := named found
  rw [found, List.inj_on_of_nodup_map distinct otherMember member (otherSame.trans same.symm)]

end ColumnOutcome

namespace ColumnSummary

/-- The greatest of some numbers, found from the left. -/
def greatestOf (counts : List Binary64) : Option Binary64 :=
  counts.foldl (fun greatest count => some (greatest.elim count (·.greater count))) none

theorem maxDistinct_ofOutcomes (outcomes : List ColumnOutcome) :
    (ofOutcomes outcomes).maxDistinct = greatestOf (outcomes.filterMap ColumnOutcome.distinct?) :=
  rfl

theorem greatestOf_concat (counts : List Binary64) (last : Binary64) :
    greatestOf (counts ++ [last]) = some ((greatestOf counts).elim last (·.greater last)) :=
  List.foldl_concat ..

theorem greatestOf_eq_none_iff {counts : List Binary64} :
    greatestOf counts = none ↔ counts = [] := by
  induction counts using List.reverseRecOn with
  | nil => exact iff_of_true rfl rfl
  | append_singleton counts last ih => simp [greatestOf_concat]

/-- The greatest of finite numbers is one of them, and none is greater. -/
theorem greatestOf_spec {counts : List Binary64} {greatest : Binary64}
    (finite : ∀ count ∈ counts, count.isFinite = true) (found : greatestOf counts = some greatest) :
    greatest ∈ counts ∧ ∀ count ∈ counts, count.le greatest = true := by
  induction counts using List.reverseRecOn generalizing greatest with
  | nil => cases found
  | append_singleton counts last ih =>
      simp only [List.mem_append, List.mem_singleton, or_imp, forall_and, forall_eq] at finite ⊢
      obtain ⟨finite, lastFinite⟩ := finite
      rw [greatestOf_concat, Option.some_inj] at found
      cases rest : greatestOf counts with
      | none =>
          rw [rest] at found
          obtain rfl := greatestOf_eq_none_iff.mp rest
          obtain rfl : last = greatest := found
          refine ⟨.inr rfl, fun _ counted => ?_, Binary64.le_self lastFinite⟩
          cases counted
      | some held =>
          obtain ⟨member, above⟩ := ih finite rest
          have heldFinite := finite held member
          obtain rfl : held.greater last = greatest := by rwa [rest, Option.elim_some] at found
          refine ⟨?_, fun count counted => ?_, Binary64.le_greater_right heldFinite lastFinite⟩
          · rcases held.greater_eq_or last with same | same
            · exact .inr same
            · exact .inl (same.symm ▸ member)
          · exact Binary64.le_trans (above count counted) (Binary64.le_greater_left heldFinite)

end ColumnSummary

namespace ColumnQuality

/-! ## What the vintages say -/

section

variable (vintages : SortedMap String (List ColumnOutcome)) (column : String)

/-- The outcomes of a column, in the order of the vintages. -/
def outcomesOf : List ColumnOutcome :=
  vintages.values.filterMap fun outcomes => outcomes.find? fun outcome => outcome.column == column

/-- The summary of a column over all vintages. -/
def summaryOf : ColumnSummary :=
  .ofOutcomes (outcomesOf vintages column)

/-- No vintage says two things of one column. -/
def DistinctOutcomes : Prop :=
  ∀ outcomes ∈ vintages.values, (outcomes.map ColumnOutcome.column).Nodup

/-- Every vintage, of at least one, has the column compared and passed. -/
def PassesThroughout : Prop :=
  0 < vintages.size ∧ ∀ outcomes ∈ vintages.values, ∃ result, .compared result ∈ outcomes ∧
    result.column = column ∧ result.verdict = .pass

/-- Some vintage observes a number of distinct legacy values of a column. -/
def Observes (count : Binary64) : Prop :=
  ∃ outcomes ∈ vintages.values, ∃ outcome ∈ outcomes, outcome.column = column ∧
    outcome.distinct? = some count

/-- Every number of distinct values observed is finite. -/
def FiniteCounts : Prop :=
  ∀ column count, Observes vintages column count → count.isFinite = true

/-- The number by which a column is ranked: the greatest observed, or the least finite number where
none is. -/
def RankedBy (rank : Binary64) : Prop :=
  (Observes vintages column rank ∧ ∀ count, Observes vintages column count → count.le rank = true) ∨
    (∀ count, ¬Observes vintages column count) ∧ rank = Binary64.greatest.neg

/-- A column comes before another as a key: it is ranked higher, or equally and has the lesser
name. -/
def Precedes (column other : String) : Prop :=
  ∃ rank otherRank, RankedBy vintages column rank ∧ RankedBy vintages other otherRank ∧
    (otherRank.lt rank = true ∨ rank.eq otherRank = true ∧ column < other)

end

variable {vintages : SortedMap String (List ColumnOutcome)} {column : String}

theorem finiteCounts_of_all (all : ∀ outcomes ∈ vintages.values, ∀ outcome ∈ outcomes,
    outcome.distinct?.all Binary64.isFinite = true) : FiniteCounts vintages := by
  rintro column count ⟨outcomes, listed, outcome, member, -, observed⟩
  have finite := all outcomes listed outcome member
  rw [observed] at finite
  exact finite

section

variable (distinct : DistinctOutcomes vintages)
include distinct

theorem mem_outcomesOf_iff {outcome : ColumnOutcome} :
    outcome ∈ outcomesOf vintages column ↔
      ∃ outcomes ∈ vintages.values, outcome ∈ outcomes ∧ outcome.column = column := by
  rw [outcomesOf, List.mem_filterMap]
  refine exists_congr fun outcomes => and_congr_right fun member => ?_
  exact ColumnOutcome.find?_column_eq_some_iff (distinct outcomes member)

theorem observes_iff {count : Binary64} :
    Observes vintages column count ↔
      count ∈ (outcomesOf vintages column).filterMap ColumnOutcome.distinct? := by
  simp only [List.mem_filterMap, mem_outcomesOf_iff distinct, Observes]
  constructor
  · rintro ⟨outcomes, listed, outcome, member, named, observed⟩
    exact ⟨outcome, ⟨outcomes, listed, member, named⟩, observed⟩
  · rintro ⟨outcome, ⟨outcomes, listed, member, named⟩, observed⟩
    exact ⟨outcomes, listed, outcome, member, named, observed⟩

omit distinct in
/-- The counts of a summary say that each vintage has an outcome and that each outcome passes. -/
theorem isClean_summaryOf :
    (summaryOf vintages column).isClean vintages.size = true ↔
      0 < vintages.size ∧
        (∀ outcomes ∈ vintages.values,
          (outcomes.find? fun outcome => outcome.column == column).isSome) ∧
        ∀ outcome ∈ outcomesOf vintages column, outcome.verdict? = some .pass := by
  have size : vintages.size = vintages.values.length := (List.length_map ..).symm
  simp only [ColumnSummary.isClean, Bool.and_eq_true, decide_eq_true_eq, beq_iff_eq, and_assoc]
  refine and_congr_right fun _ => ?_
  rw [← List.filterMap_length_eq_length, size]
  refine and_congr_right fun all => ?_
  -- as many verdicts pass as there are outcomes
  rw [← all]
  change List.count _ ((outcomesOf vintages column).map _) = (outcomesOf vintages column).length ↔ _
  rw [← List.length_map ColumnOutcome.verdict?, List.count_eq_length]
  simp only [List.forall_mem_map, eq_comm]

/-- A column is clean exactly if it passes throughout. -/
theorem isClean_summaryOf_iff :
    (summaryOf vintages column).isClean vintages.size = true ↔
      PassesThroughout vintages column := by
  rw [isClean_summaryOf]
  refine and_congr_right fun _ => ⟨?_, fun passes => ⟨?_, ?_⟩⟩
  · rintro ⟨all, passed⟩ outcomes listed
    obtain ⟨outcome, found⟩ := Option.isSome_iff_exists.mp (all outcomes listed)
    obtain ⟨member, named⟩ := (ColumnOutcome.find?_column_eq_some_iff (distinct _ listed)).mp found
    obtain ⟨result, rfl, pass⟩ := ColumnOutcome.verdict?_eq_some_iff.mp
      (passed outcome ((mem_outcomesOf_iff distinct).mpr ⟨outcomes, listed, member, named⟩))
    exact ⟨result, member, named, pass⟩
  · intro outcomes listed
    obtain ⟨result, member, named, -⟩ := passes outcomes listed
    have found := (ColumnOutcome.find?_column_eq_some_iff (distinct _ listed)).mpr ⟨member, named⟩
    rw [found]
    rfl
  · intro outcome member
    obtain ⟨outcomes, listed, member, named⟩ := (mem_outcomesOf_iff distinct).mp member
    obtain ⟨result, passed, passedNamed, pass⟩ := passes outcomes listed
    -- the outcome that passes is the only one of the column
    obtain rfl := List.inj_on_of_nodup_map (distinct _ listed) member passed
      (named.trans passedNamed.symm)
    exact ColumnOutcome.verdict?_eq_some_iff.mpr ⟨result, rfl, pass⟩

/-- A column is ranked by its summary. -/
theorem rankedBy_rank (finite : FiniteCounts vintages) :
    RankedBy vintages column (summaryOf vintages column).rank := by
  have counts (count : Binary64) : Observes vintages column count ↔
      count ∈ (outcomesOf vintages column).filterMap ColumnOutcome.distinct? :=
    observes_iff distinct
  rw [ColumnSummary.rank, summaryOf, ColumnSummary.maxDistinct_ofOutcomes]
  cases found : ColumnSummary.greatestOf
      ((outcomesOf vintages column).filterMap ColumnOutcome.distinct?) with
  | none =>
      refine .inr ⟨fun count observed => ?_, rfl⟩
      rw [counts, ColumnSummary.greatestOf_eq_none_iff.mp found] at observed
      cases observed
  | some greatest =>
      obtain ⟨member, above⟩ := ColumnSummary.greatestOf_spec
        (fun count member => finite column count ((counts count).mpr member)) found
      exact .inl ⟨(counts greatest).mpr member,
        fun count observed => above count ((counts count).mp observed)⟩

end

/-! ## The order of keys -/

/-- Whether a column comes before another by their summaries. -/
def prefers (vintages : SortedMap String (List ColumnOutcome)) (column other : String) : Bool :=
  preferred (column, summaryOf vintages column) (other, summaryOf vintages other)

section

variable (distinct : DistinctOutcomes vintages) (finite : FiniteCounts vintages)
include distinct finite

theorem isFinite_rank (column : String) : (summaryOf vintages column).rank.isFinite = true := by
  have ranked : RankedBy vintages column (summaryOf vintages column).rank :=
    rankedBy_rank distinct finite
  rcases ranked with ⟨observed, -⟩ | ⟨-, least⟩
  · exact finite column _ observed
  · rw [least]
    rfl

/-- A column is preferred for a greater rank, and then for its name. -/
theorem prefers_iff {other : String} :
    prefers vintages column other = true ↔
      (summaryOf vintages other).rank.toUnits < (summaryOf vintages column).rank.toUnits ∨
        (summaryOf vintages other).rank.toUnits = (summaryOf vintages column).rank.toUnits ∧
          column ≤ other := by
  have ranks := isFinite_rank distinct finite
  have above := Binary64.lt_iff_toUnits (ranks other) (ranks column)
  have below := Binary64.lt_iff_toUnits (ranks column) (ranks other)
  rw [prefers, preferred]
  split
  · next higher => exact iff_of_true rfl (.inl (above.mp higher))
  · next notHigher =>
      rw [above] at notHigher
      split
      · next lower =>
          rw [below] at lower
          exact iff_of_false Bool.false_ne_true (by omega)
      · next notLower =>
          rw [below] at notLower
          have same : (summaryOf vintages other).rank.toUnits =
            (summaryOf vintages column).rank.toUnits := by omega
          simp [same]

/-- Of two columns of different names, the one preferred comes first. -/
theorem precedes_of_prefers {other : String} (preferred : prefers vintages column other = true)
    (differ : column ≠ other) : Precedes vintages column other := by
  have ranks := isFinite_rank distinct finite
  refine ⟨_, _, rankedBy_rank distinct finite, rankedBy_rank distinct finite, ?_⟩
  rw [Binary64.lt_iff_toUnits (ranks other) (ranks column),
    Binary64.eq_iff_toUnits (ranks column) (ranks other)]
  rcases (prefers_iff distinct finite).mp preferred with higher | ⟨same, notAfter⟩
  · exact .inl higher
  · exact .inr ⟨same.symm, Std.lt_of_le_of_ne notAfter differ⟩

/-- Sorted by preference, different columns stand one before the other. -/
theorem pairwise_precedes_mergeSort {names : List String} (nodup : names.Nodup) :
    (names.mergeSort (prefers vintages)).Pairwise (Precedes vintages) := by
  have sorted : (names.mergeSort (prefers vintages)).Pairwise
      fun column other => prefers vintages column other = true := by
    apply List.pairwise_mergeSort
    · intro a b c first second
      rw [prefers_iff distinct finite] at first second ⊢
      rcases first with first | ⟨firstSame, first⟩ <;> rcases second with second | ⟨secondSame, second⟩
      · exact .inl (by omega)
      · exact .inl (by omega)
      · exact .inl (by omega)
      · exact .inr ⟨by omega, Std.le_trans first second⟩
    · intro a b
      rw [Bool.or_eq_true, prefers_iff distinct finite, prefers_iff distinct finite]
      have names := Std.le_total (a := a) (b := b)
      by_cases same : (summaryOf vintages a).rank.toUnits = (summaryOf vintages b).rank.toUnits
      · exact names.imp (fun le => .inr ⟨same.symm, le⟩) fun le => .inr ⟨same, le⟩
      · have : (summaryOf vintages a).rank.toUnits < (summaryOf vintages b).rank.toUnits ∨
          (summaryOf vintages b).rank.toUnits < (summaryOf vintages a).rank.toUnits := by omega
        exact this.symm.imp .inl .inl
  have differ := (List.mergeSort_perm names (prefers vintages)).nodup_iff.mpr nodup
  exact (sorted.and differ).imp fun both => precedes_of_prefers distinct finite both.1 both.2

end

/-! ## The analysis -/

/-- What the analysis of some columns says of them. -/
structure Describes (columns : List String) (vintages : SortedMap String (List ColumnOutcome))
    (keyCount : Nat) (quality : ColumnQuality) : Prop where
  clean_ascend : quality.cleanColumns.Pairwise (· < ·)
  mismatched_ascend : quality.mismatchedColumns.Pairwise (· < ·)
  disjoint : ∀ column ∈ quality.cleanColumns, column ∉ quality.mismatchedColumns
  together : ∀ column, column ∈ quality.cleanColumns ∨ column ∈ quality.mismatchedColumns ↔
    column ∈ columns
  clean : ∀ column ∈ columns, column ∈ quality.cleanColumns ↔ PassesThroughout vintages column
  keys_length : quality.keyColumns.length = min keyCount quality.cleanColumns.length
  keys_nodup : quality.keyColumns.Nodup
  keys_clean : ∀ key ∈ quality.keyColumns, key ∈ quality.cleanColumns
  keys_ordered : quality.keyColumns.Pairwise (Precedes vintages)
  /-- Every key comes before every clean column that is no key. -/
  keys_first : ∀ key ∈ quality.keyColumns, ∀ column ∈ quality.cleanColumns,
    column ∉ quality.keyColumns → Precedes vintages key column

section

variable (columns : List String) (vintages : SortedMap String (List ColumnOutcome)) (keyCount : Nat)

/-- The analysis by the distinct columns. -/
theorem analyze_eq :
    let names := SortedMap.distinct columns
    let isClean (column : String) := (summaryOf vintages column).isClean vintages.size
    analyze columns vintages keyCount =
      { totalVintages := vintages.size
        cleanColumns := names.filter isClean
        mismatchedColumns := names.filter fun column => !isClean column
        keyColumns := ((names.filter isClean).mergeSort (prefers vintages)).take keyCount
        columns := .ofList (columns.map fun column => (column, summaryOf vintages column)) } := by
  intro names isClean
  have entries := SortedMap.entries_ofList_map columns (summaryOf vintages)
  have keep (p : String × ColumnSummary → Bool) :
      (SortedMap.ofList (columns.map fun column => (column, summaryOf vintages column))).entries.filter
        p = (names.filter fun column => p (column, summaryOf vintages column)).map
          fun column => (column, summaryOf vintages column) := by
    rw [entries, List.filter_map]
    rfl
  have order (cleanNames : List String) :
      (cleanNames.map fun column => (column, summaryOf vintages column)).mergeSort preferred =
        (cleanNames.mergeSort (prefers vintages)).map
          fun column => (column, summaryOf vintages column) := by
    rw [List.map_mergeSort]
    exact fun _ _ _ _ => rfl
  have first (cleanNames : List String) :
      (cleanNames.map fun column => (column, summaryOf vintages column)).map Prod.fst =
        cleanNames := by
    rw [List.map_map, Function.comp_def, List.map_id']
  rw [analyze, ColumnQuality.mk.injEq]
  refine ⟨rfl, ?_, ?_, ?_, rfl⟩
  · exact (congrArg _ (keep _)).trans (first _)
  · exact (congrArg _ (keep _)).trans (first _)
  · refine (congrArg (fun clean => ((List.mergeSort clean preferred).take keyCount).map Prod.fst)
      (keep _)).trans ?_
    dsimp only
    rw [order, ← List.map_take, first]

/-- The analysis depends on nothing but the set of the columns. -/
theorem analyze_congr {others : List String} (same : ∀ column, column ∈ columns ↔ column ∈ others) :
    analyze columns vintages keyCount = analyze others vintages keyCount := by
  have summaries : SortedMap.ofList (columns.map fun column => (column, summaryOf vintages column)) =
      .ofList (others.map fun column => (column, summaryOf vintages column)) := by
    apply SortedMap.ext_get?
    intro column
    rw [SortedMap.get?, SortedMap.get?, SortedMap.entries_ofList_map, SortedMap.entries_ofList_map,
      SortedMap.distinct_congr same]
  rw [analyze_eq, analyze_eq, SortedMap.distinct_congr same, summaries]

theorem describes_analyze (distinct : DistinctOutcomes vintages) (finite : FiniteCounts vintages) :
    Describes columns vintages keyCount (analyze columns vintages keyCount) := by
  rw [analyze_eq]
  have nodup := SortedMap.distinct_nodup columns
  have isClean (column : String) : (summaryOf vintages column).isClean vintages.size = true ↔
      PassesThroughout vintages column := isClean_summaryOf_iff distinct
  have perm := List.mergeSort_perm ((SortedMap.distinct columns).filter fun column =>
    (summaryOf vintages column).isClean vintages.size) (prefers vintages)
  have sorted := pairwise_precedes_mergeSort distinct finite (nodup.filter fun column =>
    (summaryOf vintages column).isClean vintages.size)
  exact {
    clean_ascend := (SortedMap.distinct_pairwise columns).filter _
    mismatched_ascend := (SortedMap.distinct_pairwise columns).filter _
    disjoint := by
      intro column clean mismatched
      have passed : (summaryOf vintages column).isClean vintages.size = true :=
        (List.mem_filter.mp clean).2
      have notPassed : (!(summaryOf vintages column).isClean vintages.size) = true :=
        (List.mem_filter.mp mismatched).2
      rw [passed] at notPassed
      cases notPassed
    together := by
      intro column
      simp only [List.mem_filter, SortedMap.mem_distinct, ← and_or_left]
      cases (summaryOf vintages column).isClean vintages.size <;> simp
    clean := by
      intro column member
      rw [List.mem_filter, SortedMap.mem_distinct, isClean]
      exact and_iff_right member
    keys_length := by rw [List.length_take, perm.length_eq]
    keys_nodup := (perm.nodup_iff.mpr (nodup.filter _)).sublist (List.take_sublist _ _)
    keys_clean := fun key member => perm.mem_iff.mp (List.mem_of_mem_take member)
    keys_ordered := sorted.sublist (List.take_sublist _ _)
    keys_first := by
      intro key isKey column isClean notKey
      rw [← List.take_append_drop keyCount (List.mergeSort _ _)] at sorted
      apply (List.pairwise_append.mp sorted).2.2 key isKey
      have member := perm.mem_iff.mpr isClean
      rw [← List.take_append_drop keyCount (List.mergeSort _ _), List.mem_append] at member
      exact member.resolve_left notKey }

end

/-- **The analysis of a table's columns**: it sorts the columns by whether they pass throughout and
takes the first clean ones as keys, by the greatest number of distinct values and then by name; it
depends on nothing but the set of the columns. -/
theorem analyze_sorts_columns (columns : List String)
    (vintages : SortedMap String (List ColumnOutcome)) (keyCount : Nat)
    (distinct : DistinctOutcomes vintages) (finite : FiniteCounts vintages) :
    Describes columns vintages keyCount (analyze columns vintages keyCount) ∧
      ∀ others, (∀ column, column ∈ columns ↔ column ∈ others) →
        analyze columns vintages keyCount = analyze others vintages keyCount :=
  ⟨describes_analyze columns vintages keyCount distinct finite,
    fun _ => analyze_congr columns vintages keyCount⟩

/-- A column that passes, perhaps with a number of distinct legacy values. -/
def passing (column : String) (distinct : Option Scalar) : ColumnOutcome :=
  .compared ⟨column, .empty, [], .pass, ⟨none, none⟩, ⟨{ distinct }, {}⟩⟩

/-- A column missing on one platform is not clean, and of the others one is a key. -/
theorem analyze_sorts_accounts :
    let vintages := SortedMap.ofList [("2024-01", [passing "BRANCH" (some (.integer 12)),
      passing "ACCT_ID" (some (.integer 120)), .notComparable "REGION" [.cloud]])]
    let quality := analyze ["REGION", "BRANCH", "ACCT_ID", "BRANCH"] vintages 1
    (DistinctOutcomes vintages ∧ FiniteCounts vintages) ∧ quality.keyColumns.length = 1 ∧
      quality = analyze ["ACCT_ID", "BRANCH", "REGION"] vintages 1 := by
  intro vintages quality
  have distinct : DistinctOutcomes vintages := by
    unfold DistinctOutcomes
    decide +kernel
  have finite : FiniteCounts vintages := finiteCounts_of_all (by decide +kernel)
  obtain ⟨describes, congr⟩ :=
    analyze_sorts_columns ["REGION", "BRANCH", "ACCT_ID", "BRANCH"] vintages 1 distinct finite
  refine ⟨⟨distinct, finite⟩, ?_, congr _ fun column => ?_⟩
  · rw [describes.keys_length]
    decide +kernel
  · simp only [List.mem_cons, List.not_mem_nil, or_false]
    tauto

/-- A column without a known number of distinct values comes before one with the least finite
number, by its name. -/
theorem unobserved_column_first :
    let vintages := SortedMap.ofList [("all", [passing "A" none,
      passing "B" (some (.float Binary64.greatest.neg))])]
    (DistinctOutcomes vintages ∧ FiniteCounts vintages) ∧
      (∀ count, ¬Observes vintages "A" count) ∧ Observes vintages "B" Binary64.greatest.neg ∧
      (analyze ["A", "B"] vintages 2).keyColumns = ["A", "B"] := by
  intro vintages
  have distinct : DistinctOutcomes vintages := by
    unfold DistinctOutcomes
    decide +kernel
  refine ⟨⟨distinct, finiteCounts_of_all (by decide +kernel)⟩, ?_, ?_, ?_⟩
  · intro count observed
    have nothing : (outcomesOf vintages "A").filterMap ColumnOutcome.distinct? = [] := by
      decide +kernel
    rw [observes_iff distinct, nothing] at observed
    cases observed
  · rw [observes_iff distinct]
    decide +kernel
  · have clean : (SortedMap.distinct ["A", "B"]).filter (fun column =>
        (summaryOf vintages column).isClean vintages.size) = ["A", "B"] := by
      decide +kernel
    have sorted : ["A", "B"].mergeSort (prefers vintages) = ["A", "B"] :=
      List.mergeSort_of_pairwise (by decide +kernel)
    rw [analyze_eq]
    dsimp only
    rw [clean, sorted]
    rfl

end ColumnQuality

end Reconciliation
