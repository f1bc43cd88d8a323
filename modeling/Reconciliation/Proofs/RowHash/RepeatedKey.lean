import Reconciliation.Proofs.RowHash.Join

/-! # Keys with several rows

A key is repeated if some side has several rows under it. The join of all keys counts every
repeated key once (`fullJoin_duplicateKeys`). An empty side passes the join by: all other counts
stay what the join would have made them, but no repeated key is counted. So the count reported is
the number of repeated keys exactly if no side is empty or no key is repeated
(`duplicateKeys_eq_card_iff`).
-/

namespace Reconciliation.RowHashComparison

variable (rows : Both (List HashRow)) (sampleLimit : Nat)

/-- The keys that some side has more than once. -/
def repeatedKeys : Finset RowKey :=
  (joinedKeys rows).filter fun key =>
    1 < (rows.legacy.map HashRow.key).count key ∨ 1 < (rows.cloud.map HashRow.key).count key

/-! ## The join -/

theorem length_hashesOf (platform : Platform) (key : RowKey) :
    (hashesOf (groupHashes (rows.on platform)) key).length =
      ((rows.on platform).map HashRow.key).count key := by
  rw [← Multiset.coe_card, coe_hashesOf_groupHashes, ← rowCount_eq_count]
  rfl

theorem joinKey_isDuplicate_iff (key : RowKey) :
    (joinKey (rows.map groupHashes) key).isDuplicate = true ↔
      1 < (rows.legacy.map HashRow.key).count key ∨
        1 < (rows.cloud.map HashRow.key).count key := by
  have legacy := length_hashesOf rows .legacy key
  have cloud := length_hashesOf rows .cloud key
  simp only [Both.on] at legacy cloud
  simp only [joinKey, Both.map, legacy, cloud, Bool.or_eq_true, decide_eq_true_eq]

/-- The join of all keys counts the repeated ones. -/
theorem fullJoin_duplicateKeys :
    (fullJoin rows sampleLimit).duplicateKeys = (repeatedKeys rows).card := by
  have distinct : (keyOrder rows).Nodup := SortedMap.distinct_nodup _
  have listed : repeatedKeys rows = ((keyOrder rows).filter fun key =>
      (joinKey (rows.map groupHashes) key).isDuplicate).toFinset := by
    rw [List.toFinset_filter, toFinset_keyOrder, repeatedKeys]
    simp only [joinKey_isDuplicate_iff]
  rw [listed, List.toFinset_card_of_nodup (distinct.filter _), ← List.countP_eq_length_filter,
    fullJoin, joins, List.countP_map]
  rfl

/-! ## An empty side -/

variable {rows} in
theorem mem_repeatedKeys_iff {key : RowKey} :
    key ∈ repeatedKeys rows ↔
      ∃ platform, 1 < ((rows.on platform).map HashRow.key).count key := by
  rw [repeatedKeys, Finset.mem_filter]
  constructor
  · rintro ⟨-, legacy | cloud⟩
    · exact ⟨.legacy, legacy⟩
    · exact ⟨.cloud, cloud⟩
  · rintro ⟨platform, several⟩
    have member := List.count_pos_iff.mp (Nat.zero_lt_of_lt several)
    refine ⟨mem_joinedKeys_of_mem rows member, ?_⟩
    cases platform with
    | legacy => exact Or.inl several
    | cloud => exact Or.inr several

theorem repeatedKeys_eq_empty_iff :
    repeatedKeys rows = ∅ ↔ ∀ platform, ((rows.on platform).map HashRow.key).Nodup := by
  simp only [Finset.eq_empty_iff_forall_notMem, mem_repeatedKeys_iff, not_exists, Nat.not_lt,
    List.nodup_iff_count_le_one]
  exact forall_comm

/-- An empty side hides the repeated keys. -/
theorem reconcile_duplicateKeys :
    (reconcile rows sampleLimit).duplicateKeys =
      if rows.legacy = [] ∨ rows.cloud = [] then 0 else (repeatedKeys rows).card := by
  by_cases empty : rows.legacy = [] ∨ rows.cloud = []
  · obtain ⟨platform, none⟩ := exists_empty_iff.mpr empty
    rw [if_pos empty, reconcile_of_empty rows sampleLimit none]
    rfl
  · have some := not_exists.mp (exists_empty_iff.not.mpr empty)
    rw [if_neg empty, reconcile_of_nonempty rows sampleLimit some, fullJoin_duplicateKeys]

/-- **When the repeated keys are counted.** With or without a join, a comparison has the same
numbers of rows, of equal and unequal pairs and of rows left over. The join counts the repeated
keys as well; an empty side hides them, so their number is reported exactly if both sides have rows
or no key is repeated. -/
theorem duplicateKeys_eq_card_iff (rows : Both (List HashRow)) (sampleLimit : Nat) :
    let result := reconcile rows sampleLimit
    let joined := fullJoin rows sampleLimit
    (result.rows = joined.rows ∧ result.matched = joined.matched ∧
      result.hashMismatch = joined.hashMismatch ∧ result.only = joined.only) ∧
    joined.duplicateKeys = (repeatedKeys rows).card ∧
    (result.duplicateKeys =
      if rows.legacy = [] ∨ rows.cloud = [] then 0 else (repeatedKeys rows).card) ∧
    (result.duplicateKeys = (repeatedKeys rows).card ↔
      (∀ platform, rows.on platform ≠ []) ∨
        ∀ platform, ((rows.on platform).map HashRow.key).Nodup) := by
  intro result joined
  have reported : result.duplicateKeys =
      if rows.legacy = [] ∨ rows.cloud = [] then 0 else (repeatedKeys rows).card :=
    reconcile_duplicateKeys rows sampleLimit
  refine ⟨reconcile_counts rows sampleLimit, fullJoin_duplicateKeys rows sampleLimit,
    reported, ?_⟩
  have nonempty : (∀ platform, rows.on platform ≠ []) ↔ ¬(rows.legacy = [] ∨ rows.cloud = []) := by
    rw [← exists_empty_iff, not_exists]
  rw [reported, ← repeatedKeys_eq_empty_iff, nonempty]
  by_cases empty : rows.legacy = [] ∨ rows.cloud = []
  · rw [if_pos empty, eq_comm, Finset.card_eq_zero]
    simp only [empty, not_true_eq_false, false_or]
  · simp only [empty, ↓reduceIte, not_false_eq_true, true_or]

/-- Two rows of one key stand against an empty side, and no key is counted as repeated. -/
theorem repeatedKey_not_counted :
    let key : RowKey := ⟨[some "1"]⟩
    let rows : Both (List HashRow) := ⟨[⟨key, "a"⟩, ⟨key, "b"⟩], []⟩
    (reconcile rows 100).duplicateKeys = 0 ∧ (repeatedKeys rows).card = 1 ∧
      (fullJoin rows 100).duplicateKeys = 1 := by
  intro key rows
  have repeated : (repeatedKeys rows).card = 1 := by decide +kernel
  exact ⟨rfl, repeated, (fullJoin_duplicateKeys rows 100).trans repeated⟩

end Reconciliation.RowHashComparison
