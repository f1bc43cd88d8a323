import Mathlib.Algebra.BigOperators.Group.Finset.Basic
import Mathlib.Algebra.GroupWithZero.Nat
import Mathlib.Algebra.Order.BigOperators.Group.Finset
import Reconciliation.Proofs.RowHash.Pairing

/-! # Reconciling rows is a multiset join

Under every key the rows of both platforms are two multisets of digests. Reconciling counts, summed
over all keys, their common part, the pairs that can be made of what is left, and the surplus of
either side (`reconcile_joins_multisets`). An empty side needs no join and is counted the
same way. Nothing is lost or counted twice, so the sides match exactly if they hold the same rows
in some order.
-/

namespace Reconciliation.RowHashComparison

variable (rows : Both (List HashRow)) (sampleLimit : Nat)

/-- The keys of the rows of both platforms. -/
def joinedKeys : Finset RowKey :=
  ((rows.legacy ++ rows.cloud).map HashRow.key).toFinset

/-- The number of rows of a platform under a key. -/
def rowCount (platform : Platform) (key : RowKey) : Nat :=
  (hashBag (rows.on platform) key).card

/-- The number of pairs with equal digests that the rows under a key allow. -/
def commonCount (key : RowKey) : Nat :=
  (hashBag rows.legacy key ∩ hashBag rows.cloud key).card

theorem commonCount_le (platform : Platform) (key : RowKey) :
    commonCount rows key ≤ rowCount rows platform key := by
  cases platform with
  | legacy => exact Multiset.card_le_card Multiset.inter_le_left
  | cloud => exact Multiset.card_le_card Multiset.inter_le_right

/-! ## One key -/

namespace EqualPairing

variable {pairing : EqualPairing} {legacy cloud : Multiset String}

/-- As many digests of the legacy side are left over as are not paired. -/
theorem Pairs.length_legacyRest (pairs : pairing.Pairs legacy cloud) :
    pairing.rest.legacy.length = legacy.card - (legacy ∩ cloud).card := by
  rw [← Multiset.coe_card, pairs.legacyRest, ← Multiset.sub_inter,
    Multiset.card_sub Multiset.inter_le_left]

/-- As many digests of the cloud side are left over as are not paired. -/
theorem Pairs.length_cloudRest (pairs : pairing.Pairs legacy cloud) :
    pairing.rest.cloud.length = cloud.card - (legacy ∩ cloud).card := by
  rw [Multiset.inter_comm]
  exact pairs.swap.length_legacyRest

end EqualPairing

/-- The join of one key pairs the digests of its rows. -/
theorem pairEqual_hashesOf (key : RowKey) :
    (pairEqual (hashesOf (groupHashes rows.legacy) key)
        (hashesOf (groupHashes rows.cloud) key)).Pairs
      (hashBag rows.legacy key) (hashBag rows.cloud key) := by
  have pairs := pairEqual_pairs (hashesOf_pairwise (groupHashes rows.legacy) key)
    (hashesOf_pairwise (groupHashes rows.cloud) key)
  rwa [coe_hashesOf_groupHashes, coe_hashesOf_groupHashes] at pairs

/-- The join of one key matches the common digests. -/
theorem joinKey_matched (key : RowKey) :
    (joinKey (rows.map groupHashes) key).matched = commonCount rows key :=
  (pairEqual_hashesOf rows key).common

/-- The join of one key pairs what both sides have left. -/
theorem length_joinKey_mismatches (key : RowKey) :
    (joinKey (rows.map groupHashes) key).mismatches.length =
      min (rowCount rows .legacy key - commonCount rows key)
        (rowCount rows .cloud key - commonCount rows key) := by
  have pairs := pairEqual_hashesOf rows key
  have legacyRest := pairs.length_legacyRest
  have cloudRest := pairs.length_cloudRest
  simp only [joinKey, Both.map, List.length_map, List.length_zip, legacyRest, cloudRest]
  rfl

/-- The join of one key leaves the surplus of each side over. -/
theorem length_joinKey_only (platform : Platform) (key : RowKey) :
    ((joinKey (rows.map groupHashes) key).only.on platform).length =
      rowCount rows platform key - rowCount rows platform.other key := by
  have pairs := pairEqual_hashesOf rows key
  have legacyRest := pairs.length_legacyRest
  have cloudRest := pairs.length_cloudRest
  have legacyBound := commonCount_le rows .legacy key
  have cloudBound := commonCount_le rows .cloud key
  simp only [rowCount, commonCount, Both.on] at legacyBound cloudBound
  cases platform with
  | legacy =>
      simp only [joinKey, Both.map, Both.on, List.length_replicate, legacyRest, cloudRest,
        rowCount, Platform.other]
      omega
  | cloud =>
      simp only [joinKey, Both.map, Both.on, List.length_replicate, legacyRest, cloudRest,
        rowCount, Platform.other]
      omega

/-! ## All keys -/

/-- The keys in the order in which they are joined. -/
def keyOrder : List RowKey :=
  SortedMap.distinct ((groupHashes rows.legacy).keys ++ (groupHashes rows.cloud).keys)

theorem toFinset_keyOrder : (keyOrder rows).toFinset = joinedKeys rows := by
  ext key
  rw [List.mem_toFinset, keyOrder, SortedMap.mem_distinct, List.mem_append, mem_keys_groupHashes,
    mem_keys_groupHashes, joinedKeys, List.mem_toFinset, List.map_append, List.mem_append]

/-- The joins of all keys. -/
def joins : List KeyJoin :=
  (keyOrder rows).map (joinKey (rows.map groupHashes))

/-- What the joins of all keys add up to. -/
theorem sum_joins (measure : KeyJoin → Nat) :
    ((joins rows).map measure).sum =
      ∑ key ∈ joinedKeys rows, measure (joinKey (rows.map groupHashes) key) := by
  have distinct : (keyOrder rows).Nodup := SortedMap.distinct_nodup _
  rw [← toFinset_keyOrder, List.sum_toFinset _ distinct, joins, List.map_map]
  rfl

/-- The rows under a key are those that have the key. -/
theorem rowCount_eq_count (platform : Platform) (key : RowKey) :
    rowCount rows platform key = ((rows.on platform).map HashRow.key).count key := by
  rw [rowCount, hashBag, Multiset.card_map, ← Multiset.coe_count, ← Multiset.map_coe,
    Multiset.count_map]
  simp only [eq_comm]

theorem mem_joinedKeys_of_mem {platform : Platform} {key : RowKey}
    (member : key ∈ (rows.on platform).map HashRow.key) : key ∈ joinedKeys rows := by
  rw [joinedKeys, List.mem_toFinset, List.map_append, List.mem_append]
  cases platform with
  | legacy => exact Or.inl member
  | cloud => exact Or.inr member

/-- Every row of a platform counts under its own key. -/
theorem sum_rowCount (platform : Platform) :
    ∑ key ∈ joinedKeys rows, rowCount rows platform key = (rows.on platform).length := by
  have keys : ∀ key ∈ ((rows.on platform).map HashRow.key : Multiset RowKey),
      key ∈ joinedKeys rows := fun _ member => mem_joinedKeys_of_mem rows member
  simp only [rowCount_eq_count, ← Multiset.coe_count]
  rw [Multiset.sum_count_eq_card keys, Multiset.coe_card, List.length_map]

/-! ## The whole join -/

/-- The comparison that joins all keys, whether or not a side is empty. -/
def fullJoin : RowHashComparison :=
  let mismatches := (joins rows).flatMap KeyJoin.mismatches
  let only : Both (List RowKey) :=
    .tabulate fun platform => (joins rows).flatMap (·.only.on platform)
  { rows := rows.map List.length
    matched := ((joins rows).map KeyJoin.matched).sum
    hashMismatch := mismatches.length
    only := only.map List.length
    duplicateKeys := (joins rows).countP KeyJoin.isDuplicate
    sampleMismatches := mismatches.take sampleLimit
    sampleOnly := only.map (List.take sampleLimit) }

/-- The comparison without a join, in which every row is left over. -/
def unjoined : RowHashComparison where
  rows := rows.map List.length
  only := rows.map List.length
  sampleOnly := rows.map fun side => (side.take sampleLimit).map HashRow.key

variable {rows} in
theorem exists_empty_iff :
    (∃ platform, rows.on platform = []) ↔ rows.legacy = [] ∨ rows.cloud = [] := by
  constructor
  · rintro ⟨platform, none⟩
    cases platform with
    | legacy => exact Or.inl none
    | cloud => exact Or.inr none
  · rintro (none | none)
    · exact ⟨.legacy, none⟩
    · exact ⟨.cloud, none⟩

/-- An empty side passes the join by. -/
theorem reconcile_of_empty {platform : Platform} (none : rows.on platform = []) :
    reconcile rows sampleLimit = unjoined rows sampleLimit := by
  have empty : (rows.legacy.isEmpty || rows.cloud.isEmpty) = true := by
    rw [Bool.or_eq_true_iff, List.isEmpty_iff, List.isEmpty_iff]
    exact exists_empty_iff.mp ⟨platform, none⟩
  rw [reconcile, if_pos empty]
  rfl

/-- Where both sides have rows, all keys are joined. -/
theorem reconcile_of_nonempty (some : ∀ platform, rows.on platform ≠ []) :
    reconcile rows sampleLimit = fullJoin rows sampleLimit := by
  have nonempty : ¬(rows.legacy.isEmpty || rows.cloud.isEmpty) = true := by
    rw [Bool.or_eq_true_iff, List.isEmpty_iff, List.isEmpty_iff, ← exists_empty_iff, not_exists]
    exact some
  rw [reconcile, if_neg nonempty]
  rfl

variable {rows} in
/-- A side without rows has none under any key. -/
theorem rowCount_eq_zero {platform : Platform} (none : rows.on platform = []) (key : RowKey) :
    rowCount rows platform key = 0 := by
  rw [rowCount, none]
  rfl

variable {rows} in
/-- Where a side has no rows, nothing is in common. -/
theorem commonCount_eq_zero {platform : Platform} (none : rows.on platform = []) (key : RowKey) :
    commonCount rows key = 0 :=
  Nat.le_zero.mp (rowCount_eq_zero none key ▸ commonCount_le rows platform key)

variable {rows} in
/-- Where a side has no rows, all rows under a key are surplus. -/
theorem surplus_of_empty {emptySide : Platform} (none : rows.on emptySide = [])
    (platform : Platform) (key : RowKey) :
    rowCount rows platform key - rowCount rows platform.other key =
      rowCount rows platform key := by
  have absent := rowCount_eq_zero none key
  by_cases own : emptySide = platform
  · rw [← own, absent, Nat.zero_sub]
  · have other : emptySide = platform.other := by
      cases emptySide <;> cases platform <;> first | rfl | exact (own rfl).elim
    rw [← other, absent, Nat.sub_zero]

theorem fullJoin_matched :
    (fullJoin rows sampleLimit).matched = ∑ key ∈ joinedKeys rows, commonCount rows key :=
  (sum_joins rows KeyJoin.matched).trans
    (Finset.sum_congr rfl fun key _ => joinKey_matched rows key)

theorem fullJoin_hashMismatch :
    (fullJoin rows sampleLimit).hashMismatch =
      ∑ key ∈ joinedKeys rows, min (rowCount rows .legacy key - commonCount rows key)
        (rowCount rows .cloud key - commonCount rows key) := by
  refine (List.length_flatMap ..).trans ((sum_joins rows _).trans ?_)
  exact Finset.sum_congr rfl fun key _ => length_joinKey_mismatches rows key

theorem fullJoin_only (platform : Platform) :
    (fullJoin rows sampleLimit).only.on platform =
      ∑ key ∈ joinedKeys rows,
        (rowCount rows platform key - rowCount rows platform.other key) := by
  have joined : (fullJoin rows sampleLimit).only.on platform =
      ((joins rows).flatMap (·.only.on platform)).length := by
    rw [fullJoin, Both.on_map, Both.on_tabulate]
  rw [joined, List.length_flatMap]
  refine (sum_joins rows _).trans (Finset.sum_congr rfl fun key _ => ?_)
  exact length_joinKey_only rows platform key

/-- Without a join the counts are those of the join: with nothing on a side, no digest and no key
is common to both, and every row is surplus. -/
theorem unjoined_counts {emptySide : Platform} (none : rows.on emptySide = []) :
    let result := unjoined rows sampleLimit
    let joined := fullJoin rows sampleLimit
    result.matched = joined.matched ∧ result.hashMismatch = joined.hashMismatch ∧
      result.only = joined.only := by
  intro result joined
  refine ⟨?_, ?_, Both.ext_on fun platform => ?_⟩
  · rw [fullJoin_matched]
    exact (Finset.sum_eq_zero fun key _ => commonCount_eq_zero none key).symm
  · rw [fullJoin_hashMismatch]
    refine (Finset.sum_eq_zero fun key _ => ?_).symm
    have absent := rowCount_eq_zero none key
    cases emptySide with
    | legacy => rw [absent, Nat.zero_sub, Nat.zero_min]
    | cloud => rw [absent, Nat.zero_sub, Nat.min_zero]
  · simp only [joined, result, fullJoin_only, surplus_of_empty none, sum_rowCount, unjoined,
      Both.on_map]

/-- An empty side changes no number of rows or pairs. -/
theorem reconcile_counts :
    let result := reconcile rows sampleLimit
    let joined := fullJoin rows sampleLimit
    result.rows = joined.rows ∧ result.matched = joined.matched ∧
      result.hashMismatch = joined.hashMismatch ∧ result.only = joined.only := by
  intro result joined
  by_cases empty : ∃ platform, rows.on platform = []
  · obtain ⟨platform, none⟩ := empty
    have passed : result = unjoined rows sampleLimit := reconcile_of_empty rows sampleLimit none
    rw [passed]
    exact ⟨rfl, unjoined_counts rows sampleLimit none⟩
  · have same : result = joined :=
      reconcile_of_nonempty rows sampleLimit (not_exists.mp empty)
    rw [same]
    exact ⟨rfl, rfl, rfl, rfl⟩

/-- Equal digests are counted key by key. -/
theorem reconcile_matched :
    (reconcile rows sampleLimit).matched = ∑ key ∈ joinedKeys rows, commonCount rows key :=
  (reconcile_counts rows sampleLimit).2.1.trans (fullJoin_matched rows sampleLimit)

/-- Pairs of digests that differ are counted key by key. -/
theorem reconcile_hashMismatch :
    (reconcile rows sampleLimit).hashMismatch =
      ∑ key ∈ joinedKeys rows, min (rowCount rows .legacy key - commonCount rows key)
        (rowCount rows .cloud key - commonCount rows key) :=
  (reconcile_counts rows sampleLimit).2.2.1.trans (fullJoin_hashMismatch rows sampleLimit)

/-- The rows left over on a side are its surplus, key by key. -/
theorem reconcile_only (platform : Platform) :
    (reconcile rows sampleLimit).only.on platform =
      ∑ key ∈ joinedKeys rows,
        (rowCount rows platform key - rowCount rows platform.other key) := by
  rw [(reconcile_counts rows sampleLimit).2.2.2, fullJoin_only]

/-- The numbers of rows are those of the lists. -/
theorem reconcile_rows : (reconcile rows sampleLimit).rows = rows.map List.length :=
  (reconcile_counts rows sampleLimit).1

/-- Every row of a side is matched, paired with one that differs, or left over. -/
theorem reconcile_conserves (platform : Platform) :
    (reconcile rows sampleLimit).rows.on platform =
      (reconcile rows sampleLimit).matched + (reconcile rows sampleLimit).hashMismatch +
        (reconcile rows sampleLimit).only.on platform := by
  have size : (reconcile rows sampleLimit).rows.on platform = (rows.on platform).length := by
    rw [reconcile_rows]
    cases platform <;> rfl
  rw [size, ← sum_rowCount, reconcile_matched, reconcile_hashMismatch, reconcile_only,
    ← Finset.sum_add_distrib, ← Finset.sum_add_distrib]
  refine Finset.sum_congr rfl fun key _ => ?_
  have legacyBound := commonCount_le rows .legacy key
  have cloudBound := commonCount_le rows .cloud key
  cases platform <;> simp only [Platform.other] <;> omega

/-! ## The same rows -/

/-- A row occurs as often as its digest does under its key. -/
theorem count_hashBag (side : List HashRow) (row : HashRow) :
    (hashBag side row.key).count row.hash = side.count row := by
  rw [hashBag, Multiset.count_map, Multiset.filter_filter, ← Multiset.coe_count,
    Multiset.count_eq_card_filter_eq]
  congr 1
  refine Multiset.filter_congr fun other _ => ?_
  obtain ⟨key, hash⟩ := row
  obtain ⟨otherKey, otherHash⟩ := other
  simp only [HashRow.mk.injEq]
  constructor
  · rintro ⟨hashes, keys⟩
    exact ⟨keys.symm, hashes⟩
  · rintro ⟨keys, hashes⟩
    exact ⟨hashes, keys.symm⟩

/-- Two lists hold the same rows if they have the same digests under every key. -/
theorem perm_iff_hashBag {first second : List HashRow} :
    first.Perm second ↔ ∀ key, hashBag first key = hashBag second key := by
  constructor
  · intro perm key
    rw [hashBag, hashBag, Multiset.coe_eq_coe.mpr perm]
  · intro same
    rw [List.perm_iff_count]
    intro row
    rw [← count_hashBag, ← count_hashBag, same]

/-- Under a key that no row has there are no digests. -/
theorem hashBag_eq_zero {key : RowKey} (absent : key ∉ joinedKeys rows) (platform : Platform) :
    hashBag (rows.on platform) key = 0 := by
  rw [hashBag, Multiset.map_eq_zero, Multiset.filter_eq_nil]
  intro row member same
  exact absent (mem_joinedKeys_of_mem rows (List.mem_map.mpr ⟨row, member, same⟩))

/-- Two multisets are equal if their common part is as large as both. -/
theorem eq_of_card_inter {first second : Multiset String}
    (firstCard : first.card = (first ∩ second).card)
    (secondCard : second.card = (first ∩ second).card) : first = second := by
  have below := Multiset.eq_of_le_of_card_le Multiset.inter_le_left firstCard.le
  have above := Multiset.eq_of_le_of_card_le Multiset.inter_le_right secondCard.le
  exact below.symm.trans above

/-- Nothing differs and nothing is left over exactly if each key has the same digests on both
sides. -/
theorem reconcile_isMatch_iff_hashBag :
    (reconcile rows sampleLimit).isMatch = true ↔
      ∀ key, hashBag rows.legacy key = hashBag rows.cloud key := by
  have legacyOnly := reconcile_only rows sampleLimit .legacy
  have cloudOnly := reconcile_only rows sampleLimit .cloud
  simp only [Both.on] at legacyOnly cloudOnly
  simp only [isMatch, Bool.and_eq_true, beq_iff_eq, legacyOnly, cloudOnly, reconcile_hashMismatch,
    Finset.sum_eq_zero_iff, Platform.other]
  constructor
  · rintro ⟨⟨mismatch, legacySurplus⟩, cloudSurplus⟩ key
    by_cases joined : key ∈ joinedKeys rows
    · have pairs := mismatch key joined
      have legacySurplus := legacySurplus key joined
      have cloudSurplus := cloudSurplus key joined
      have legacyBound := commonCount_le rows .legacy key
      have cloudBound := commonCount_le rows .cloud key
      have legacyCard : rowCount rows .legacy key = commonCount rows key := by omega
      have cloudCard : rowCount rows .cloud key = commonCount rows key := by omega
      exact eq_of_card_inter legacyCard cloudCard
    · exact (hashBag_eq_zero rows joined .legacy).trans (hashBag_eq_zero rows joined .cloud).symm
  · intro same
    have counts : ∀ key, rowCount rows .legacy key = rowCount rows .cloud key := fun key =>
      congrArg Multiset.card (same key)
    have common : ∀ key, commonCount rows key = rowCount rows .cloud key := by
      intro key
      rw [commonCount, same, ← Multiset.inf_eq_inter, inf_idem]
      rfl
    refine ⟨⟨fun key _ => ?_, fun key _ => ?_⟩, fun key _ => ?_⟩
    · rw [counts, common, Nat.sub_self, Nat.min_self]
    · rw [counts, Nat.sub_self]
    · rw [counts, Nat.sub_self]

/-- **Reconciling is a multiset join.** Summed over the keys of both sides, equal digests are
matched, those left under one key are paired, and the surplus is left over on its side. So every
row is counted once, and the sides match exactly if one is a permutation of the other. -/
theorem reconcile_joins_multisets (rows : Both (List HashRow)) (sampleLimit : Nat) :
    let result := reconcile rows sampleLimit
    let legacy := fun key => (hashBag rows.legacy key).card
    let cloud := fun key => (hashBag rows.cloud key).card
    let common := fun key => (hashBag rows.legacy key ∩ hashBag rows.cloud key).card
    (result.matched = ∑ key ∈ joinedKeys rows, common key ∧
      result.hashMismatch =
        ∑ key ∈ joinedKeys rows, min (legacy key - common key) (cloud key - common key) ∧
      result.only.legacy = ∑ key ∈ joinedKeys rows, (legacy key - cloud key) ∧
      result.only.cloud = ∑ key ∈ joinedKeys rows, (cloud key - legacy key)) ∧
    (result.rows = ⟨rows.legacy.length, rows.cloud.length⟩ ∧
      result.rows.legacy = result.matched + result.hashMismatch + result.only.legacy ∧
      result.rows.cloud = result.matched + result.hashMismatch + result.only.cloud) ∧
    (result.isMatch = true ↔ rows.cloud.Perm rows.legacy) := by
  intro result legacy cloud common
  refine ⟨⟨?_, ?_, ?_, ?_⟩, ⟨?_, ?_, ?_⟩, ?_⟩
  · exact reconcile_matched rows sampleLimit
  · exact reconcile_hashMismatch rows sampleLimit
  · exact reconcile_only rows sampleLimit .legacy
  · exact reconcile_only rows sampleLimit .cloud
  · exact reconcile_rows rows sampleLimit
  · exact reconcile_conserves rows sampleLimit .legacy
  · exact reconcile_conserves rows sampleLimit .cloud
  · rw [reconcile_isMatch_iff_hashBag, List.perm_comm, perm_iff_hashBag]

end Reconciliation.RowHashComparison
