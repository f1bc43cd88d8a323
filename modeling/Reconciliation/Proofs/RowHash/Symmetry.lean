import Mathlib.Data.List.Zip
import Reconciliation.Proofs.RowHash.Samples

/-! # The order of rows and of sides

Keys are joined in their own order, and the digests of a key are paired in theirs, so the join
depends on the rows of a side but not on the order in which they come (`fullJoin_of_perm`). Both
sides are treated alike: exchanging them exchanges all that a comparison tells of either side
(`reconcile_swap`). Only where a side is empty do the samples of the other list its rows as they
come.
-/

namespace Reconciliation

/-- A pair that differs, with its sides exchanged. -/
def HashMismatch.swap (pair : HashMismatch) : HashMismatch :=
  { pair with hashes := pair.hashes.swap }

namespace RowHashComparison

/-- The comparison of the sides exchanged. -/
def swap (comparison : RowHashComparison) : RowHashComparison :=
  { comparison with
    rows := comparison.rows.swap
    only := comparison.only.swap
    sampleMismatches := comparison.sampleMismatches.map HashMismatch.swap
    sampleOnly := comparison.sampleOnly.swap }

/-- The join of one key with the sides exchanged. -/
def KeyJoin.swap (join : KeyJoin) : KeyJoin :=
  { join with
    mismatches := join.mismatches.map HashMismatch.swap
    only := join.only.swap }

/-! ## Rows in another order -/

theorem hashesOf_of_perm {side other : List HashRow} (perm : other.Perm side) (key : RowKey) :
    hashesOf (groupHashes other) key = hashesOf (groupHashes side) key := by
  have bags : (hashesOf (groupHashes side) key : Multiset String) = hashBag other key := by
    rw [coe_hashesOf_groupHashes, perm_iff_hashBag.mp perm]
  exact hashesOf_eq bags (hashesOf_pairwise _ key)

section

variable {rows others : Both (List HashRow)}
  (same : ∀ platform, (others.on platform).Perm (rows.on platform)) (sampleLimit : Nat)
include same

theorem keyOrder_of_perm : keyOrder others = keyOrder rows := by
  apply SortedMap.distinct_congr
  intro key
  rw [List.mem_append, List.mem_append, mem_keys_groupHashes, mem_keys_groupHashes,
    mem_keys_groupHashes, mem_keys_groupHashes]
  exact or_congr ((same .legacy).map HashRow.key).mem_iff ((same .cloud).map HashRow.key).mem_iff

theorem joins_of_perm : joins others = joins rows := by
  rw [joins, joins, keyOrder_of_perm same]
  refine List.map_congr_left fun key _ => ?_
  have hashes : (others.map groupHashes).map (hashesOf · key) =
      (rows.map groupHashes).map (hashesOf · key) := by
    apply Both.ext_on
    intro platform
    simp only [Both.on_map]
    exact hashesOf_of_perm (same platform) key
  rw [joinKey, joinKey, hashes]

theorem lengths_of_perm : others.map List.length = rows.map List.length := by
  apply Both.ext_on
  intro platform
  rw [Both.on_map, Both.on_map, (same platform).length_eq]

theorem fullJoin_of_perm : fullJoin others sampleLimit = fullJoin rows sampleLimit := by
  rw [fullJoin, fullJoin, joins_of_perm same, lengths_of_perm same]

theorem reconcile_of_perm_of_nonempty (some : ∀ platform, rows.on platform ≠ []) :
    reconcile others sampleLimit = reconcile rows sampleLimit := by
  have someOther : ∀ platform, others.on platform ≠ [] := by
    intro platform none
    exact some platform (none ▸ same platform).nil_eq.symm
  rw [reconcile_of_nonempty _ _ some, reconcile_of_nonempty _ _ someOther, fullJoin_of_perm same]

/-- An empty side makes the samples depend on the order of the rows, but nothing that is counted. -/
theorem withoutSamples_of_perm :
    (reconcile others sampleLimit).withoutSamples =
      (reconcile rows sampleLimit).withoutSamples := by
  by_cases empty : ∃ platform, rows.on platform = []
  · obtain ⟨platform, none⟩ := empty
    have noneOther : others.on platform = [] := (none ▸ same platform).eq_nil
    rw [reconcile_of_empty _ _ none, reconcile_of_empty _ _ noneOther]
    simp only [withoutSamples, unjoined, lengths_of_perm same]
  · rw [reconcile_of_perm_of_nonempty same sampleLimit (not_exists.mp empty)]

end

/-! ## The sides exchanged -/

/-- The pass over two ascending lists may take them in either order. -/
theorem pairEqual_swap (legacy cloud : List String) :
    pairEqual cloud legacy = (pairEqual legacy cloud).swap := by
  induction legacy, cloud using pairEqual.induct with
  | case1 cloud =>
      cases cloud with
      | nil =>
          rw [pairEqual]
          rfl
      | cons hash hashes =>
          rw [pairEqual, pairEqual]
          · rfl
          · exact List.cons_ne_nil _ _
  | case2 legacy nonempty =>
      cases legacy with
      | nil => exact (nonempty rfl).elim
      | cons hash hashes =>
          rw [pairEqual, pairEqual]
          · rfl
          · exact nonempty
  | case3 hash legacy cloud ih =>
      rw [pairEqual, pairEqual, if_pos rfl, if_pos rfl, ih]
      rfl
  | case4 left legacy right cloud different less ih =>
      have notLess : ¬right < left := fun above => Std.lt_irrefl (Std.lt_trans less above)
      rw [pairEqual, pairEqual, if_neg different, if_neg (Ne.symm different), if_pos less,
        if_neg notLess, ih]
      rfl
  | case5 left legacy right cloud different notLess ih =>
      have above : right < left :=
        Std.lt_of_le_of_ne (Std.not_lt.mp notLess) (Ne.symm different)
      rw [pairEqual, pairEqual, if_neg different, if_neg (Ne.symm different), if_neg notLess,
        if_pos above, ih]
      rfl

section

variable (rows : Both (List HashRow)) (sampleLimit : Nat)

theorem keyOrder_swap : keyOrder rows.swap = keyOrder rows := by
  apply SortedMap.distinct_congr
  intro key
  rw [List.mem_append, List.mem_append, or_comm]
  rfl

theorem joinKey_swap (key : RowKey) :
    joinKey (rows.swap.map groupHashes) key = (joinKey (rows.map groupHashes) key).swap := by
  have exchanged := pairEqual_swap (hashesOf (groupHashes rows.legacy) key)
    (hashesOf (groupHashes rows.cloud) key)
  simp only [joinKey, KeyJoin.swap, Both.map, Both.swap, exchanged, EqualPairing.swap,
    KeyJoin.mk.injEq, true_and]
  refine ⟨Bool.or_comm .., ?_⟩
  rw [← List.zip_swap, List.map_map, List.map_map]
  exact ⟨rfl, trivial⟩

theorem joins_swap : joins rows.swap = (joins rows).map KeyJoin.swap := by
  rw [joins, joins, keyOrder_swap, List.map_map]
  exact List.map_congr_left fun key _ => joinKey_swap rows key

theorem fullJoin_swap : fullJoin rows.swap sampleLimit = (fullJoin rows sampleLimit).swap := by
  have mismatches : (joins rows.swap).flatMap KeyJoin.mismatches =
      ((joins rows).flatMap KeyJoin.mismatches).map HashMismatch.swap := by
    rw [joins_swap, List.flatMap_map, List.map_flatMap]
    rfl
  have only (platform : Platform) : (joins rows.swap).flatMap (·.only.on platform) =
      (joins rows).flatMap (·.only.on platform.other) := by
    rw [joins_swap, List.flatMap_map]
    simp only [KeyJoin.swap, Both.on_swap]
  have matched : (joins rows.swap).map KeyJoin.matched = (joins rows).map KeyJoin.matched := by
    rw [joins_swap, List.map_map]
    rfl
  have duplicates : (joins rows.swap).countP KeyJoin.isDuplicate =
      (joins rows).countP KeyJoin.isDuplicate := by
    rw [joins_swap, List.countP_map]
    rfl
  simp only [fullJoin, swap, mismatches, only, matched, duplicates, List.length_map,
    List.map_take]
  rfl

/-- Exchanging the sides exchanges what a comparison tells of them. -/
theorem reconcile_swap :
    reconcile rows.swap sampleLimit = (reconcile rows sampleLimit).swap := by
  by_cases empty : ∃ platform, rows.on platform = []
  · obtain ⟨platform, none⟩ := empty
    have noneSwapped : rows.swap.on platform.other = [] := by
      cases platform <;> exact none
    rw [reconcile_of_empty _ _ none, reconcile_of_empty _ _ noneSwapped]
    rfl
  · have some := not_exists.mp empty
    have someSwapped : ∀ platform, rows.swap.on platform ≠ [] := by
      intro platform
      rw [Both.on_swap]
      exact some platform.other
    rw [reconcile_of_nonempty _ _ some, reconcile_of_nonempty _ _ someSwapped, fullJoin_swap]

end

/-- **No order matters.** Rows that come in another order are counted alike, and where both sides
have rows the whole comparison is the same, samples included. The sides exchanged give the
comparison with all that it tells of either side exchanged. -/
theorem reconcile_ignores_order {rows others : Both (List HashRow)}
    (same : ∀ platform, (others.on platform).Perm (rows.on platform)) (sampleLimit : Nat) :
    (reconcile others sampleLimit).withoutSamples =
        (reconcile rows sampleLimit).withoutSamples ∧
      ((∀ platform, rows.on platform ≠ []) →
        reconcile others sampleLimit = reconcile rows sampleLimit) ∧
      reconcile rows.swap sampleLimit = (reconcile rows sampleLimit).swap :=
  ⟨withoutSamples_of_perm same sampleLimit, reconcile_of_perm_of_nonempty same sampleLimit,
    reconcile_swap rows sampleLimit⟩

/-- Two rows of one key may come in either order. -/
theorem reconcile_ignores_order_duplicates :
    let key : RowKey := ⟨[some "1"]⟩
    let rows : Both (List HashRow) := ⟨[⟨key, "b"⟩, ⟨key, "a"⟩], [⟨key, "c"⟩]⟩
    let others : Both (List HashRow) := ⟨[⟨key, "a"⟩, ⟨key, "b"⟩], [⟨key, "c"⟩]⟩
    (∀ platform, (others.on platform).Perm (rows.on platform)) ∧
      (∀ platform, rows.on platform ≠ []) ∧
      reconcile others 5 = reconcile rows 5 ∧
      reconcile rows.swap 5 = (reconcile rows 5).swap := by
  intro key rows others
  have same : ∀ platform, (others.on platform).Perm (rows.on platform) := by
    intro platform
    cases platform with
    | legacy => exact List.Perm.swap _ _ _
    | cloud => exact List.Perm.refl _
  have some : ∀ platform, rows.on platform ≠ [] := by
    intro platform
    cases platform <;> exact List.cons_ne_nil _ _
  obtain ⟨-, whole, exchanged⟩ := reconcile_ignores_order same 5
  exact ⟨same, some, whole some, exchanged⟩

end RowHashComparison

end Reconciliation
