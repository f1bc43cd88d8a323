import Mathlib.Data.Multiset.UnionInter
import Reconciliation.Proofs.SortedMap
import Reconciliation.RowHash.Comparison

/-! # Pairing the digests of one key

One pass over two ascending lists takes out exactly their common members: it counts the
intersection of the two multisets and leaves the two differences
(`pairEqual_pairs`). The digests that a pass runs over are those of the rows of the key
(`coe_hashesOf_groupHashes`), each as often as it occurs.
-/

namespace Reconciliation.RowHashComparison

namespace EqualPairing

/-- The pairing of the sides exchanged. -/
def swap (pairing : EqualPairing) : EqualPairing :=
  { pairing with rest := pairing.rest.swap }

/-- A pairing that takes out of two multisets all they have in common, and no more. -/
structure Pairs (pairing : EqualPairing) (legacy cloud : Multiset String) : Prop where
  /-- The pairs are the common members. -/
  common : pairing.matched = (legacy ∩ cloud).card
  /-- What is left of the legacy side is what the other side does not take away. -/
  legacyRest : (pairing.rest.legacy : Multiset String) = legacy - cloud
  /-- What is left of the cloud side is what the other side does not take away. -/
  cloudRest : (pairing.rest.cloud : Multiset String) = cloud - legacy

variable {pairing : EqualPairing} {legacy cloud : Multiset String} {hash : String}

/-- With nothing on the legacy side, all of the cloud side is left over. -/
theorem Pairs.noLegacy (cloud : List String) :
    EqualPairing.Pairs ⟨0, ⟨[], cloud⟩⟩ 0 cloud :=
  ⟨by rw [Multiset.zero_inter, Multiset.card_zero], (Multiset.zero_sub _).symm,
    (Multiset.sub_zero _).symm⟩

/-- An equal pair on both sides is one more pair. -/
theorem Pairs.both (pairs : pairing.Pairs legacy cloud) :
    { pairing with matched := pairing.matched + 1 }.Pairs (hash ::ₘ legacy) (hash ::ₘ cloud) where
  common := by
    rw [← Multiset.cons_inter_distrib, Multiset.card_cons, pairs.common]
  legacyRest := by
    rw [pairs.legacyRest, Multiset.sub_cons, Multiset.erase_cons_head]
  cloudRest := by
    rw [pairs.cloudRest, Multiset.sub_cons, Multiset.erase_cons_head]

/-- A digest of the legacy side that the cloud side lacks is left over. -/
theorem Pairs.keepLegacy (pairs : pairing.Pairs legacy cloud) (absent : hash ∉ cloud) :
    { pairing with rest := pairing.rest.modify (hash :: ·) .legacy }.Pairs
      (hash ::ₘ legacy) cloud where
  common := by
    rw [Multiset.cons_inter_of_neg _ absent, pairs.common]
  legacyRest := by
    change hash ::ₘ (pairing.rest.legacy : Multiset String) = _
    rw [pairs.legacyRest]
    ext other
    by_cases same : other = hash
    · subst same
      simp only [Multiset.count_cons_self, Multiset.count_sub,
        Multiset.count_eq_zero_of_notMem absent, Nat.sub_zero]
    · simp only [Multiset.count_cons_of_ne same, Multiset.count_sub]
  cloudRest := by
    change (pairing.rest.cloud : Multiset String) = _
    rw [pairs.cloudRest, Multiset.sub_cons, Multiset.erase_of_notMem absent]

/-- The sides of a pairing exchanged. -/
theorem Pairs.swap (pairs : pairing.Pairs legacy cloud) : pairing.swap.Pairs cloud legacy :=
  ⟨by rw [Multiset.inter_comm, ← pairs.common]; rfl, pairs.cloudRest, pairs.legacyRest⟩

/-- With nothing on the cloud side, all of the legacy side is left over. -/
theorem Pairs.noCloud (legacy : List String) :
    EqualPairing.Pairs ⟨0, ⟨legacy, []⟩⟩ legacy 0 :=
  (Pairs.noLegacy legacy).swap

/-- A digest of the cloud side that the legacy side lacks is left over. -/
theorem Pairs.keepCloud (pairs : pairing.Pairs legacy cloud) (absent : hash ∉ legacy) :
    { pairing with rest := pairing.rest.modify (hash :: ·) .cloud }.Pairs
      legacy (hash ::ₘ cloud) :=
  (pairs.swap.keepLegacy absent).swap

end EqualPairing

/-- A digest below the first of an ascending list is not in the list. -/
theorem notMem_of_lt_head {hash least : String} {hashes : List String}
    (ascending : (least :: hashes).Pairwise (· ≤ ·)) (below : hash < least) :
    hash ∉ least :: hashes := by
  intro member
  rcases List.mem_cons.mp member with rfl | later
  · exact Std.lt_irrefl below
  · exact Std.not_lt.mpr ((List.pairwise_cons.mp ascending).1 _ later) below

/-- **The pass over two ascending lists.** It pairs all that the lists have in common and leaves
the rest of each. -/
theorem pairEqual_pairs {legacy cloud : List String} (legacyAscends : legacy.Pairwise (· ≤ ·))
    (cloudAscends : cloud.Pairwise (· ≤ ·)) : (pairEqual legacy cloud).Pairs legacy cloud := by
  induction legacy, cloud using pairEqual.induct with
  | case1 cloud =>
      rw [pairEqual]
      exact .noLegacy cloud
  | case2 legacy nonempty =>
      cases legacy with
      | nil => exact (nonempty rfl).elim
      | cons hash hashes =>
          rw [pairEqual]
          · exact .noCloud (hash :: hashes)
          · exact nonempty
  | case3 hash legacy cloud ih =>
      rw [pairEqual, if_pos rfl]
      exact (ih (List.pairwise_cons.mp legacyAscends).2 (List.pairwise_cons.mp cloudAscends).2).both
  | case4 left legacy right cloud different less ih =>
      rw [pairEqual, if_neg different, if_pos less]
      exact (ih (List.pairwise_cons.mp legacyAscends).2 cloudAscends).keepLegacy
        (notMem_of_lt_head cloudAscends less)
  | case5 left legacy right cloud different notLess ih =>
      have above : right < left :=
        Std.lt_of_le_of_ne (Std.not_lt.mp notLess) (Ne.symm different)
      rw [pairEqual, if_neg different, if_neg notLess]
      exact (ih legacyAscends (List.pairwise_cons.mp cloudAscends).2).keepCloud
        (notMem_of_lt_head legacyAscends above)

/-- The digests that some rows have under a key, each as often as it occurs. -/
def hashBag (rows : List HashRow) (key : RowKey) : Multiset String :=
  ((rows : Multiset HashRow).filter (·.key = key)).map HashRow.hash

/-- Grouping after some rows have been grouped adds the digests of the later rows. -/
theorem getD_foldl_groups (rows : List HashRow) (groups : SortedMap RowKey (List String))
    (key : RowKey) :
    ((rows.foldl (fun groups row =>
        groups.insert row.key ((groups.get? row.key).getD [] ++ [row.hash])) groups).get?
          key).getD [] =
      (groups.get? key).getD [] ++ (rows.filter (·.key = key)).map HashRow.hash := by
  induction rows generalizing groups with
  | nil => rw [List.foldl_nil, List.filter_nil, List.map_nil, List.append_nil]
  | cons row rows ih =>
      rw [List.foldl_cons, ih, SortedMap.get?_insert, List.filter_cons]
      by_cases same : key = row.key
      · subst same
        simp only [↓reduceIte, Option.getD_some, decide_true, List.map_cons, List.append_assoc,
          List.singleton_append]
      · simp only [same, Ne.symm same, ↓reduceIte, decide_false, Bool.false_eq_true]

/-- The digests grouped under a key are those of its rows. -/
theorem getD_groupHashes (rows : List HashRow) (key : RowKey) :
    ((groupHashes rows).get? key).getD [] = (rows.filter (·.key = key)).map HashRow.hash := by
  rw [groupHashes, getD_foldl_groups, SortedMap.get?_empty, Option.getD_none, List.nil_append]

/-- Grouping after some rows have been grouped adds the keys of the later rows. -/
theorem mem_keys_foldl_groups (rows : List HashRow) (groups : SortedMap RowKey (List String))
    (key : RowKey) :
    key ∈ (rows.foldl (fun groups row =>
        groups.insert row.key ((groups.get? row.key).getD [] ++ [row.hash])) groups).keys ↔
      key ∈ groups.keys ∨ key ∈ rows.map HashRow.key := by
  induction rows generalizing groups with
  | nil => simp only [List.foldl_nil, List.map_nil, List.not_mem_nil, or_false]
  | cons row rows ih =>
      rw [List.foldl_cons, ih, List.map_cons, List.mem_cons, SortedMap.mem_keys_iff,
        SortedMap.get?_insert, SortedMap.mem_keys_iff]
      by_cases same : key = row.key <;> simp [same]

/-- The keys grouped are those of the rows. -/
theorem mem_keys_groupHashes {rows : List HashRow} {key : RowKey} :
    key ∈ (groupHashes rows).keys ↔ key ∈ rows.map HashRow.key := by
  rw [groupHashes, mem_keys_foldl_groups]
  simp only [SortedMap.empty, SortedMap.keys, List.map_nil, List.not_mem_nil, false_or]

/-- The digests of a key that the pass runs over are those of the rows of the key. -/
theorem coe_hashesOf_groupHashes (rows : List HashRow) (key : RowKey) :
    (hashesOf (groupHashes rows) key : Multiset String) = hashBag rows key := by
  rw [hashesOf, getD_groupHashes, Multiset.coe_eq_coe.mpr (List.mergeSort_perm _ _), hashBag,
    Multiset.filter_coe, Multiset.map_coe]

/-- The digests of a key ascend. -/
theorem hashesOf_pairwise (groups : SortedMap RowKey (List String)) (key : RowKey) :
    (hashesOf groups key).Pairwise (· ≤ ·) := by
  have sorted : (hashesOf groups key).Pairwise fun a b => decide (a ≤ b) = true := by
    refine List.pairwise_mergeSort (fun a b c below above => ?_) (fun a b => ?_) _
    · exact decide_eq_true (Std.le_trans (of_decide_eq_true below) (of_decide_eq_true above))
    · rcases Std.le_total (a := a) (b := b) with below | above
      · rw [decide_eq_true below, Bool.true_or]
      · rw [decide_eq_true above, Bool.or_true]
  exact sorted.imp of_decide_eq_true

/-- The digests of a key ascend in one way. -/
theorem hashesOf_eq {rows : List HashRow} {key : RowKey} {hashes : List String}
    (bag : (hashes : Multiset String) = hashBag rows key) (ascending : hashes.Pairwise (· ≤ ·)) :
    hashesOf (groupHashes rows) key = hashes := by
  have perm : (hashesOf (groupHashes rows) key).Perm hashes := by
    rw [← Multiset.coe_eq_coe, coe_hashesOf_groupHashes, bag]
  apply perm.eq_of_pairwise _ (hashesOf_pairwise _ key) ascending
  intro a b _ _ below above
  exact Std.le_antisymm below above

end Reconciliation.RowHashComparison
