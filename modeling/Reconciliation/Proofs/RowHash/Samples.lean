import Mathlib.Algebra.BigOperators.Group.Finset.Piecewise
import Reconciliation.Proofs.RowHash.Join

/-! # Samples of a comparison

The pairs that differ and the rows left over are lists that depend on the rows alone
(`unequalPairs`, `surplusKeys`). A counter is the length of its list and a sample the first members
of it, so a larger limit only extends the samples (`reconcile_samples`). A sampled pair has two
different digests, since equal ones have been taken out before, and a key is left over on a side as
often as the side has more rows of it than the other.
-/

namespace Reconciliation.RowHashComparison

variable (rows : Both (List HashRow)) (sampleLimit : Nat)

/-- A comparison as far as it counts. -/
def withoutSamples (comparison : RowHashComparison) : RowHashComparison :=
  { comparison with sampleMismatches := [], sampleOnly := ⟨[], []⟩ }

/-- All pairs of one key whose digests differ. -/
def unequalPairs : List HashMismatch :=
  (joins rows).flatMap KeyJoin.mismatches

/-- The keys of all rows left over, in the order in which they are sampled. -/
def surplusKeys : Both (List RowKey) :=
  if rows.legacy = [] ∨ rows.cloud = [] then rows.map (List.map HashRow.key)
  else .tabulate fun platform => (joins rows).flatMap (·.only.on platform)

/-! ## Counters and samples -/

theorem surplusKeys_of_empty {platform : Platform} (none : rows.on platform = []) :
    surplusKeys rows = rows.map (List.map HashRow.key) :=
  if_pos (exists_empty_iff.mp ⟨platform, none⟩)

theorem surplusKeys_of_nonempty (some : ∀ platform, rows.on platform ≠ []) :
    surplusKeys rows = .tabulate fun platform => (joins rows).flatMap (·.only.on platform) :=
  if_neg (exists_empty_iff.not.mp (not_exists.mpr some))

theorem length_unequalPairs :
    (unequalPairs rows).length = (reconcile rows sampleLimit).hashMismatch :=
  (reconcile_counts rows sampleLimit).2.2.1.symm

theorem reconcile_sampleMismatches :
    (reconcile rows sampleLimit).sampleMismatches = (unequalPairs rows).take sampleLimit := by
  by_cases empty : ∃ platform, rows.on platform = []
  · obtain ⟨platform, none⟩ := empty
    have length := length_unequalPairs rows sampleLimit
    rw [reconcile_of_empty rows sampleLimit none] at length ⊢
    rw [List.eq_nil_of_length_eq_zero length, List.take_nil]
    rfl
  · rw [reconcile_of_nonempty rows sampleLimit (not_exists.mp empty)]
    rfl

theorem reconcile_sampleOnly :
    (reconcile rows sampleLimit).sampleOnly = (surplusKeys rows).map (List.take sampleLimit) := by
  by_cases empty : ∃ platform, rows.on platform = []
  · obtain ⟨platform, none⟩ := empty
    rw [reconcile_of_empty rows sampleLimit none, surplusKeys_of_empty rows none]
    simp only [unjoined, Both.map, List.map_take]
  · have some := not_exists.mp empty
    rw [reconcile_of_nonempty rows sampleLimit some, surplusKeys_of_nonempty rows some]
    rfl

theorem length_surplusKeys (platform : Platform) :
    ((surplusKeys rows).on platform).length =
      (reconcile rows sampleLimit).only.on platform := by
  by_cases empty : ∃ platform, rows.on platform = []
  · obtain ⟨emptySide, none⟩ := empty
    rw [reconcile_of_empty rows sampleLimit none, surplusKeys_of_empty rows none]
    simp only [unjoined, Both.on_map, List.length_map]
  · have some := not_exists.mp empty
    rw [reconcile_of_nonempty rows sampleLimit some, surplusKeys_of_nonempty rows some]
    simp only [fullJoin, Both.on_map]

/-- Another limit changes nothing but the samples. -/
theorem withoutSamples_reconcile (limit other : Nat) :
    (reconcile rows limit).withoutSamples = (reconcile rows other).withoutSamples := by
  unfold reconcile
  split <;> rfl

/-! ## Members of the lists -/

/-- A digest of the rows of a key belongs to one of these rows. -/
theorem mem_of_mem_hashBag {side : List HashRow} {key : RowKey} {hash : String}
    (member : hash ∈ hashBag side key) : ⟨key, hash⟩ ∈ side := by
  obtain ⟨row, held, rfl⟩ := Multiset.mem_map.mp member
  obtain ⟨listed, rfl⟩ := Multiset.mem_filter.mp held
  exact listed

/-- A pair that differs is a pair of rows, one of each side. -/
theorem rows_of_mem_unequalPairs {pair : HashMismatch} (member : pair ∈ unequalPairs rows) :
    pair.hashes.legacy ≠ pair.hashes.cloud ∧
      ⟨pair.key, pair.hashes.legacy⟩ ∈ rows.legacy ∧
      ⟨pair.key, pair.hashes.cloud⟩ ∈ rows.cloud := by
  obtain ⟨join, joined, paired⟩ := List.mem_flatMap.mp member
  obtain ⟨key, -, rfl⟩ := List.mem_map.mp joined
  obtain ⟨⟨left, right⟩, zipped, rfl⟩ := List.mem_map.mp paired
  obtain ⟨leftRest, rightRest⟩ := List.of_mem_zip zipped
  have pairs := pairEqual_hashesOf rows key
  have leftOver : left ∈ hashBag rows.legacy key - hashBag rows.cloud key := by
    rw [← pairs.legacyRest]
    exact leftRest
  have rightOver : right ∈ hashBag rows.cloud key - hashBag rows.legacy key := by
    rw [← pairs.cloudRest]
    exact rightRest
  refine ⟨?_, ?_, ?_⟩
  · intro same
    obtain rfl : left = right := same
    -- each side would have the digest more often than the other
    exact Nat.lt_asymm (Multiset.mem_sub.mp leftOver) (Multiset.mem_sub.mp rightOver)
  · exact mem_of_mem_hashBag (Multiset.mem_of_le (Multiset.sub_le_self ..) leftOver)
  · exact mem_of_mem_hashBag (Multiset.mem_of_le (Multiset.sub_le_self ..) rightOver)

theorem joinKey_only (platform : Platform) (key : RowKey) :
    (joinKey (rows.map groupHashes) key).only.on platform =
      List.replicate (rowCount rows platform key - rowCount rows platform.other key) key := by
  rw [← length_joinKey_only]
  cases platform <;> exact congrArg (List.replicate · key) (List.length_replicate ..).symm

/-- A key is left over on a side as often as the side has more rows of it. -/
theorem count_surplusKeys (platform : Platform) (key : RowKey) :
    ((surplusKeys rows).on platform).count key =
      rowCount rows platform key - rowCount rows platform.other key := by
  by_cases empty : ∃ platform, rows.on platform = []
  · obtain ⟨emptySide, none⟩ := empty
    rw [surplusKeys_of_empty rows none, Both.on_map, surplus_of_empty none, rowCount_eq_count]
  · rw [surplusKeys_of_nonempty rows (not_exists.mp empty), Both.on_tabulate, List.count_flatMap,
      Function.comp_def, sum_joins]
    simp only [joinKey_only, List.count_replicate, beq_iff_eq, Finset.sum_ite_eq']
    by_cases joined : key ∈ joinedKeys rows
    · rw [if_pos joined]
    · have absent : rowCount rows platform key = 0 := by
        rw [rowCount, hashBag_eq_zero rows joined, Multiset.card_zero]
      rw [if_neg joined, absent, Nat.zero_sub]

/-- **What is sampled.** Each sample holds as many entries as there are, up to the limit. A sampled
pair is a row of either side with the same key and two different digests. A limit that leaves
nothing out samples each key as often as its side has more rows of it, and a larger limit extends
the samples and leaves the counts as they are. -/
theorem reconcile_samples (rows : Both (List HashRow)) (sampleLimit : Nat) :
    let result := reconcile rows sampleLimit
    (result.sampleMismatches.length = min sampleLimit result.hashMismatch ∧
      ∀ platform, (result.sampleOnly.on platform).length =
        min sampleLimit (result.only.on platform)) ∧
    (∀ pair ∈ result.sampleMismatches, pair.hashes.legacy ≠ pair.hashes.cloud ∧
      ⟨pair.key, pair.hashes.legacy⟩ ∈ rows.legacy ∧
      ⟨pair.key, pair.hashes.cloud⟩ ∈ rows.cloud) ∧
    (∀ platform key, result.only.on platform ≤ sampleLimit →
      (result.sampleOnly.on platform).count key =
        ((rows.on platform).map HashRow.key).count key -
          ((rows.on platform.other).map HashRow.key).count key) ∧
    ∀ larger, sampleLimit ≤ larger →
      let extended := reconcile rows larger
      result.sampleMismatches <+: extended.sampleMismatches ∧
        (∀ platform, result.sampleOnly.on platform <+: extended.sampleOnly.on platform) ∧
        extended.withoutSamples = result.withoutSamples := by
  intro result
  have pairs : ∀ limit, (reconcile rows limit).sampleMismatches = (unequalPairs rows).take limit :=
    reconcile_sampleMismatches rows
  have surplus : ∀ limit platform, (reconcile rows limit).sampleOnly.on platform =
      ((surplusKeys rows).on platform).take limit := by
    intro limit platform
    rw [reconcile_sampleOnly, Both.on_map]
  refine ⟨⟨?_, fun platform => ?_⟩, ?_, ?_, ?_⟩
  · rw [pairs, List.length_take, length_unequalPairs rows sampleLimit]
  · rw [surplus, List.length_take, length_surplusKeys rows sampleLimit]
  · intro pair sampled
    rw [pairs] at sampled
    exact rows_of_mem_unequalPairs rows (List.mem_of_mem_take sampled)
  · intro platform key whole
    rw [← length_surplusKeys] at whole
    rw [surplus, List.take_of_length_le whole, count_surplusKeys, rowCount_eq_count,
      rowCount_eq_count]
  · intro larger more extended
    refine ⟨?_, fun platform => ?_, withoutSamples_reconcile rows larger sampleLimit⟩
    · rw [pairs, pairs]
      exact List.take_prefix_take_left more
    · rw [surplus, surplus]
      exact List.take_prefix_take_left more

/-- One of two pairs that differ is sampled, and the account that one side has once more. -/
theorem reconcile_samples_accounts :
    let first : RowKey := ⟨[some "1"]⟩
    let second : RowKey := ⟨[some "2"]⟩
    let rows : Both (List HashRow) :=
      ⟨[⟨second, "c"⟩, ⟨first, "b"⟩, ⟨first, "a"⟩], [⟨first, "z"⟩, ⟨second, "d"⟩]⟩
    let result := reconcile rows 1
    result.sampleMismatches = [⟨first, "a", "z"⟩] ∧
      ⟨first, "a"⟩ ∈ rows.legacy ∧ ⟨first, "z"⟩ ∈ rows.cloud ∧
      result.only.legacy ≤ 1 ∧ result.sampleOnly.legacy.count first = 1 ∧
      result.sampleMismatches <+: (reconcile rows 2).sampleMismatches := by
  intro first second rows result
  obtain ⟨-, faithful, surplus, extend⟩ := reconcile_samples rows 1
  have legacy : hashesOf (groupHashes rows.legacy) first = ["a", "b"] :=
    hashesOf_eq (by decide +kernel) (by decide)
  have cloud : hashesOf (groupHashes rows.cloud) first = ["z"] :=
    hashesOf_eq (by decide +kernel) (by decide)
  have paired : (joinKey (rows.map groupHashes) first).mismatches = [⟨first, ⟨"a", "z"⟩⟩] := by
    simp only [joinKey, Both.map, legacy, cloud]
    decide +kernel
  have order : keyOrder rows = [first, second] := by decide +kernel
  have sampled : result.sampleMismatches = [⟨first, ⟨"a", "z"⟩⟩] := by
    rw [reconcile_sampleMismatches, unequalPairs, joins, order, List.map_cons, List.flatMap_cons,
      paired]
    rfl
  have whole : result.only.legacy ≤ 1 :=
    (reconcile_only rows 1 .legacy).trans_le (by decide +kernel)
  obtain ⟨-, left, right⟩ := faithful ⟨first, ⟨"a", "z"⟩⟩ (sampled ▸ List.mem_singleton_self _)
  refine ⟨sampled, left, right, whole, ?_, (extend 2 (by decide)).1⟩
  exact (surplus .legacy first whole).trans (by decide)

end Reconciliation.RowHashComparison
