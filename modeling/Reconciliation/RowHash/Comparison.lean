import Reconciliation.RowHash.Row

/-! # Reconciling hashed rows

The rows of both platforms are joined on their keys. Rows of one key are paired as a multiset:
equal digests first, then digests that differ, and what is left over stands on one side only.
-/

namespace Reconciliation

-- Sums start from the literal zero, whatever else is imported beside this module.
attribute [local instance (high)] Zero.ofOfNat0

/-- The number of samples kept unless another is set. -/
def defaultSampleLimit : Nat := 100

/-- Two rows of one key whose digests differ. -/
structure HashMismatch where
  key : RowKey
  hashes : Both String
  deriving DecidableEq

/-- What reconciling the rows of two platforms shows. -/
structure RowHashComparison where
  /-- The rows of each platform. -/
  rows : Both Nat := ⟨0, 0⟩
  /-- The pairs with equal digests. -/
  matched : Nat := 0
  /-- The pairs of one key with digests that differ. -/
  hashMismatch : Nat := 0
  /-- The rows left over on each side. -/
  only : Both Nat := ⟨0, 0⟩
  /-- The keys that some side has more than once. -/
  duplicateKeys : Nat := 0
  /-- Some of the pairs that differ. -/
  sampleMismatches : List HashMismatch := []
  /-- The keys of some of the rows left over. -/
  sampleOnly : Both (List RowKey) := ⟨[], []⟩
  deriving DecidableEq

namespace RowHashComparison

/-- Whether both sides have the same rows. -/
def isMatch (comparison : RowHashComparison) : Bool :=
  comparison.hashMismatch == 0 && comparison.only.legacy == 0 && comparison.only.cloud == 0

/-- The digests of each key, in the order of the rows. -/
def groupHashes (rows : List HashRow) : SortedMap RowKey (List String) :=
  rows.foldl (fun groups row =>
    groups.insert row.key ((groups.get? row.key).getD [] ++ [row.hash])) .empty

/-- The digests of a key, ascending. -/
def hashesOf (groups : SortedMap RowKey (List String)) (key : RowKey) : List String :=
  ((groups.get? key).getD []).mergeSort (· ≤ ·)

/-- The digests of one key after equal ones have been paired. -/
structure EqualPairing where
  matched : Nat
  rest : Both (List String)

/-- Pairs the equal digests of two ascending lists in one pass over both: of two digests that
differ, the lesser has no partner left. -/
def pairEqual : (legacy cloud : List String) → EqualPairing
  | [], cloud => ⟨0, ⟨[], cloud⟩⟩
  | legacy, [] => ⟨0, ⟨legacy, []⟩⟩
  | left :: legacy, right :: cloud =>
    if left = right then
      let later := pairEqual legacy cloud
      { later with matched := later.matched + 1 }
    else if left < right then
      let later := pairEqual legacy (right :: cloud)
      { later with rest := later.rest.modify (left :: ·) .legacy }
    else
      let later := pairEqual (left :: legacy) cloud
      { later with rest := later.rest.modify (right :: ·) .cloud }
termination_by legacy cloud => legacy.length + cloud.length

/-- The rows of one key joined. -/
structure KeyJoin where
  key : RowKey
  isDuplicate : Bool
  matched : Nat
  mismatches : List HashMismatch
  only : Both (List RowKey)

/-- The join of the rows of one key. -/
def joinKey (groups : Both (SortedMap RowKey (List String))) (key : RowKey) : KeyJoin :=
  let hashes := groups.map (hashesOf · key)
  let pairing := pairEqual hashes.legacy hashes.cloud
  let rest := pairing.rest
  { key
    isDuplicate := 1 < hashes.legacy.length || 1 < hashes.cloud.length
    matched := pairing.matched
    mismatches := (rest.legacy.zip rest.cloud).map fun (left, right) => ⟨key, left, right⟩
    only :=
      ⟨List.replicate (rest.legacy.length - rest.cloud.length) key,
        List.replicate (rest.cloud.length - rest.legacy.length) key⟩ }

/-- The comparison of two lists of rows, of which at most so many samples of a kind are kept. If
a side is empty, the rows of the other are listed as they come. -/
def reconcile (rows : Both (List HashRow)) (sampleLimit : Nat) : RowHashComparison :=
  let sizes := rows.map List.length
  if rows.legacy.isEmpty || rows.cloud.isEmpty then
    { rows := sizes
      only := sizes
      sampleOnly := rows.map fun side => (side.take sampleLimit).map HashRow.key }
  else
    let groups := rows.map groupHashes
    let keys := SortedMap.distinct (groups.legacy.keys ++ groups.cloud.keys)
    let joins := keys.map (joinKey groups)
    let mismatches := joins.flatMap KeyJoin.mismatches
    let only : Both (List RowKey) :=
      ⟨joins.flatMap (·.only.legacy), joins.flatMap (·.only.cloud)⟩
    { rows := sizes
      matched := (joins.map KeyJoin.matched).sum
      hashMismatch := mismatches.length
      only := only.map List.length
      duplicateKeys := joins.countP KeyJoin.isDuplicate
      sampleMismatches := mismatches.take sampleLimit
      sampleOnly := only.map (List.take sampleLimit) }

end RowHashComparison

/-- What is said of the rows of a table. -/
inductive HashOutcome where
  | compared (comparison : RowHashComparison)
  | notComparable (missingOn : List Platform)
  deriving DecidableEq

namespace HashOutcome

/-- What is said of rows that may lack on some platform. -/
def reconcile (rows : Both (Option (List HashRow))) (sampleLimit : Nat) : HashOutcome :=
  match rows.legacy, rows.cloud with
  | some legacy, some cloud => .compared (.reconcile ⟨legacy, cloud⟩ sampleLimit)
  | _, _ => .notComparable (Platform.all.filter fun platform => (rows.on platform).isNone)

/-- Whether the rows agree, if they were compared. -/
def isMatch? : HashOutcome → Option Bool
  | .compared comparison => some comparison.isMatch
  | .notComparable _ => none

end HashOutcome

end Reconciliation
