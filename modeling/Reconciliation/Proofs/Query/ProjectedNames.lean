import Reconciliation.Proofs.Crosswalk.Sorting
import Reconciliation.Proofs.Text.Capitals
import Reconciliation.Query.Result
import Reconciliation.Query.RowHash

/-! # Names that a row hash query projects

The columns of an answer are told apart by their lower-cased names, if these differ
(`QueryResult.tellsApart_iff`). Pairs of a crosswalk have different names, but a query names its
columns by the lower case of these, with a prefix for the values of a closer look. No name comes
twice exactly if lower case keeps the names apart and no key has the prefixed name of a column
(`names_hashProjections_nodup_iff`, `names_hashDetailProjections_nodup_iff`); only the names of the
digest and of its text are checked beforehand.
-/

namespace Reconciliation

/-! ## Reading by name -/

namespace QueryResult

/-- Every record gives under the name of a column the value in its place. -/
def TellsApart (columns : List String) : Prop :=
  ∀ (row : List (Option Scalar)) (place : Nat) (name : String), columns[place]? = some name →
    (record columns row).get? (Text.lower name) = some row[place]?.join

theorem tellsApart_iff {columns : List String} :
    TellsApart columns ↔ (columns.map Text.lower).Nodup := by
  constructor
  · intro apart
    rw [List.nodup_iff_getElem?_ne_getElem?]
    intro i j before inside same
    rw [List.length_map] at inside
    rw [List.getElem?_map, List.getElem?_map, List.getElem?_eq_getElem (before.trans inside),
      List.getElem?_eq_getElem inside, Option.map_some, Option.map_some, Option.some.injEq] at same
    -- a row that ends in the earlier of two places has NULL in the later one
    let row : List (Option Scalar) := List.replicate i none ++ [some (.integer 0)]
    have early : row[i]?.join = some (.integer 0) := by simp [row]
    have late : row[j]?.join = none := by
      rw [List.getElem?_eq_none (by simp [row]; omega)]
      rfl
    have first := apart row i _ (List.getElem?_eq_getElem (before.trans inside))
    have second := apart row j _ (List.getElem?_eq_getElem inside)
    rw [early, same, second, late] at first
    cases first
  · intro distinct row place name named
    let entries := columns.zipIdx.map fun entry => (Text.lower entry.1, row[entry.2]?.join)
    have names : entries.map Prod.fst = columns.map Text.lower := by
      conv_rhs => rw [← List.zipIdx_map_fst 0 columns]
      rw [List.map_map, List.map_map]
      rfl
    have keys : (entries.map Prod.fst).Nodup := by rwa [names]
    change (SortedMap.ofList entries).get? (Text.lower name) = _
    rw [SortedMap.get?_ofList_eq_some_iff keys]
    exact List.mem_map.mpr ⟨(name, place), List.mem_zipIdx_iff_getElem?.mpr named, rfl⟩

end QueryResult

/-! ## Names of pairs -/

/-- Pairs as a crosswalk compares them: their names are folded, and none has the name of another
one. -/
structure DistinctPairs (pairs : List ColumnPair) : Prop where
  folded : ∀ pair ∈ pairs, ∃ name, Platform.legacy.identifier name = pair.name
  distinct : (pairs.map ColumnPair.name).Nodup

/-- Whatever is chosen among the pairs of a crosswalk, each once, are distinct pairs. -/
theorem Crosswalk.distinctPairs_of_subset {legacy cloud : List Column}
    {mappings : List ColumnMapping} {pairs : List ColumnPair}
    (chosen : pairs ⊆ (build legacy cloud mappings).comparable) (once : pairs.Nodup) :
    DistinctPairs pairs where
  folded pair member := by
    obtain ⟨mapping, -, -, -, named⟩ := mem_names_build.mp (List.mem_map_of_mem (chosen member))
    exact ⟨mapping.source, named⟩
  distinct := by
    have names : ((build legacy cloud mappings).comparable.map ColumnPair.name).Nodup :=
      SortedMap.nodup_of_pairwise_lt names_build_pairwise
    exact once.map_on fun pair member other otherMember =>
      List.inj_on_of_nodup_map names (chosen member) (chosen otherMember)

/-- Lower case keeps the names of pairs apart. -/
def LowerApart (pairs : List ColumnPair) : Prop :=
  ∀ pair ∈ pairs, ∀ other ∈ pairs, pair.keyName = other.keyName → pair.name = other.name

/-- The names of pairs consist of Latin characters. -/
def LatinNames (pairs : List ColumnPair) : Prop :=
  ∀ pair ∈ pairs, ∀ c ∈ pair.name.toList, c.toNat < 0x80

-- The characters are checked one by one, so that no instance goes through all characters.
instance (pairs : List ColumnPair) : Decidable (LatinNames pairs) :=
  decidable_of_iff (pairs.all fun pair => pair.name.toList.all (·.toNat < 0x80))
    (by simp only [List.all_eq_true, decide_eq_true_eq, LatinNames])

namespace DistinctPairs

variable {pairs : List ColumnPair}

theorem keyNames_nodup_iff (distinct : DistinctPairs pairs) :
    (pairs.map ColumnPair.keyName).Nodup ↔ LowerApart pairs := by
  have names : pairs.map ColumnPair.keyName = (pairs.map ColumnPair.name).map Text.lower := by
    rw [List.map_map]
    rfl
  rw [names, List.nodup_map_iff_inj_on distinct.distinct]
  simp only [LowerApart, List.forall_mem_map]
  rfl

theorem upper_keyName (distinct : DistinctPairs pairs) (latin : LatinNames pairs)
    {pair : ColumnPair} (member : pair ∈ pairs) : Text.upper pair.keyName = pair.name := by
  refine Text.upper_lower (latin pair member) fun c listed => ?_
  obtain ⟨name, named⟩ := distinct.folded pair member
  rw [← named] at listed
  exact Text.isLower_of_mem_upper listed

theorem lowerApart (distinct : DistinctPairs pairs) (latin : LatinNames pairs) :
    LowerApart pairs := by
  intro pair member other otherMember same
  rw [← distinct.upper_keyName latin member, same, distinct.upper_keyName latin otherMember]

end DistinctPairs

/-! ## Projected names -/

theorem names_keyProjections (platform : Platform) (keys : List ColumnPair)
    (options : HashOptions) :
    (keyProjections platform keys options).map Projection.name = keys.map ColumnPair.keyName := by
  rw [keyProjections, List.map_map]
  rfl

theorem names_hashProjections (platform : Platform) (columns keys : List ColumnPair)
    (options : HashOptions) :
    (hashProjections platform columns keys options).map Projection.name =
      keys.map ColumnPair.keyName ++ [hashName] := by
  rw [hashProjections, List.map_append, names_keyProjections]
  rfl

theorem names_hashDetailProjections (platform : Platform) (columns keys : List ColumnPair)
    (options : HashOptions) :
    (hashDetailProjections platform columns keys options).map Projection.name =
      keys.map ColumnPair.keyName ++ (columns.map ColumnPair.keyName).map ("n_" ++ ·) ++
        [hashInputName, hashName] := by
  rw [hashDetailProjections, List.map_append, List.map_append, names_keyProjections, List.map_map,
    List.map_map]
  rfl

variable {platform : Platform} {table : TableRef} {columns keys : List ColumnPair}
  {filter : Option String} {options : HashOptions} {statement : String}

theorem rowHashFault?_eq_none_iff : rowHashFault? columns keys = none ↔
    columns ≠ [] ∧ keys ≠ [] ∧
      ∀ key ∈ keys, key.keyName ≠ hashName ∧ key.keyName ≠ hashInputName := by
  unfold rowHashFault?
  cases columns with
  | nil => simp
  | cons column columns =>
      cases keys with
      | nil => simp
      | cons key keys => simp [List.find?_eq_none]

/-- No key has the name that a closer look gives the value of a column. -/
def PrefixFree (keys columns : List ColumnPair) : Prop :=
  ∀ key ∈ keys, ∀ column ∈ columns, key.keyName ≠ "n_" ++ column.keyName

theorem prefixed_injective : Function.Injective (("n_" ++ ·) : String → String) :=
  fun _ _ same => (String.append_right_inj "n_").mp same

theorem prefixed_not_mem_reserved (name : String) : "n_" ++ name ∉ [hashInputName, hashName] := by
  have first : ("n_" ++ name).toList.head? = some 'n' := by
    rw [String.toList_append]
    rfl
  intro member
  rcases List.mem_pair.mp member with same | same
  all_goals
    rw [same] at first
    cases first

section

variable (usable : rowHashFault? columns keys = none)
include usable

theorem keyName_not_mem_reserved {name : String} (member : name ∈ keys.map ColumnPair.keyName) :
    name ∉ [hashInputName, hashName] := by
  obtain ⟨key, listed, rfl⟩ := List.mem_map.mp member
  obtain ⟨-, -, unreserved⟩ := rowHashFault?_eq_none_iff.mp usable
  rw [List.mem_pair, not_or]
  exact (unreserved key listed).symm

theorem names_hashProjections_nodup_iff (keysDistinct : DistinctPairs keys) (platform : Platform)
    (options : HashOptions) :
    ((hashProjections platform columns keys options).map Projection.name).Nodup ↔
      LowerApart keys := by
  have apart : (keys.map ColumnPair.keyName).Disjoint [hashName] := by
    intro name member reserved
    exact keyName_not_mem_reserved usable member (List.mem_cons_of_mem _ reserved)
  rw [names_hashProjections, List.nodup_append', keysDistinct.keyNames_nodup_iff]
  exact and_iff_left ⟨List.nodup_singleton _, apart⟩

theorem names_hashDetailProjections_nodup_iff (keysDistinct : DistinctPairs keys)
    (columnsDistinct : DistinctPairs columns) (platform : Platform) (options : HashOptions) :
    ((hashDetailProjections platform columns keys options).map Projection.name).Nodup ↔
      LowerApart keys ∧ LowerApart columns ∧ PrefixFree keys columns := by
  have reserved : [hashInputName, hashName].Nodup := by decide
  have apart : (keys.map ColumnPair.keyName ++
      (columns.map ColumnPair.keyName).map ("n_" ++ ·)).Disjoint [hashInputName, hashName] := by
    rw [List.disjoint_append_left]
    refine ⟨fun name member => keyName_not_mem_reserved usable member, fun name member => ?_⟩
    obtain ⟨own, -, rfl⟩ := List.mem_map.mp member
    exact prefixed_not_mem_reserved own
  have prefixFree : (keys.map ColumnPair.keyName).Disjoint
      ((columns.map ColumnPair.keyName).map ("n_" ++ ·)) ↔ PrefixFree keys columns := by
    simp only [List.disjoint_left, List.map_map, List.mem_map, not_exists, not_and, PrefixFree,
      Function.comp_apply, ne_comm, ne_eq, forall_exists_index, and_imp, forall_apply_eq_imp_iff₂]
  rw [names_hashDetailProjections, List.nodup_append', and_iff_left ⟨reserved, apart⟩,
    List.nodup_append', List.nodup_map_iff prefixed_injective, keysDistinct.keyNames_nodup_iff,
    columnsDistinct.keyNames_nodup_iff, prefixFree]

end

theorem prefixFree_iff (keysDistinct : DistinctPairs keys) (columnsDistinct : DistinctPairs columns)
    (keysLatin : LatinNames keys) (columnsLatin : LatinNames columns) :
    PrefixFree keys columns ↔
      ∀ key ∈ keys, ∀ column ∈ columns, key.name ≠ "N_" ++ column.name := by
  refine forall₂_congr fun key member => forall₂_congr fun column columnMember => not_congr ?_
  constructor
  · intro same
    rw [← keysDistinct.upper_keyName keysLatin member, same, Text.upper_append,
      columnsDistinct.upper_keyName columnsLatin columnMember]
    rfl
  · intro same
    have latin := keysLatin key member
    rw [ColumnPair.keyName, Text.lower_of_latin latin, ColumnPair.keyName,
      Text.lower_of_latin (columnsLatin column columnMember), Text.letters, same,
      String.toList_append, List.map_append, String.ofList_append]
    rfl

/-! ## Records of the answers -/

/-- The condition on which the columns that a query projects have different names, so that the
records of its answers tell them apart. Databases report the names in either case. -/
structure ApartIff (projections : List Projection) (condition : Prop) : Prop where
  names : (projections.map Projection.name).Nodup ↔ condition
  records (columns : List String) : columns.map Text.lower = projections.map Projection.name →
    (QueryResult.TellsApart columns ↔ condition)

theorem ApartIff.of_names {projections : List Projection} {condition : Prop}
    (names : (projections.map Projection.name).Nodup ↔ condition) :
    ApartIff projections condition where
  names := names
  records columns reported := by rw [QueryResult.tellsApart_iff, reported, names]

theorem rowHashQuery_eq_ok_iff : rowHashQuery platform table columns keys filter options =
    .ok statement ↔ rowHashFault? columns keys = none ∧
      projectionQuery platform table (hashProjections platform columns keys options) filter ++
        "\nORDER BY " ++ ", ".intercalate (keys.map ColumnPair.keyName) = statement := by
  unfold rowHashQuery
  cases rowHashFault? columns keys with
  | some fault => simp
  | none => exact ⟨fun given => ⟨rfl, Except.ok.inj given⟩, fun ⟨_, given⟩ => congrArg _ given⟩

theorem rowHashDetailQuery_eq_ok_iff :
    rowHashDetailQuery platform table columns keys filter options = .ok statement ↔
      rowHashFault? columns keys = none ∧
        projectionQuery platform table (hashDetailProjections platform columns keys options)
          filter = statement := by
  unfold rowHashDetailQuery
  cases rowHashFault? columns keys with
  | some fault => simp
  | none => exact ⟨fun given => ⟨rfl, Except.ok.inj given⟩, fun ⟨_, given⟩ => congrArg _ given⟩

/-- **The columns of a row hash query have different names exactly if lower case keeps those of the
keys apart.** In a closer look the names of the columns must be kept apart too, and no key may have
the prefixed name of a column. Lower case keeps names of Latin characters apart. -/
theorem projected_names_nodup_iff (columnsDistinct : DistinctPairs columns)
    (keysDistinct : DistinctPairs keys) (platform : Platform) (table : TableRef)
    (filter : Option String) (options : HashOptions) :
    (∀ statement, rowHashQuery platform table columns keys filter options = .ok statement →
      let projections := hashProjections platform columns keys options
      (∃ order, projectionQuery platform table projections filter ++ order = statement) ∧
      ApartIff projections (LowerApart keys) ∧
      (LatinNames keys → ApartIff projections True)) ∧
    (∀ statement, rowHashDetailQuery platform table columns keys filter options = .ok statement →
      let projections := hashDetailProjections platform columns keys options
      projectionQuery platform table projections filter = statement ∧
      ApartIff projections (LowerApart keys ∧ LowerApart columns ∧ PrefixFree keys columns) ∧
      (LatinNames keys → LatinNames columns → ApartIff projections
        (∀ key ∈ keys, ∀ column ∈ columns, key.name ≠ "N_" ++ column.name))) := by
  constructor
  · intro statement given
    obtain ⟨usable, rfl⟩ := rowHashQuery_eq_ok_iff.mp given
    have names := names_hashProjections_nodup_iff usable keysDistinct platform options
    refine ⟨⟨_, (String.append_assoc ..).symm⟩, .of_names names, fun latin => .of_names ?_⟩
    exact names.trans (iff_true_intro (keysDistinct.lowerApart latin))
  · intro statement given
    obtain ⟨usable, rfl⟩ := rowHashDetailQuery_eq_ok_iff.mp given
    have names := names_hashDetailProjections_nodup_iff usable keysDistinct columnsDistinct platform
      options
    refine ⟨rfl, .of_names names, fun keysLatin columnsLatin => .of_names ?_⟩
    have free := prefixFree_iff keysDistinct columnsDistinct keysLatin columnsLatin
    rw [names, free]
    exact (and_iff_right (keysDistinct.lowerApart keysLatin)).trans
      (and_iff_right (columnsDistinct.lowerApart columnsLatin))

/-- The pairs of number columns that have the same names on both platforms. -/
def numberPairs (names : List String) : List ColumnPair :=
  (Crosswalk.build (names.map (.declare .legacy · "NUMBER"))
    (names.map (.declare .cloud · "bigint")) (names.map fun name => ⟨name, name, false⟩)).comparable

theorem numberPairs_distinct (names : List String) : DistinctPairs (numberPairs names) :=
  Crosswalk.distinctPairs_of_subset (List.Subset.refl _)
    (SortedMap.nodup_of_pairwise_lt Crosswalk.names_build_pairwise).of_map

theorem projected_names_nodup_iff_numbers :
    let columns := numberPairs ["ID", "N_ID"]
    let keys := numberPairs ["ID"]
    DistinctPairs columns ∧ DistinctPairs keys ∧
      (∃ statement, rowHashDetailQuery .cloud ⟨"core", "accounts"⟩ columns keys none {} =
        .ok statement) ∧
      ((hashDetailProjections .cloud columns keys {}).map Projection.name).Nodup := by
  intro columns keys
  obtain ⟨statement, given⟩ : ∃ statement,
      rowHashDetailQuery .cloud ⟨"core", "accounts"⟩ columns keys none {} = .ok statement :=
    ⟨_, rowHashDetailQuery_eq_ok_iff.mpr ⟨by decide +kernel, rfl⟩⟩
  refine ⟨numberPairs_distinct _, numberPairs_distinct _, ⟨statement, given⟩, ?_⟩
  have apart := (projected_names_nodup_iff (numberPairs_distinct _) (numberPairs_distinct _) .cloud
    ⟨"core", "accounts"⟩ none {}).2 statement given
  exact (apart.2.2 (by decide +kernel) (by decide +kernel)).names.mpr (by decide +kernel)

/-- A key may have the prefixed name of a column, and the Kelvin sign is lowered to `k` as well. -/
theorem projected_names_not_nodup :
    (DistinctPairs (numberPairs ["ID"]) ∧ DistinctPairs (numberPairs ["N_ID"]) ∧
      (rowHashDetailQuery .cloud ⟨"core", "accounts"⟩ (numberPairs ["ID"]) (numberPairs ["N_ID"])
        none {}).isOk = true ∧
      ¬((hashDetailProjections .cloud (numberPairs ["ID"]) (numberPairs ["N_ID"]) {}).map
        Projection.name).Nodup) ∧
    (DistinctPairs (numberPairs ["K", "\u212A"]) ∧
      (rowHashQuery .cloud ⟨"core", "accounts"⟩ (numberPairs ["ID"]) (numberPairs ["K", "\u212A"])
        none {}).isOk = true ∧
      ¬((hashProjections .cloud (numberPairs ["ID"]) (numberPairs ["K", "\u212A"]) {}).map
        Projection.name).Nodup) :=
  ⟨⟨numberPairs_distinct _, numberPairs_distinct _, by decide +kernel, by decide +kernel⟩,
    numberPairs_distinct _, by decide +kernel, by decide +kernel⟩

end Reconciliation
