import Mathlib.Data.List.Nodup
import Reconciliation.Proofs.Crosswalk

/-! # What a crosswalk lists

Where folded names are distinct, a column is known by its name and every mapping by its legacy
column. Each mapping that leaves no name blank then lands in exactly one list of the crosswalk
(`Crosswalk.build_lists`). The order of the catalogs does not matter
(`Crosswalk.build_eq_of_perm`), and that of the mappings only orders the dangling mappings and the
type mismatches (`Crosswalk.build_sameUpToOrder`).
-/

namespace Reconciliation

/-- No two columns fold to one name on their platform. -/
def DistinctNames (platform : Platform) (columns : List Column) : Prop :=
  (columns.map fun column => platform.identifier column.name).Nodup

/-- A column of a platform that a folded name denotes. -/
def Denotes (platform : Platform) (columns : List Column) (name : String) (column : Column) :
    Prop :=
  column ∈ columns ∧ platform.identifier column.name = name

/-- Where names are distinct, a catalog finds the column that a name denotes. -/
theorem get?_catalogOf_eq_some_iff {platform : Platform} {columns : List Column}
    (distinct : DistinctNames platform columns) {name : String} {column : Column} :
    (catalogOf platform columns).get? name = some column ↔
      Denotes platform columns name column := by
  have keys : ((columns.map fun column => (platform.identifier column.name, column)).map
      Prod.fst).Nodup := by
    rw [List.map_map]
    exact distinct
  rw [catalogOf, SortedMap.get?_ofList_eq_some_iff keys, List.mem_map]
  constructor
  · rintro ⟨_, member, same⟩
    cases same
    exact ⟨member, rfl⟩
  · rintro ⟨member, rfl⟩
    exact ⟨column, member, rfl⟩

theorem catalogOf_eq_of_perm {platform : Platform} {columns others : List Column}
    (distinct : DistinctNames platform columns) (perm : columns.Perm others) :
    catalogOf platform columns = catalogOf platform others := by
  apply SortedMap.ofList_eq_of_perm _ (perm.map _)
  rw [List.map_map]
  exact distinct

instance (platform : Platform) (columns : List Column) (name : String) :
    Decidable (Declares platform columns name) :=
  inferInstanceAs (Decidable (∃ column ∈ columns, _))

namespace ColumnMapping

variable {legacy cloud : List Column} {mapping : ColumnMapping} {pair : ColumnPair}

instance : Decidable (mapping.Links legacy cloud) :=
  inferInstanceAs (Decidable (_ ∧ _ ∧ _))

/-- A mapping has a pair compared: it excludes nothing, and the pair has the folded names of the
mapping and the types of the columns that they denote. -/
def Compares (legacy cloud : List Column) (mapping : ColumnMapping) (pair : ColumnPair) : Prop :=
  mapping.isBlank = false ∧ mapping.excluded = false ∧
    ∃ left right, Denotes .legacy legacy mapping.names.legacy left ∧
      Denotes .cloud cloud mapping.names.cloud right ∧
      pair = ⟨.declare .legacy mapping.names.legacy left.dataType,
        .declare .cloud mapping.names.cloud right.dataType⟩

theorem Compares.links (compares : mapping.Compares legacy cloud pair) :
    mapping.Links legacy cloud := by
  obtain ⟨notBlank, -, left, right, denotesLeft, denotesRight, -⟩ := compares
  exact ⟨notBlank, ⟨left, denotesLeft⟩, ⟨right, denotesRight⟩⟩

/-- A mapping that links columns without excluding them has a pair compared. -/
theorem Links.exists_compares (links : mapping.Links legacy cloud)
    (notExcluded : mapping.excluded = false) : ∃ pair, mapping.Compares legacy cloud pair := by
  obtain ⟨notBlank, ⟨left, denotesLeft⟩, ⟨right, denotesRight⟩⟩ := links
  exact ⟨_, notBlank, notExcluded, left, right, denotesLeft, denotesRight, rfl⟩

theorem Compares.name_eq (compares : mapping.Compares legacy cloud pair) :
    pair.name = mapping.names.legacy := by
  obtain ⟨-, -, left, right, -, -, rfl⟩ := compares
  rfl

variable (distinctLegacy : DistinctNames .legacy legacy)
  (distinctCloud : DistinctNames .cloud cloud)
include distinctLegacy distinctCloud

/-- The pair that a mapping resolves to is the one that it has compared. -/
theorem pair?_resolve_iff_compares :
    (mapping.resolve ⟨catalogOf .legacy legacy, catalogOf .cloud cloud⟩).pair? = some pair ↔
      mapping.Compares legacy cloud pair := by
  constructor
  · intro found
    by_cases links : mapping.Links legacy cloud
    · obtain ⟨left, right, foundLeft, foundRight, resolved⟩ := resolve_of_links links
      rw [resolved] at found
      cases excluded : mapping.excluded with
      | true =>
          rw [excluded] at found
          cases found
      | false =>
          rw [excluded] at found
          exact ⟨links.1, excluded, left, right,
            (get?_catalogOf_eq_some_iff distinctLegacy).mp foundLeft,
            (get?_catalogOf_eq_some_iff distinctCloud).mp foundRight, (Option.some.inj found).symm⟩
    · rw [resolve_of_not_links links] at found
      cases blank : mapping.isBlank <;> rw [blank] at found <;> cases found
  · rintro ⟨notBlank, notExcluded, left, right, denotesLeft, denotesRight, rfl⟩
    have foundLeft := (get?_catalogOf_eq_some_iff distinctLegacy).mpr denotesLeft
    have foundRight := (get?_catalogOf_eq_some_iff distinctCloud).mpr denotesRight
    simp only [resolve, notBlank, notExcluded, foundLeft, foundRight, Bool.false_eq_true, if_false]
    rfl

omit distinctLegacy distinctCloud in
/-- A mapping dangles if it links no columns although it names both. -/
theorem dangling?_resolve :
    (mapping.resolve ⟨catalogOf .legacy legacy, catalogOf .cloud cloud⟩).dangling? =
      if !mapping.isBlank && !decide (mapping.Links legacy cloud) then some mapping else none := by
  by_cases links : mapping.Links legacy cloud
  · obtain ⟨left, right, -, -, resolved⟩ := resolve_of_links links
    rw [resolved, decide_eq_true links, Bool.not_true, Bool.and_false]
    cases mapping.excluded <;> rfl
  · rw [resolve_of_not_links links, decide_eq_false links, Bool.not_false, Bool.and_true]
    cases mapping.isBlank <;> rfl

omit distinctLegacy distinctCloud in
/-- Every mapping that leaves no name blank says which columns are mapped. -/
theorem names?_resolve :
    (mapping.resolve ⟨catalogOf .legacy legacy, catalogOf .cloud cloud⟩).names? =
      if mapping.isBlank then none else some mapping.names := by
  by_cases links : mapping.Links legacy cloud
  · obtain ⟨left, right, -, -, resolved⟩ := resolve_of_links links
    rw [resolved, links.1]
    cases mapping.excluded <;> rfl
  · rw [resolve_of_not_links links]
    cases mapping.isBlank <;> rfl

end ColumnMapping

namespace Crosswalk

/-- What a crosswalk lists of two catalogs under some mappings. -/
structure Lists (legacy cloud : List Column) (mappings : List ColumnMapping)
    (crosswalk : Crosswalk) : Prop where
  /-- The compared pairs are those that mappings have compared. -/
  comparable : ∀ pair, pair ∈ crosswalk.comparable ↔
    ∃ mapping ∈ mappings, mapping.Compares legacy cloud pair
  names_ascend : crosswalk.names.Pairwise (· < ·)
  /-- Every mapping that links columns without excluding them gives one pair. -/
  comparedOnce : ∀ mapping ∈ mappings, mapping.Links legacy cloud → mapping.excluded = false →
    ∃ pair, mapping.Compares legacy cloud pair ∧
      crosswalk.comparable.filter (fun pair => pair.name == mapping.names.legacy) = [pair]
  /-- The columns kept out are those that excluding mappings link. -/
  tokenized : ∀ name, name ∈ crosswalk.tokenized ↔
    ∃ mapping ∈ mappings, mapping.Links legacy cloud ∧ mapping.excluded = true ∧
      mapping.names.legacy = name
  /-- Every mapping that excludes the columns that it links gives one name. -/
  tokenizedOnce : ∀ mapping ∈ mappings, mapping.Links legacy cloud → mapping.excluded = true →
    crosswalk.tokenized.count mapping.names.legacy = 1
  tokenized_ascend : crosswalk.tokenized.Pairwise (· < ·)
  /-- No column is both compared and kept out. -/
  disjoint : ∀ name ∈ crosswalk.tokenized, name ∉ crosswalk.names
  /-- The mappings that name a column that its catalog lacks. -/
  dangling : crosswalk.dangling =
    mappings.filter fun mapping => !mapping.isBlank && !decide (mapping.Links legacy cloud)
  legacyOnly : ∀ name, name ∈ crosswalk.legacyOnly ↔ Declares .legacy legacy name ∧
    ∀ mapping ∈ mappings, mapping.isBlank = false → mapping.names.legacy ≠ name
  legacyOnly_ascend : crosswalk.legacyOnly.Pairwise (· < ·)
  cloudOnly : ∀ name, name ∈ crosswalk.cloudOnly ↔ Declares .cloud cloud name ∧
    ∀ mapping ∈ mappings, mapping.isBlank = false → mapping.names.cloud ≠ name
  cloudOnly_ascend : crosswalk.cloudOnly.Pairwise (· < ·)
  /-- The compared pairs whose types do not look alike, in some order. -/
  typeMismatches : crosswalk.typeMismatches.Perm
    ((crosswalk.comparable.filter fun pair =>
      !typesCompatible pair.legacy.dataType pair.cloud.dataType).map
        fun pair => ⟨pair.map Column.name, pair.map Column.dataType⟩)

/-- The same crosswalk, up to the order of the dangling mappings and of the type mismatches. -/
structure SameUpToOrder (crosswalk other : Crosswalk) : Prop where
  comparable : other.comparable = crosswalk.comparable
  tokenized : other.tokenized = crosswalk.tokenized
  legacyOnly : other.legacyOnly = crosswalk.legacyOnly
  cloudOnly : other.cloudOnly = crosswalk.cloudOnly
  dangling : other.dangling.Perm crosswalk.dangling
  typeMismatches : other.typeMismatches.Perm crosswalk.typeMismatches

/-- No two mappings that leave no name blank name one legacy column. -/
def DistinctSources (mappings : List ColumnMapping) : Prop :=
  ((mappings.filter fun mapping => !mapping.isBlank).map fun mapping => mapping.names.legacy).Nodup

variable {legacy cloud : List Column} {mappings : List ColumnMapping}

/-- Where sources are distinct, a legacy name has one mapping. -/
theorem DistinctSources.eq_of_name_eq (distinct : DistinctSources mappings)
    {mapping other : ColumnMapping} (member : mapping ∈ mappings) (otherMember : other ∈ mappings)
    (notBlank : mapping.isBlank = false) (otherNotBlank : other.isBlank = false)
    (same : mapping.names.legacy = other.names.legacy) : mapping = other := by
  apply List.inj_on_of_nodup_map distinct _ _ same
  · exact List.mem_filter.mpr ⟨member, by rw [notBlank]; rfl⟩
  · exact List.mem_filter.mpr ⟨otherMember, by rw [otherNotBlank]; rfl⟩

/-- The pairs that mappings resolve to, in the order of the mappings. -/
def pairsOf (legacy cloud : List Column) (mappings : List ColumnMapping) : List ColumnPair :=
  mappings.filterMap fun mapping =>
    (mapping.resolve ⟨catalogOf .legacy legacy, catalogOf .cloud cloud⟩).pair?

theorem comparable_build : (build legacy cloud mappings).comparable =
    (SortedMap.ofList ((pairsOf legacy cloud mappings).map fun pair => (pair.name, pair))).values := by
  rw [pairsOf]
  simp only [build, List.filterMap_map]
  rfl

theorem typeMismatches_build : (build legacy cloud mappings).typeMismatches =
    (pairsOf legacy cloud mappings).filterMap ColumnPair.typeMismatch? := by
  rw [pairsOf]
  simp only [build, List.filterMap_map]
  rfl

/-- The pairs whose types do not look alike make the type mismatches. -/
theorem filterMap_typeMismatch? (pairs : List ColumnPair) :
    pairs.filterMap ColumnPair.typeMismatch? =
      (pairs.filter fun pair => !typesCompatible pair.legacy.dataType pair.cloud.dataType).map
        fun pair => ⟨pair.map Column.name, pair.map Column.dataType⟩ := by
  induction pairs with
  | nil => rfl
  | cons pair rest ih =>
      cases compatible : typesCompatible pair.legacy.dataType pair.cloud.dataType <;>
        simp [ColumnPair.typeMismatch?, compatible, ih]

/-- The dangling mappings keep the order of the mappings. -/
theorem dangling_build : (build legacy cloud mappings).dangling =
    mappings.filter fun mapping => !mapping.isBlank && !decide (mapping.Links legacy cloud) := by
  simp only [build, List.filterMap_map]
  rw [← List.filterMap_eq_filter]
  apply List.filterMap_congr
  intro mapping _
  rw [Function.comp_apply, ColumnMapping.dangling?_resolve]
  rfl

/-- The names mapped are those of the mappings that leave no name blank. -/
theorem filterMap_names?_resolve (legacy cloud : List Column) (mappings : List ColumnMapping) :
    (mappings.map (·.resolve ⟨catalogOf .legacy legacy, catalogOf .cloud cloud⟩)).filterMap
        Resolution.names? =
      (mappings.filter fun mapping => !mapping.isBlank).map ColumnMapping.names := by
  induction mappings with
  | nil => rfl
  | cons mapping rest ih =>
      rw [List.map_cons, List.filterMap_cons, ColumnMapping.names?_resolve, List.filter_cons, ih]
      cases mapping.isBlank <;> rfl

/-- The columns of a catalog whose names no mapping has. -/
theorem mem_unmapped_iff {platform : Platform} {columns : List Column} {name : String}
    (side : Both String → String) :
    name ∈ (catalogOf platform columns).keys.filter (fun name =>
        !(((mappings.filter fun mapping => !mapping.isBlank).map ColumnMapping.names).map
          side).contains name) ↔
      Declares platform columns name ∧
        ∀ mapping ∈ mappings, mapping.isBlank = false → side mapping.names ≠ name := by
  rw [List.mem_filter, SortedMap.mem_keys_iff, isSome_get?_catalogOf]
  simp only [Bool.not_eq_true', List.contains_eq_mem, decide_eq_false_iff_not, List.mem_map,
    List.mem_filter, exists_exists_and_eq_and, not_exists, not_and, and_imp]

/-- A map of pairs by name lists them in the order of their names. -/
theorem names_build_pairwise : (build legacy cloud mappings).names.Pairwise (· < ·) := by
  have keys (pairs : List ColumnPair) :
      (SortedMap.ofList (pairs.map fun pair => (pair.name, pair))).values.map ColumnPair.name =
        (SortedMap.ofList (pairs.map fun pair => (pair.name, pair))).keys := by
    rw [SortedMap.values, SortedMap.keys, List.map_map]
    apply List.map_congr_left
    rintro ⟨name, pair⟩ entry
    have listed := SortedMap.mem_of_get?_ofList (SortedMap.get?_eq_some_iff.mpr entry)
    obtain ⟨_, -, same⟩ := List.mem_map.mp listed
    cases same
    rfl
  rw [names, comparable_build, keys]
  exact SortedMap.keys_pairwise _

section

variable (sources : DistinctSources mappings)
include sources

/-- No legacy column is paired twice. -/
theorem names_pairsOf_nodup : ((pairsOf legacy cloud mappings).map ColumnPair.name).Nodup := by
  have named {mapping : ColumnMapping} {pair : ColumnPair}
      (found : (mapping.resolve ⟨catalogOf .legacy legacy, catalogOf .cloud cloud⟩).pair? =
        some pair) : mapping.isBlank = false ∧ mapping.names.legacy = pair.name := by
    obtain ⟨links, -, same⟩ := ColumnMapping.pair?_resolve_eq_some_iff.mp
      (congrArg (Option.map ColumnPair.name) found)
    exact ⟨links.1, same⟩
  rw [pairsOf, List.nodup_iff_pairwise_ne, List.pairwise_map, List.pairwise_filterMap]
  rw [DistinctSources, List.nodup_iff_pairwise_ne, List.pairwise_map, List.pairwise_filter]
    at sources
  apply sources.imp
  intro mapping other differ pair found otherPair otherFound
  obtain ⟨notBlank, same⟩ := named found
  obtain ⟨otherNotBlank, otherSame⟩ := named otherFound
  rw [← same, ← otherSame]
  exact differ (by rw [notBlank]; rfl) (by rw [otherNotBlank]; rfl)

/-- Every pair is compared. -/
theorem comparable_build_perm :
    (build legacy cloud mappings).comparable.Perm (pairsOf legacy cloud mappings) := by
  have distinct : ((((pairsOf legacy cloud mappings).map fun pair => (pair.name, pair))).map
      Prod.fst).Nodup := by
    rw [List.map_map]
    exact names_pairsOf_nodup sources
  have perm := (SortedMap.entries_ofList_perm distinct).map Prod.snd
  rw [List.map_map, Function.comp_def, List.map_id'] at perm
  rw [comparable_build]
  exact perm

/-- The type mismatches are those of the compared pairs. -/
theorem typeMismatches_build_perm : (build legacy cloud mappings).typeMismatches.Perm
    (((build legacy cloud mappings).comparable.filter fun pair =>
      !typesCompatible pair.legacy.dataType pair.cloud.dataType).map
        fun pair => ⟨pair.map Column.name, pair.map Column.dataType⟩) := by
  rw [typeMismatches_build, ← filterMap_typeMismatch?]
  exact ((comparable_build_perm sources).filterMap _).symm

end

/-- Among pairs of distinct names, one pair has the name of a pair. -/
theorem filter_name_eq {pairs : List ColumnPair} (distinct : (pairs.map ColumnPair.name).Nodup)
    {pair : ColumnPair} (member : pair ∈ pairs) :
    pairs.filter (fun other => other.name == pair.name) = [pair] := by
  have same : ∀ other ∈ pairs, (other.name == pair.name) = (other == pair) := by
    intro other otherMember
    rw [Bool.eq_iff_iff, beq_iff_eq, beq_iff_eq]
    exact ⟨List.inj_on_of_nodup_map distinct otherMember member, congrArg ColumnPair.name⟩
  rw [List.filter_congr same, List.filter_beq, List.count_eq_one_of_mem distinct.of_map member]
  rfl

section

variable (distinctLegacy : DistinctNames .legacy legacy)
  (distinctCloud : DistinctNames .cloud cloud) (sources : DistinctSources mappings)
include distinctLegacy distinctCloud sources

theorem mem_comparable_build {pair : ColumnPair} :
    pair ∈ (build legacy cloud mappings).comparable ↔
      ∃ mapping ∈ mappings, mapping.Compares legacy cloud pair := by
  rw [(comparable_build_perm sources).mem_iff, pairsOf, List.mem_filterMap]
  simp only [ColumnMapping.pair?_resolve_iff_compares distinctLegacy distinctCloud]

/-- A mapping that links columns without excluding them gives one pair. -/
theorem comparedOnce_build {mapping : ColumnMapping} (member : mapping ∈ mappings)
    (links : mapping.Links legacy cloud) (notExcluded : mapping.excluded = false) :
    ∃ pair, mapping.Compares legacy cloud pair ∧
      (build legacy cloud mappings).comparable.filter
        (fun pair => pair.name == mapping.names.legacy) = [pair] := by
  obtain ⟨pair, compares⟩ := links.exists_compares notExcluded
  refine ⟨pair, compares, ?_⟩
  rw [← compares.name_eq]
  apply filter_name_eq (SortedMap.nodup_of_pairwise_lt names_build_pairwise)
  exact (mem_comparable_build distinctLegacy distinctCloud sources).mpr ⟨mapping, member, compares⟩

theorem build_lists : Lists legacy cloud mappings (build legacy cloud mappings) where
  comparable _ := mem_comparable_build distinctLegacy distinctCloud sources
  names_ascend := names_build_pairwise
  comparedOnce _ := comparedOnce_build distinctLegacy distinctCloud sources
  tokenized _ := mem_tokenized_build
  tokenizedOnce mapping member links excluded :=
    List.count_eq_one_of_mem (SortedMap.distinct_nodup _)
      (mem_tokenized_build.mpr ⟨mapping, member, links, excluded, rfl⟩)
  tokenized_ascend := SortedMap.distinct_pairwise _
  disjoint := by
    intro name keptOut compared
    obtain ⟨mapping, member, links, excluded, rfl⟩ := mem_tokenized_build.mp keptOut
    obtain ⟨other, otherMember, otherLinks, notExcluded, same⟩ := mem_names_build.mp compared
    obtain rfl := sources.eq_of_name_eq otherMember member otherLinks.1 links.1 same
    rw [excluded] at notExcluded
    cases notExcluded
  dangling := dangling_build
  legacyOnly name := by
    rw [build, filterMap_names?_resolve]
    exact mem_unmapped_iff Both.legacy
  legacyOnly_ascend := (SortedMap.keys_pairwise _).filter _
  cloudOnly name := by
    rw [build, filterMap_names?_resolve]
    exact mem_unmapped_iff Both.cloud
  cloudOnly_ascend := (SortedMap.keys_pairwise _).filter _
  typeMismatches := typeMismatches_build_perm sources

end

/-- The order of distinct columns in the catalogs does not matter. -/
theorem build_eq_of_perm {legacyOrder cloudOrder : List Column}
    (distinctLegacy : DistinctNames .legacy legacy) (distinctCloud : DistinctNames .cloud cloud)
    (legacyPerm : legacy.Perm legacyOrder) (cloudPerm : cloud.Perm cloudOrder) :
    build legacyOrder cloudOrder mappings = build legacy cloud mappings := by
  unfold build
  rw [catalogOf_eq_of_perm distinctLegacy legacyPerm, catalogOf_eq_of_perm distinctCloud cloudPerm]

/-- The order of mappings of distinct columns orders the dangling mappings and the type
mismatches, and nothing else. -/
theorem build_sameUpToOrder {mappingOrder : List ColumnMapping} (sources : DistinctSources mappings)
    (perm : mappings.Perm mappingOrder) :
    SameUpToOrder (build legacy cloud mappings) (build legacy cloud mappingOrder) := by
  have pairs : (pairsOf legacy cloud mappings).Perm (pairsOf legacy cloud mappingOrder) :=
    perm.filterMap _
  have resolutions := perm.map
    (·.resolve ⟨catalogOf .legacy legacy, catalogOf .cloud cloud⟩)
  have mapped (side : Both String → String) (name : String) :=
    ((resolutions.filterMap Resolution.names?).map side).contains_eq (a := name)
  refine ⟨?_, ?_, ?_, ?_, (resolutions.filterMap _).symm, ?_⟩
  · have distinct : ((((pairsOf legacy cloud mappings).map fun pair => (pair.name, pair))).map
        Prod.fst).Nodup := by
      rw [List.map_map]
      exact names_pairsOf_nodup sources
    rw [comparable_build, comparable_build, SortedMap.ofList_eq_of_perm distinct (pairs.map _)]
  · exact SortedMap.distinct_congr fun name => (resolutions.filterMap _).mem_iff.symm
  · exact List.filter_congr fun name _ => by rw [mapped]
  · exact List.filter_congr fun name _ => by rw [mapped]
  · rw [typeMismatches_build, typeMismatches_build]
    exact (pairs.filterMap _).symm

/-- A compared pair is found by every name that folds to that of its legacy column. -/
theorem pair?_build {pair : ColumnPair} (member : pair ∈ (build legacy cloud mappings).comparable)
    {name : String} (folds : Platform.legacy.identifier name = pair.name) :
    (build legacy cloud mappings).pair? name = some pair := by
  rw [pair?, ← List.head?_filter, folds]
  rw [filter_name_eq (SortedMap.nodup_of_pairwise_lt names_build_pairwise) member]
  rfl

/-- **Where no folded name stands twice, a crosswalk sorts the mappings exactly**: each into its
list, whatever the order of the catalogs and mappings, so that every compared pair is found by its
name. -/
theorem build_sorts_mappings (legacy cloud : List Column) (mappings : List ColumnMapping)
    (distinctLegacy : DistinctNames .legacy legacy) (distinctCloud : DistinctNames .cloud cloud)
    (sources : DistinctSources mappings) :
    Lists legacy cloud mappings (build legacy cloud mappings) ∧
      (∀ legacyOrder cloudOrder, legacy.Perm legacyOrder → cloud.Perm cloudOrder →
        build legacyOrder cloudOrder mappings = build legacy cloud mappings) ∧
      (∀ mappingOrder, mappings.Perm mappingOrder →
        SameUpToOrder (build legacy cloud mappings) (build legacy cloud mappingOrder)) ∧
      ∀ pair ∈ (build legacy cloud mappings).comparable, ∀ name,
        Platform.legacy.identifier name = pair.name →
          (build legacy cloud mappings).pair? name = some pair :=
  ⟨build_lists distinctLegacy distinctCloud sources,
    fun _ _ => build_eq_of_perm distinctLegacy distinctCloud,
    fun _ => build_sameUpToOrder sources,
    fun _ member _ => pair?_build member⟩

/-- An account number is compared, a tokenized column is kept out, and a mapping dangles. -/
theorem build_sorts_accounts :
    let legacy : List Column := [.declare .legacy "ssn" "VARCHAR2(9)", .declare .legacy "acct" "NUMBER"]
    let cloud : List Column := [.declare .cloud "ACCT" "bigint", .declare .cloud "ssn_token" "varchar"]
    let mappings : List ColumnMapping :=
      [⟨"SSN", "SSN_TOKEN", true⟩, ⟨"Balance", "balance", false⟩, ⟨"acct", "acct", false⟩]
    (DistinctNames .legacy legacy ∧ DistinctNames .cloud cloud ∧ DistinctSources mappings) ∧
      (build legacy cloud mappings).dangling = [⟨"Balance", "balance", false⟩] ∧
      (build legacy cloud mappings).tokenized.count "SSN" = 1 ∧
      (build legacy cloud mappings).pair? " Acct " =
        some ⟨.declare .legacy "ACCT" "NUMBER", .declare .cloud "acct" "bigint"⟩ := by
  intro legacy cloud mappings
  have distinct : DistinctNames .legacy legacy ∧ DistinctNames .cloud cloud ∧
      DistinctSources mappings := by
    unfold DistinctNames DistinctSources
    decide +kernel
  obtain ⟨lists, -, -, finds⟩ :=
    build_sorts_mappings legacy cloud mappings distinct.1 distinct.2.1 distinct.2.2
  refine ⟨distinct, ?_, ?_, ?_⟩
  · rw [lists.dangling]
    decide +kernel
  · exact lists.tokenizedOnce ⟨"SSN", "SSN_TOKEN", true⟩ List.mem_cons_self (by decide +kernel) rfl
  · exact finds _ (by decide +kernel) _ (by decide +kernel)

end Crosswalk

end Reconciliation
