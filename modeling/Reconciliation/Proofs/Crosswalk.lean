import Mathlib.Logic.Basic
import Reconciliation.Crosswalk
import Reconciliation.Proofs.SortedMap

/-! # Compared and tokenized columns

A mapping that links two columns of the catalogs either has them compared or keeps the legacy one
out. Each mapping decides by itself, so a legacy column is kept out of every comparison exactly if
all the mappings that link it say so (`keptOut_iff`); one mapping that does not is enough to have
it compared.
-/

namespace Reconciliation

/-- Some column of a platform folds to a name. -/
def Declares (platform : Platform) (columns : List Column) (name : String) : Prop :=
  ∃ column ∈ columns, platform.identifier column.name = name

theorem isSome_get?_catalogOf {platform : Platform} {columns : List Column} {name : String} :
    ((catalogOf platform columns).get? name).isSome ↔ Declares platform columns name := by
  rw [catalogOf, SortedMap.isSome_get?_ofList_iff, List.map_map, List.mem_map]
  rfl

namespace ColumnMapping

variable {legacy cloud : List Column} {mapping : ColumnMapping} {name : String}

/-- A mapping names a column of each catalog. -/
def Links (legacy cloud : List Column) (mapping : ColumnMapping) : Prop :=
  mapping.isBlank = false ∧ Declares .legacy legacy mapping.names.legacy ∧
    Declares .cloud cloud mapping.names.cloud

/-- A mapping that links no columns dangles, unless it leaves a name blank. -/
theorem resolve_of_not_links (unlinked : ¬mapping.Links legacy cloud) :
    mapping.resolve ⟨catalogOf .legacy legacy, catalogOf .cloud cloud⟩ =
      if mapping.isBlank then .blank else .dangling mapping.names mapping := by
  cases blank : mapping.isBlank with
  | true => simp only [resolve, blank, if_true]
  | false =>
      simp only [resolve, blank, Bool.false_eq_true, if_false]
      cases left : (catalogOf .legacy legacy).get? mapping.names.legacy with
      | none => rfl
      | some column =>
          cases right : (catalogOf .cloud cloud).get? mapping.names.cloud with
          | none => rfl
          | some other =>
              refine (unlinked ⟨blank, ?_, ?_⟩).elim
              · exact isSome_get?_catalogOf.mp (by rw [left]; rfl)
              · exact isSome_get?_catalogOf.mp (by rw [right]; rfl)

/-- A mapping that links two columns keeps the legacy one out or has them compared. -/
theorem resolve_of_links (links : mapping.Links legacy cloud) :
    ∃ left right : Column,
      (catalogOf .legacy legacy).get? mapping.names.legacy = some left ∧
      (catalogOf .cloud cloud).get? mapping.names.cloud = some right ∧
      mapping.resolve ⟨catalogOf .legacy legacy, catalogOf .cloud cloud⟩ =
        if mapping.excluded then .tokenized mapping.names
        else .comparable ⟨.declare .legacy mapping.names.legacy left.dataType,
          .declare .cloud mapping.names.cloud right.dataType⟩ := by
  obtain ⟨blank, inLegacy, inCloud⟩ := links
  obtain ⟨left, foundLeft⟩ := Option.isSome_iff_exists.mp (isSome_get?_catalogOf.mpr inLegacy)
  obtain ⟨right, foundRight⟩ := Option.isSome_iff_exists.mp (isSome_get?_catalogOf.mpr inCloud)
  refine ⟨left, right, foundLeft, foundRight, ?_⟩
  simp only [resolve, blank, foundLeft, foundRight, Bool.false_eq_true, if_false]

/-- An excluding mapping keeps the legacy column that it links out. -/
theorem tokenized?_resolve_eq_some_iff :
    (mapping.resolve ⟨catalogOf .legacy legacy, catalogOf .cloud cloud⟩).tokenized? = some name ↔
      mapping.Links legacy cloud ∧ mapping.excluded = true ∧ mapping.names.legacy = name := by
  by_cases links : mapping.Links legacy cloud
  · obtain ⟨left, right, -, -, resolved⟩ := resolve_of_links links
    rw [resolved]
    cases mapping.excluded <;> simp [Resolution.tokenized?, links]
  · rw [resolve_of_not_links links]
    cases mapping.isBlank <;> simp [Resolution.tokenized?, links]

/-- A mapping that does not exclude has the columns that it links compared. -/
theorem pair?_resolve_eq_some_iff :
    (mapping.resolve ⟨catalogOf .legacy legacy, catalogOf .cloud cloud⟩).pair?.map ColumnPair.name =
        some name ↔
      mapping.Links legacy cloud ∧ mapping.excluded = false ∧ mapping.names.legacy = name := by
  by_cases links : mapping.Links legacy cloud
  · obtain ⟨left, right, -, -, resolved⟩ := resolve_of_links links
    rw [resolved]
    cases mapping.excluded <;> simp [Resolution.pair?, ColumnPair.name, Column.declare, links]
  · rw [resolve_of_not_links links]
    cases mapping.isBlank <;> simp [Resolution.pair?, links]

end ColumnMapping

namespace Crosswalk

variable {legacy cloud : List Column} {mappings : List ColumnMapping} {name : String}

/-- The columns kept out are those that an excluding mapping links. -/
theorem mem_tokenized_build :
    name ∈ (build legacy cloud mappings).tokenized ↔
      ∃ mapping ∈ mappings, mapping.Links legacy cloud ∧ mapping.excluded = true ∧
        mapping.names.legacy = name := by
  simp only [build, SortedMap.mem_distinct, List.mem_filterMap, List.mem_map,
    exists_exists_and_eq_and, ColumnMapping.tokenized?_resolve_eq_some_iff]

/-- The names of the values of a map that holds every value under its name. -/
theorem mem_names_of_ofList {pairs : List ColumnPair} :
    name ∈ (SortedMap.ofList (pairs.map fun pair => (pair.name, pair))).values.map
        ColumnPair.name ↔
      ∃ pair ∈ pairs, pair.name = name := by
  constructor
  · intro named
    obtain ⟨pair, inValues, rfl⟩ := List.mem_map.mp named
    obtain ⟨⟨key, held⟩, entry, rfl⟩ := List.mem_map.mp inValues
    have listed := SortedMap.mem_of_get?_ofList (SortedMap.get?_eq_some_iff.mpr entry)
    obtain ⟨pair, member, same⟩ := List.mem_map.mp listed
    cases same
    exact ⟨_, member, rfl⟩
  · rintro ⟨pair, member, rfl⟩
    have key : pair.name ∈ (pairs.map fun pair => (pair.name, pair)).map Prod.fst := by
      rw [List.map_map]
      exact List.mem_map_of_mem member
    obtain ⟨other, found⟩ := Option.isSome_iff_exists.mp (SortedMap.isSome_get?_ofList_iff.mpr key)
    -- a later pair of the name may stand in its place
    obtain ⟨later, _, same⟩ := List.mem_map.mp (SortedMap.mem_of_get?_ofList found)
    obtain ⟨named, rfl⟩ := Prod.mk.inj same
    refine List.mem_map.mpr ⟨later, ?_, named⟩
    exact List.mem_map.mpr ⟨_, SortedMap.get?_eq_some_iff.mp found, rfl⟩

/-- The compared columns are those that a mapping links without excluding them. -/
theorem mem_names_build :
    name ∈ (build legacy cloud mappings).names ↔
      ∃ mapping ∈ mappings, mapping.Links legacy cloud ∧ mapping.excluded = false ∧
        mapping.names.legacy = name := by
  rw [names, build, mem_names_of_ofList]
  simp only [List.mem_filterMap, List.mem_map, exists_exists_and_eq_and,
    ← ColumnMapping.pair?_resolve_eq_some_iff, Option.map_eq_some_iff]
  constructor
  · rintro ⟨pair, ⟨mapping, member, found⟩, named⟩
    exact ⟨mapping, member, pair, found, named⟩
  · rintro ⟨mapping, member, pair, found, named⟩
    exact ⟨pair, ⟨mapping, member, found⟩, named⟩

/-- **A column is kept out of every comparison exactly if some mapping links it and every mapping
that links it excludes it.** -/
theorem keptOut_iff (legacy cloud : List Column) (mappings : List ColumnMapping) (name : String) :
    name ∈ (build legacy cloud mappings).tokenized ∧
        name ∉ (build legacy cloud mappings).names ↔
      (∃ mapping ∈ mappings, mapping.Links legacy cloud ∧ mapping.names.legacy = name) ∧
        ∀ mapping ∈ mappings, mapping.Links legacy cloud → mapping.names.legacy = name →
          mapping.excluded = true := by
  rw [mem_tokenized_build, mem_names_build]
  constructor
  · rintro ⟨⟨mapping, member, links, _, named⟩, notCompared⟩
    refine ⟨⟨mapping, member, links, named⟩, ?_⟩
    intro other member links named
    cases plain : other.excluded with
    | true => rfl
    | false => exact (notCompared ⟨other, member, links, plain, named⟩).elim
  · rintro ⟨⟨mapping, member, links, named⟩, all⟩
    refine ⟨⟨mapping, member, links, all mapping member links named, named⟩, ?_⟩
    rintro ⟨other, member, links, plain, named⟩
    rw [all other member links named] at plain
    cases plain

/-- Two mappings of one column, of which one excludes it: the column is kept out and compared. -/
theorem tokenized_column_compared :
    let crosswalk := build [.declare .legacy "SSN" "VARCHAR2(9)"]
      [.declare .cloud "ssn" "varchar", .declare .cloud "ssn_token" "varchar"]
      [⟨"ssn", "ssn_token", true⟩, ⟨"ssn", "ssn", false⟩]
    "SSN" ∈ crosswalk.tokenized ∧ "SSN" ∈ crosswalk.names := by
  decide +kernel

end Crosswalk

end Reconciliation
