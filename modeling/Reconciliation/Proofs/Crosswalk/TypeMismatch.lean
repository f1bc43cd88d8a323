import Reconciliation.Proofs.Crosswalk.Sorting

/-! # Type mismatches and compared pairs

Of several pairs with one legacy column a crosswalk compares the last, but it checks the types of
all of them. So the type mismatches are those of the compared pairs and, besides, those of the pairs
that a later one replaced (`Crosswalk.typeMismatches_perm_iff`). A mismatch may therefore be of a
pair that is not compared, or be listed twice.
-/

namespace Reconciliation.Crosswalk

variable {legacy cloud : List Column} {mappings : List ColumnMapping}

/-- The pairs that a later one with the same legacy column replaces. -/
def superseded : List ColumnPair → List ColumnPair
  | [] => []
  | pair :: later =>
    if pair.name ∈ later.map ColumnPair.name then pair :: superseded later else superseded later

/-- Every pair is held under its name or is replaced by a later one. -/
theorem values_append_superseded_perm (pairs : List ColumnPair) :
    ((SortedMap.ofList (pairs.map fun pair => (pair.name, pair))).values ++
      superseded pairs).Perm pairs := by
  induction pairs with
  | nil => exact List.Perm.refl _
  | cons pair later ih =>
      have held : ((SortedMap.ofList (later.map fun pair => (pair.name, pair))).get?
          pair.name).isSome ↔ pair.name ∈ later.map ColumnPair.name := by
        rw [SortedMap.isSome_get?_ofList_iff, List.map_map]
        rfl
      rw [List.map_cons, SortedMap.ofList_cons, superseded]
      by_cases replaced : pair.name ∈ later.map ColumnPair.name
      · rw [if_pos (held.mpr replaced), if_pos replaced]
        exact List.perm_middle.trans (ih.cons pair)
      · rw [if_neg (mt held.mp replaced), if_neg replaced]
        have fresh := mt SortedMap.mem_keys_iff.mp (mt held.mp replaced)
        have added := (SortedMap.insertEntry_perm pair fresh).map Prod.snd
        exact (added.append_right _).trans (ih.cons pair)

/-- The pairs of a crosswalk are the compared ones and those replaced. -/
theorem comparable_append_superseded_perm :
    ((build legacy cloud mappings).comparable ++ superseded (pairsOf legacy cloud mappings)).Perm
      (pairsOf legacy cloud mappings) := by
  rw [comparable_build]
  exact values_append_superseded_perm _

theorem filterMap_typeMismatch?_eq_nil_iff {pairs : List ColumnPair} :
    pairs.filterMap ColumnPair.typeMismatch? = [] ↔
      ∀ pair ∈ pairs, typesCompatible pair.legacy.dataType pair.cloud.dataType = true := by
  rw [List.filterMap_eq_nil_iff]
  refine forall₂_congr fun pair _ => ?_
  rw [ColumnPair.typeMismatch?]
  cases typesCompatible pair.legacy.dataType pair.cloud.dataType <;> simp

/-- **The type mismatches are those of the compared pairs and of the pairs replaced**, each once, so
that they are those of the compared pairs exactly if no pair replaced has one. -/
theorem typeMismatches_perm_iff (legacy cloud : List Column) (mappings : List ColumnMapping) :
    let crosswalk := build legacy cloud mappings
    let replaced := superseded (pairsOf legacy cloud mappings)
    crosswalk.typeMismatches.Perm (crosswalk.comparable.filterMap ColumnPair.typeMismatch? ++
        replaced.filterMap ColumnPair.typeMismatch?) ∧
      (crosswalk.typeMismatches.Perm (crosswalk.comparable.filterMap ColumnPair.typeMismatch?) ↔
        ∀ pair ∈ replaced, typesCompatible pair.legacy.dataType pair.cloud.dataType = true) := by
  intro crosswalk replaced
  have all : crosswalk.typeMismatches.Perm
      (crosswalk.comparable.filterMap ColumnPair.typeMismatch? ++
        replaced.filterMap ColumnPair.typeMismatch?) := by
    rw [← List.filterMap_append, typeMismatches_build]
    exact (comparable_append_superseded_perm.filterMap _).symm
  refine ⟨all, ?_⟩
  rw [← filterMap_typeMismatch?_eq_nil_iff]
  constructor
  · intro compared
    have lengths := (all.symm.trans compared).length_eq
    rw [List.length_append] at lengths
    exact List.eq_nil_of_length_eq_zero (by omega)
  · intro none
    rwa [none, List.append_nil] at all

/-- A second mapping corrects the first, whose types do not look alike. The mismatch stays. -/
theorem replaced_pair_mismatches :
    let crosswalk := build [.declare .legacy "OPEN_DT" "DATE"]
      [.declare .cloud "open_no" "bigint", .declare .cloud "open_dt" "date"]
      [⟨"OPEN_DT", "open_no", false⟩, ⟨"OPEN_DT", "open_dt", false⟩]
    crosswalk.comparable.map (·.map Column.name) = [⟨"OPEN_DT", "open_dt"⟩] ∧
      crosswalk.typeMismatches.map TypeMismatch.columns = [⟨"OPEN_DT", "open_no"⟩] := by
  decide +kernel

end Reconciliation.Crosswalk
