import Reconciliation.Proofs.SortedMap
import Reconciliation.Session.Run

/-! # What units found

Where every unit has a name of its own, the harvest of a platform holds each finding under its unit
(`get?_found_eq_some_iff`) and each failure once, by unit (`mem_failures_iff`, `failures_pairwise`).
Such a harvest does not depend on the order in which the units finished (`ofResults_eq_of_perm`), so
it is the harvest of the units taken one after another (`Connections.harvest_value`).
-/

namespace Reconciliation

namespace Harvest

variable {α : Type} {platform : Platform} {results others : List (String × Except Failure α)}

theorem mem_findings_iff {name : String} {value : α} :
    (name, value) ∈ findings results ↔ (name, .ok value) ∈ results := by
  unfold findings
  rw [List.mem_filterMap]
  constructor
  · rintro ⟨⟨unit, result⟩, member, kept⟩
    cases result with
    | error failure => cases kept
    | ok held =>
        cases kept
        exact member
  · intro member
    exact ⟨_, member, rfl⟩

theorem mem_failuresOf_iff {entry : UnitFailure} :
    entry ∈ failuresOf platform results ↔
      ∃ failure, (entry.unit, .error failure) ∈ results ∧
        entry = ⟨platform, entry.unit, failure.message⟩ := by
  unfold failuresOf
  rw [List.mem_filterMap]
  constructor
  · rintro ⟨⟨unit, result⟩, member, kept⟩
    cases result with
    | ok held => cases kept
    | error failure =>
        cases kept
        exact ⟨failure, member, rfl⟩
  · rintro ⟨failure, member, same⟩
    exact ⟨_, member, congrArg some same.symm⟩

theorem findings_names_sublist :
    ((findings results).map Prod.fst).Sublist (results.map Prod.fst) := by
  induction results with
  | nil => exact List.Sublist.refl _
  | cons head rest ih =>
      obtain ⟨name, result⟩ := head
      cases result with
      | error failure => exact ih.cons _
      | ok value => exact ih.cons_cons _

theorem failuresOf_units_sublist :
    ((failuresOf platform results).map UnitFailure.unit).Sublist (results.map Prod.fst) := by
  induction results with
  | nil => exact List.Sublist.refl _
  | cons head rest ih =>
      obtain ⟨name, result⟩ := head
      cases result with
      | error failure => exact ih.cons_cons _
      | ok value => exact ih.cons _

theorem mem_failures_iff {entry : UnitFailure} :
    entry ∈ (ofResults platform results).failures ↔
      ∃ failure, (entry.unit, .error failure) ∈ results ∧
        entry = ⟨platform, entry.unit, failure.message⟩ := by
  unfold ofResults
  rw [(List.mergeSort_perm _ _).mem_iff, mem_failuresOf_iff]

variable (distinct : (results.map Prod.fst).Nodup)
include distinct

/-- The findings are those of the units that succeeded. -/
theorem get?_found_eq_some_iff {name : String} {value : α} :
    (ofResults platform results).found.get? name = some value ↔ (name, .ok value) ∈ results := by
  unfold ofResults
  rw [SortedMap.get?_ofList_eq_some_iff (distinct.sublist findings_names_sublist),
    mem_findings_iff]

/-- Each unit fails once, and the failures stand in order of their units. -/
theorem failures_pairwise :
    (ofResults platform results).failures.Pairwise fun a b => a.unit < b.unit := by
  have sorted : (ofResults platform results).failures.Pairwise fun a b => a.unit ≤ b.unit := by
    apply (List.pairwise_mergeSort _ _ (failuresOf platform results)).imp
    · intro a b ascending
      exact of_decide_eq_true ascending
    · intro a b c first second
      exact decide_eq_true (Std.le_trans (of_decide_eq_true first) (of_decide_eq_true second))
    · intro a b
      rw [Bool.or_eq_true, decide_eq_true_iff, decide_eq_true_iff]
      exact Std.le_total
  have different : (ofResults platform results).failures.Pairwise fun a b => a.unit ≠ b.unit := by
    apply List.pairwise_map.mp
    apply ((List.mergeSort_perm _ _).map UnitFailure.unit).nodup_iff.mpr
    exact distinct.sublist failuresOf_units_sublist
  apply (sorted.and different).imp
  rintro a b ⟨ascending, different⟩
  exact Std.lt_of_le_of_ne ascending different

/-- The order in which units finish does not show in the harvest. -/
theorem ofResults_eq_of_perm (same : results.Perm others) :
    ofResults platform results = ofResults platform others := by
  have otherDistinct : (others.map Prod.fst).Nodup := (same.map Prod.fst).nodup_iff.mp distinct
  have found : (ofResults platform results).found = (ofResults platform others).found := by
    apply SortedMap.ext_get?
    intro name
    apply Option.ext
    intro value
    rw [get?_found_eq_some_iff distinct, get?_found_eq_some_iff otherDistinct, same.mem_iff]
  have failures : (ofResults platform results).failures = (ofResults platform others).failures := by
    have perm : (ofResults platform results).failures.Perm (ofResults platform others).failures :=
      (List.mergeSort_perm _ _).trans
        ((same.filterMap _).trans (List.mergeSort_perm _ _).symm)
    apply perm.eq_of_pairwise _ (failures_pairwise distinct) (failures_pairwise otherDistinct)
    intro a b _ _ below above
    exact absurd (Std.lt_trans below above) Std.lt_irrefl
  calc ofResults platform results
      = ⟨(ofResults platform results).found, (ofResults platform results).failures⟩ := rfl
    _ = ofResults platform others := by rw [found, failures]

end Harvest

namespace Connections

theorem value_askEach (connections : Connections) (platform : Platform) (units : List WorkUnit) :
    (connections.askEach platform units).value = units.map fun unit =>
      (unit.name, (connections.databases.on platform).answer unit.statement) := by
  induction units with
  | nil => rfl
  | cons unit units ih =>
      rw [askEach, Inquiry.value_bind, Inquiry.value_bind, Inquiry.value_pure, ih]
      rfl

/-- All units are answered, in whatever order they finish. -/
theorem value_askAll_perm (connections : Connections) (platform : Platform)
    (units : List WorkUnit) :
    (connections.askAll platform units).value.Perm (units.map fun unit =>
      (unit.name, (connections.databases.on platform).answer unit.statement)) := by
  rw [← value_askEach]
  exact finishingOrder_perm ..

/-- **The harvest of units with names of their own is that of the units one after another**, for
every number of units that run at once and every order in which they finish. -/
theorem harvest_value {α : Type} {connections : Connections} {units : Both (List WorkUnit)}
    (read : Answer → Except Failure α)
    (distinct : ∀ platform, ((units.on platform).map WorkUnit.name).Nodup) :
    (connections.harvest units read).value = .tabulate fun platform =>
      .ofResults platform ((units.on platform).map fun unit =>
        (unit.name, read ((connections.databases.on platform).answer unit.statement))) := by
  have arrived (platform : Platform) :
      Harvest.ofResults platform
          ((connections.askAll platform (units.on platform)).value.map fun result =>
            (result.1, read result.2)) =
        Harvest.ofResults platform ((units.on platform).map fun unit =>
          (unit.name, read ((connections.databases.on platform).answer unit.statement))) := by
    have order := (connections.value_askAll_perm platform (units.on platform)).map
      fun result => (result.1, read result.2)
    rw [List.map_map] at order
    refine Harvest.ofResults_eq_of_perm ?_ order
    rw [(order.map Prod.fst).nodup_iff, List.map_map]
    exact distinct platform
  have legacy := arrived .legacy
  have cloud := arrived .cloud
  unfold harvest
  rw [Inquiry.value_bind, Inquiry.value_bind, Inquiry.value_pure]
  exact congr (congrArg Both.mk legacy) cloud

end Connections

end Reconciliation
