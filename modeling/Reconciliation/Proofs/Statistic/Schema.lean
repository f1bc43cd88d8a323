import Reconciliation.Proofs.SortedMap
import Reconciliation.Statistic.Schema

/-! # Kinds that a schema sets

A step that sets one kind sets it for its statistic only (`StatSchema.kindOf_withKind`). A step that
sets a tolerance reaches every statistic, listed or not, and keeps what its kind has beside the
tolerance (`StatSchema.kindOf_withTolerance`).
-/

namespace Reconciliation

namespace StatField

theorem mem_all (field : StatField) : field ∈ all := by
  cases field <;> decide

/-- All statistics are listed in their order. -/
theorem all_pairwise : all.Pairwise (· < ·) := by
  decide

end StatField

namespace ComparisonKind

variable {tolerance : Tolerance}

/-- Of two tolerances set one after the other the later stands. -/
theorem withTolerance_withTolerance (kind : ComparisonKind) (later : Tolerance) :
    (kind.withTolerance tolerance).withTolerance later = kind.withTolerance later := by
  cases kind <;> rfl

end ComparisonKind

namespace StatSchema

variable (schema : StatSchema)

theorem kindOf_withKind (field : StatField) (kind : ComparisonKind) (query : StatField) :
    (schema.withKind field kind).kindOf query =
      if query = field then kind else schema.kindOf query := by
  rw [kindOf, withKind, SortedMap.get?_insert]
  split <;> rfl

theorem kindOf_standard (field : StatField) : standard.kindOf field = field.defaultKind := by
  have listed : standard.kinds.get? field = some field.defaultKind := by
    rw [SortedMap.get?_eq_some_iff, standard, defaultKinds, SortedMap.entries_ofList_map,
      SortedMap.distinct_eq_self StatField.all_pairwise]
    exact List.mem_map.mpr ⟨field, field.mem_all, rfl⟩
  rw [kindOf, listed]
  rfl

variable (tolerance : Tolerance)

/-- The schema with the tolerance of one statistic set. -/
def withFieldTolerance (field : StatField) : StatSchema :=
  schema.withKind field ((schema.kindOf field).withTolerance tolerance)

theorem kindOf_foldl_withFieldTolerance (fields : List StatField) (field : StatField) :
    (fields.foldl (withFieldTolerance · tolerance) schema).kindOf field =
      if field ∈ fields then (schema.kindOf field).withTolerance tolerance
      else schema.kindOf field := by
  induction fields generalizing schema with
  | nil => rfl
  | cons head rest ih =>
      rw [List.foldl_cons, ih, withFieldTolerance, kindOf_withKind]
      by_cases same : field = head
      · subst same
        rw [if_pos rfl, ComparisonKind.withTolerance_withTolerance, ite_self,
          if_pos List.mem_cons_self]
      · simp only [same, if_false, List.mem_cons, false_or]

/-- Every statistic keeps its kind and gets the tolerance, if the kind has one. -/
theorem kindOf_withTolerance (field : StatField) : (schema.withTolerance tolerance).kindOf field =
    (schema.kindOf field).withTolerance tolerance :=
  (schema.kindOf_foldl_withFieldTolerance tolerance StatField.all field).trans
    (if_pos field.mem_all)

theorem zeroAsNull_withTolerance :
    (schema.withTolerance tolerance).zeroAsNull = schema.zeroAsNull := by
  rfl

theorem mem_toList_iff {field : StatField} {kind : ComparisonKind} :
    (field, kind) ∈ schema.toList ↔ schema.kindOf field = kind := by
  rw [toList, List.mem_map]
  constructor
  · intro ⟨_, _, same⟩
    cases same
    rfl
  · rintro rfl
    exact ⟨field, field.mem_all, rfl⟩

theorem fields_toList : schema.toList.map Prod.fst = StatField.all := by
  rw [toList, List.map_map]
  exact List.map_id _

end StatSchema

end Reconciliation
