import Mathlib.Data.List.Induction
import Mathlib.Data.List.Nodup
import Reconciliation.Proofs.Statistic.Schema

/-! # Changes of a schema

A schema is changed by setting the kind of one statistic or the tolerance of all. However many
changes are made, a statistic has the kind that was set for it last, or else its kind at the start,
with the tolerance that was set last after that (`StatSchema.kindOf_changed_iff`): a tolerance
reaches the statistics that no table lists, a kind that was set over never comes back, and a kind
that is set brings its own tolerance.
-/

namespace Reconciliation

/-! ## Kinds that take a tolerance -/

namespace ComparisonKind

/-- Which readings a flexible comparison tries: as days, and as numbers. -/
def readings? : ComparisonKind → Option (Bool × Bool)
  | .flexibleString tryDate tryNumeric _ => some (tryDate, tryNumeric)
  | _ => none

/-- A kind is another one with a given tolerance in place of its own. One without any stays as it
is, and so does every kind where no tolerance is given. -/
structure Takes (origin : ComparisonKind) (given : Option Tolerance) (kind : ComparisonKind) :
    Prop where
  name : kind.name = origin.name
  readings : kind.readings? = origin.readings?
  tolerance : kind.tolerance? = origin.tolerance?.map fun own => given.getD own

/-- A kind is known by its name, its readings and its tolerance. -/
theorem ext_parts {kind other : ComparisonKind} (name : kind.name = other.name)
    (readings : kind.readings? = other.readings?) (tolerance : kind.tolerance? = other.tolerance?) :
    kind = other := by
  cases kind <;> cases other <;> simp_all [ComparisonKind.name, readings?, tolerance?]

theorem takes_iff {origin kind : ComparisonKind} {given : Option Tolerance} :
    origin.Takes given kind ↔ given.elim origin origin.withTolerance = kind := by
  have taken : origin.Takes given (given.elim origin origin.withTolerance) := by
    cases given <;> cases origin <;> exact ⟨rfl, rfl, rfl⟩
  constructor
  · intro takes
    exact ext_parts (taken.name.trans takes.name.symm) (taken.readings.trans takes.readings.symm)
      (taken.tolerance.trans takes.tolerance.symm)
  · rintro rfl
    exact taken

end ComparisonKind

/-! ## Changes one after the other -/

/-- A change of a schema. -/
inductive SchemaChange where
  /-- The kind of one statistic is set. -/
  | setKind (field : StatField) (kind : ComparisonKind)
  /-- The tolerance of all kinds that have one is set. -/
  | setTolerance (tolerance : Tolerance)

namespace SchemaChange

/-- Whether a change sets the kind of a statistic. -/
def SetsKindOf (field : StatField) : SchemaChange → Prop
  | .setKind changed _ => changed = field
  | .setTolerance _ => False

def tolerance? : SchemaChange → Option Tolerance
  | .setKind _ _ => none
  | .setTolerance tolerance => some tolerance

/-- The tolerance that is set last, if any is. -/
def lastTolerance? (changes : List SchemaChange) : Option Tolerance :=
  (changes.filterMap tolerance?).getLast?

end SchemaChange

namespace StatSchema

/-- The schema after a change. -/
def change (schema : StatSchema) : SchemaChange → StatSchema
  | .setKind field kind => schema.withKind field kind
  | .setTolerance tolerance => schema.withTolerance tolerance

/-- The schema after some changes, made in order. -/
def changed (schema : StatSchema) (changes : List SchemaChange) : StatSchema :=
  changes.foldl change schema

theorem changed_append_singleton (schema : StatSchema) (changes : List SchemaChange)
    (last : SchemaChange) :
    schema.changed (changes ++ [last]) = (schema.changed changes).change last :=
  List.foldl_append

/-- The kind that was set last for a statistic, or else its kind at the start, and the changes since
then. -/
inductive LastSet (schema : StatSchema) (field : StatField) :
    List SchemaChange → ComparisonKind → List SchemaChange → Prop where
  | start {changes : List SchemaChange} (since : ∀ change ∈ changes, ¬change.SetsKindOf field) :
    LastSet schema field changes ((schema.kinds.get? field).getD field.defaultKind) changes
  | set (before : List SchemaChange) (kind : ComparisonKind) {later : List SchemaChange}
    (since : ∀ change ∈ later, ¬change.SetsKindOf field) :
    LastSet schema field (before ++ .setKind field kind :: later) kind later

variable (schema : StatSchema) {field : StatField} {changes later : List SchemaChange}
  {origin : ComparisonKind}

/-- Some kind is the last one that was set, or the one at the start. -/
theorem exists_lastSet (field : StatField) (changes : List SchemaChange) :
    ∃ origin later, schema.LastSet field changes origin later := by
  induction changes using List.reverseRecOn with
  | nil => exact ⟨_, _, .start (List.forall_mem_nil _)⟩
  | append_singleton changes last ih =>
      by_cases sets : last.SetsKindOf field
      · cases last with
        | setTolerance => exact sets.elim
        | setKind other kind =>
            obtain rfl : other = field := sets
            exact ⟨kind, [], .set changes kind (List.forall_mem_nil _)⟩
      · have since {later : List SchemaChange} (kept : ∀ change ∈ later, ¬change.SetsKindOf field) :
            ∀ change ∈ later ++ [last], ¬change.SetsKindOf field :=
          List.forall_mem_append.mpr ⟨kept, List.forall_mem_singleton.mpr sets⟩
        obtain ⟨origin, later, known⟩ := ih
        cases known with
        | start kept => exact ⟨_, _, .start (since kept)⟩
        | set before _ kept =>
            refine ⟨origin, later ++ [last], ?_⟩
            rw [List.append_assoc]
            exact .set before origin (since kept)

/-- Changes that set no kind of a statistic give it the last tolerance among them. -/
theorem kindOf_changed_of_not_set (since : ∀ change ∈ changes, ¬change.SetsKindOf field) :
    (schema.changed changes).kindOf field =
      (SchemaChange.lastTolerance? changes).elim (schema.kindOf field)
        (schema.kindOf field).withTolerance := by
  induction changes using List.reverseRecOn with
  | nil => rfl
  | append_singleton changes last ih =>
      obtain ⟨kept, sets⟩ := List.forall_mem_append.mp since
      rw [changed_append_singleton, SchemaChange.lastTolerance?, List.filterMap_append]
      cases last with
      | setKind other kind =>
          have apart : ¬field = other := fun same => sets _ List.mem_cons_self same.symm
          rw [change, kindOf_withKind, if_neg apart, ih kept]
          simp [SchemaChange.tolerance?, SchemaChange.lastTolerance?]
      | setTolerance tolerance =>
          rw [change, kindOf_withTolerance, ih kept]
          cases SchemaChange.lastTolerance? changes <;>
            simp [SchemaChange.tolerance?, ComparisonKind.withTolerance_withTolerance]

theorem kindOf_changed_of_lastSet (last : schema.LastSet field changes origin later) :
    (schema.changed changes).kindOf field =
      (SchemaChange.lastTolerance? later).elim origin origin.withTolerance := by
  cases last with
  | start since => exact schema.kindOf_changed_of_not_set since
  | set before _ since =>
      have set : ((schema.changed before).withKind field origin).kindOf field = origin := by
        rw [kindOf_withKind, if_pos rfl]
      rw [changed, List.foldl_append, List.foldl_cons]
      rw [← changed, ← changed, change, kindOf_changed_of_not_set _ since, set]

/-- A statistic has the kind that was set for it last, or else its kind at the start, with the
tolerance that was set last since then. -/
theorem kindOf_changed_iff {kind : ComparisonKind} : (schema.changed changes).kindOf field = kind ↔
    ∃ origin later, schema.LastSet field changes origin later ∧
      origin.Takes (SchemaChange.lastTolerance? later) kind := by
  constructor
  · intro changed
    obtain ⟨origin, later, last⟩ := schema.exists_lastSet field changes
    refine ⟨origin, later, last, ComparisonKind.takes_iff.mpr ?_⟩
    rw [← schema.kindOf_changed_of_lastSet last, changed]
  · intro ⟨origin, later, last, takes⟩
    rw [schema.kindOf_changed_of_lastSet last, ComparisonKind.takes_iff.mp takes]

theorem zeroAsNull_changed : (schema.changed changes).zeroAsNull = schema.zeroAsNull := by
  induction changes using List.reverseRecOn with
  | nil => rfl
  | append_singleton changes last ih =>
      rw [changed_append_singleton, ← ih]
      cases last with
      | setKind => rfl
      | setTolerance tolerance => exact zeroAsNull_withTolerance _ tolerance

/-- What a schema is after some changes of another one. -/
structure Follows (schema : StatSchema) (changes : List SchemaChange) (result : StatSchema) :
    Prop where
  /-- A statistic has the kind that was set last, with the tolerance that was set last since. -/
  kinds (field : StatField) (kind : ComparisonKind) : result.kindOf field = kind ↔
    ∃ origin later, schema.LastSet field changes origin later ∧
      origin.Takes (SchemaChange.lastTolerance? later) kind
  zeroAsNull : result.zeroAsNull = schema.zeroAsNull
  /-- The statistics are listed in the order of reports. -/
  order : result.toList.map Prod.fst = StatField.all
  once (field : StatField) : (result.toList.map Prod.fst).count field = 1
  listed (field : StatField) (kind : ComparisonKind) :
    (field, kind) ∈ result.toList ↔ result.kindOf field = kind

/-- **Of any changes, a schema keeps the last kind of each statistic and the last tolerance since
then.** It still lists all statistics, each once. -/
theorem changed_follows (schema : StatSchema) (changes : List SchemaChange) :
    schema.Follows changes (schema.changed changes) where
  kinds _ _ := schema.kindOf_changed_iff
  zeroAsNull := schema.zeroAsNull_changed
  order := fields_toList _
  once field := by
    have distinct : StatField.all.Nodup := by decide
    rw [fields_toList, List.count_eq_one_of_mem distinct field.mem_all]
  listed _ _ := mem_toList_iff _

end StatSchema

end Reconciliation
