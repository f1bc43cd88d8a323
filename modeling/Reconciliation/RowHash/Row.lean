import Reconciliation.Failure
import Reconciliation.Query.Result
import Reconciliation.Query.RowHash

/-! # Hashed rows

A row as far as reconciliation knows it: the values of its keys and a digest of all its values.
Keys are ordered value by value, NULL first.
-/

namespace Reconciliation

-- Lists are ordered as in the core library, whatever else is imported beside this module.
attribute [local instance (high)] List.instLT List.instLE List.decidableLT List.decidableLE

/-- The values of the keys of a row. -/
structure RowKey where
  values : List (Option String)
  deriving DecidableEq, Repr

namespace RowKey

/-- The values as lists, where NULL is the empty list. -/
def rank (key : RowKey) : List (List String) :=
  key.values.map Option.toList

theorem rank_injective {a b : RowKey} (same : a.rank = b.rank) : a = b := by
  obtain ⟨as⟩ := a
  obtain ⟨bs⟩ := b
  simp only [rank] at same
  congr 1
  induction as generalizing bs with
  | nil => cases bs with
    | nil => rfl
    | cons => cases same
  | cons a as ih => cases bs with
    | nil => cases same
    | cons b bs =>
      obtain ⟨first, rest⟩ := List.cons.inj same
      rw [ih _ rest]
      congr 1
      cases a <;> cases b <;> simp_all

instance : LE RowKey := ⟨fun a b => a.rank ≤ b.rank⟩

instance : LT RowKey := ⟨fun a b => a.rank < b.rank⟩

instance : DecidableLE RowKey := fun a b => inferInstanceAs (Decidable (a.rank ≤ b.rank))

instance : DecidableLT RowKey := fun a b => inferInstanceAs (Decidable (a.rank < b.rank))

instance : Std.IsLinearOrder RowKey where
  le_refl a := Std.le_refl a.rank
  le_trans a b c := Std.le_trans (a := a.rank) (b := b.rank) (c := c.rank)
  le_antisymm _ _ below above := rank_injective (Std.le_antisymm below above)
  le_total a b := Std.le_total (a := a.rank) (b := b.rank)

instance : Std.LawfulOrderLT RowKey where
  lt_iff a b := Std.LawfulOrderLT.lt_iff a.rank b.rank

end RowKey

/-- A row with its keys and digest. -/
structure HashRow where
  key : RowKey
  hash : String
  deriving DecidableEq, Repr

namespace HashRow

/-- The values of some keys of a record, which may be NULL but not lack. -/
def keyValues (record : Record) : List String → Except ResultFault (List (Option String))
  | [] => .ok []
  | name :: names =>
    match record.get? name with
    | none => .error (.missingKey name)
    | some value => return value.map Scalar.display :: (← keyValues record names)

/-- The row of a record, given the names of its keys. Digests are compared in lower case. -/
def ofRecord (keyNames : List String) (record : Record) : Except ResultFault HashRow := do
  let values ← keyValues record keyNames
  match (record.get? hashName).join with
  | some hash => return ⟨⟨values⟩, Text.lower hash.display⟩
  | none => throw (.missingHash hashName)

/-- The rows of all records, unless one cannot be read. -/
def ofRecords (keyNames : List String) (records : List Record) :
    Except ResultFault (List HashRow) :=
  records.mapM (ofRecord keyNames)

end HashRow

end Reconciliation
