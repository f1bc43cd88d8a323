import Reconciliation.Proofs.Query.Reading
import Reconciliation.RowHash.Row

/-! # Rows of records

A record has a row if it has all keys, NULL or not, and a digest that is not NULL
(`HashRow.exists_ofRecord_eq_error_iff`); the row then holds the texts of the keys in order and the
digest in lower case (`HashRow.ofRecord_eq_ok_iff`). The records of a result have rows only all
together (`HashRow.ofRecords_eq_ok_iff`, `HashRow.exists_ofRecords_eq_error_iff`).
-/

namespace Reconciliation

namespace HashRow

variable {keyNames : List String} {record : Record} {records : List Record} {row : HashRow}
  {rows : List HashRow}

/-- A row is what a record says of some keys. -/
structure Of (keyNames : List String) (record : Record) (row : HashRow) : Prop where
  key : List.Forall₂ (fun name value => ∃ held, record.get? name = some held ∧
    value = held.map Scalar.display) keyNames row.key.values
  hash : ∃ digest, record.get? hashName = some (some digest) ∧
    row.hash = Text.lower digest.display

/-- A record has all keys, and a digest that is not NULL. -/
def HasRow (keyNames : List String) (record : Record) : Prop :=
  (∀ name ∈ keyNames, (record.get? name).isSome) ∧
    ∃ digest, record.get? hashName = some (some digest)

/-- The value of one key. -/
def keyValue (record : Record) (name : String) : Except ResultFault (Option String) :=
  match record.get? name with
  | none => .error (.missingKey name)
  | some held => .ok (held.map Scalar.display)

theorem keyValues_eq_mapM : keyValues record keyNames = keyNames.mapM (keyValue record) := by
  induction keyNames with
  | nil => rfl
  | cons name names ih =>
      rw [keyValues, List.mapM_cons, ih, keyValue]
      cases record.get? name <;> rfl

theorem keyValues_eq_ok_iff {values : List (Option String)} :
    keyValues record keyNames = .ok values ↔
      List.Forall₂ (fun name value => ∃ held, record.get? name = some held ∧
        value = held.map Scalar.display) keyNames values := by
  have each (name : String) (value : Option String) : keyValue record name = .ok value ↔
      ∃ held, record.get? name = some held ∧ value = held.map Scalar.display := by
    rw [keyValue]
    cases record.get? name <;> simp [eq_comm]
  rw [keyValues_eq_mapM, mapM_eq_ok_iff]
  simp only [each]

theorem exists_keyValues_eq_error_iff : (∃ fault, keyValues record keyNames = .error fault) ↔
    ∃ name ∈ keyNames, record.get? name = none := by
  have each (name : String) : (∃ fault, keyValue record name = .error fault) ↔
      record.get? name = none := by
    rw [keyValue]
    cases record.get? name <;> simp
  rw [keyValues_eq_mapM, exists_mapM_eq_error_iff]
  simp only [each]

/-- Reading a record gives the row that it has. -/
theorem ofRecord_eq_ok_iff : ofRecord keyNames record = .ok row ↔ Of keyNames record row := by
  obtain ⟨⟨values⟩, hash⟩ := row
  have key : Of keyNames record ⟨⟨values⟩, hash⟩ ↔ keyValues record keyNames = .ok values ∧
      ∃ digest, record.get? hashName = some (some digest) ∧ hash = Text.lower digest.display := by
    rw [keyValues_eq_ok_iff]
    exact ⟨fun of => ⟨of.key, of.hash⟩, fun both => ⟨both.1, both.2⟩⟩
  rw [key, ofRecord]
  cases keyValues record keyNames with
  | error fault => simp [bind, Except.bind]
  | ok held =>
      rcases record.get? hashName with _ | _ | digest
      · simp [bind, Except.bind, throw, throwThe, MonadExceptOf.throw]
      · simp [bind, Except.bind, throw, throwThe, MonadExceptOf.throw]
      · simp [bind, Except.bind, pure, Except.pure, eq_comm]

/-- Only a record without a row cannot be read. -/
theorem exists_ofRecord_eq_error_iff : (∃ fault, ofRecord keyNames record = .error fault) ↔
    ¬HasRow keyNames record := by
  have keys : (∃ fault, keyValues record keyNames = .error fault) ↔
      ¬∀ name ∈ keyNames, (record.get? name).isSome := by
    rw [exists_keyValues_eq_error_iff]
    simp
  rw [HasRow, not_and_or, ← keys, ofRecord]
  cases keyValues record keyNames with
  | error fault => simp [bind, Except.bind]
  | ok held =>
      rcases record.get? hashName with _ | _ | digest
      · simp [bind, Except.bind, throw, throwThe, MonadExceptOf.throw]
      · simp [bind, Except.bind, throw, throwThe, MonadExceptOf.throw]
      · simp [bind, Except.bind, pure, Except.pure]

/-- The rows of some records are those of each of them, in order. -/
theorem ofRecords_eq_ok_iff : ofRecords keyNames records = .ok rows ↔
    List.Forall₂ (Of keyNames) records rows := by
  rw [ofRecords, mapM_eq_ok_iff]
  simp only [ofRecord_eq_ok_iff]

/-- One record without a row leaves all of them without rows. -/
theorem exists_ofRecords_eq_error_iff : (∃ fault, ofRecords keyNames records = .error fault) ↔
    ∃ record ∈ records, ¬HasRow keyNames record := by
  rw [ofRecords, exists_mapM_eq_error_iff]
  simp only [exists_ofRecord_eq_error_iff]

end HashRow

end Reconciliation
