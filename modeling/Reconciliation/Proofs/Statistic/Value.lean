import Reconciliation.Proofs.Handoff.Statistic
import Reconciliation.Proofs.Number.Order

/-! # Numbers in statistics

A value of a statistic is met as a scalar or as a frequency list, whichever it is. If the numbers of
a row are finite and its counts have 64 bits, so are those of either view (`StatRow.IsPlain.get`);
texts that are read as numbers or as lists hold no others.
-/

namespace Reconciliation

theorem Scalar.isPlain_text (value : String) : (text value).IsPlain :=
  trivial

theorem Scalar.IsPlain.isFinite {scalar : Scalar} (plain : scalar.IsPlain) {number : Binary64}
    (view : scalar.number? = some number) : number.isFinite = true := by
  cases scalar with
  | integer value =>
      obtain rfl := Option.some.inj view
      have low := value.le_toInt
      have high := value.toInt_lt
      exact Binary64.isFinite_ofRatio (by omega) _
  | float value =>
      cases view
      exact plain
  | text value => exact (Option.filter_eq_some_iff.mp view).2

/-- No text and no integer is read as infinite. -/
theorem Scalar.exists_float_of_isInfinite {scalar : Scalar} {number : Binary64}
    (view : scalar.number? = some number) (infinite : number.isInfinite = true) :
    ∃ negative, scalar = .float (.infinite negative) := by
  obtain ⟨negative, rfl⟩ := Binary64.isInfinite_iff.mp infinite
  cases scalar with
  | integer value =>
      have plain : (integer value).IsPlain := trivial
      cases plain.isFinite view
  | float value => exact ⟨negative, congrArg Scalar.float (Option.some.inj view)⟩
  | text value => cases (Scalar.isPlain_text value).isFinite view

namespace FrequencyEntry

theorem IsPlain.isFinite {entry : FrequencyEntry} (plain : entry.IsPlain) {count : Nat}
    (counted : entry.count = some count) : (Binary64.ofNat count).isFinite = true :=
  Binary64.isFinite_ofRatio (plain count counted) false

theorem isPlain_ofItem (item : List Char) : (ofItem item).IsPlain := by
  unfold ofItem
  split
  · intro count counted
    exact of_decide_eq_true (Option.filter_eq_some_iff.mp counted).2
  · nofun

theorem isPlain_of_mem_ofText {text : String} {entry : FrequencyEntry}
    (member : entry ∈ ofText text) : entry.IsPlain := by
  unfold ofText at member
  split at member
  · cases member
  · obtain ⟨item, -, rfl⟩ := List.mem_map.mp member
    exact isPlain_ofItem item

theorem isPlain_of_mem_getD {listed : Option (List FrequencyEntry)}
    (plain : ∀ entries ∈ listed, ∀ entry ∈ entries, entry.IsPlain) {entry : FrequencyEntry}
    (member : entry ∈ listed.getD []) : entry.IsPlain := by
  cases listed with
  | none => cases member
  | some entries => exact plain entries rfl entry member

end FrequencyEntry

/-- The numbers that a value shows as a scalar or as a list are finite, its counts of 64 bits. -/
structure StatValue.IsPlain (value : StatValue) : Prop where
  scalar : ∀ scalar ∈ value.scalar?, scalar.IsPlain
  frequency : ∀ entries ∈ value.frequency?, ∀ entry ∈ entries, entry.IsPlain

namespace StatRow

variable {row : StatRow}

/-- The frequencies of a row have counts of 64 bits, if any. -/
def HasPlainFrequencies (row : StatRow) : Prop :=
  ∀ entries ∈ row.frequency, ∀ entry ∈ entries, entry.IsPlain

theorem HasPlainFrequencies.get (plain : row.HasPlainFrequencies) (field : StatField) :
    ∀ entries ∈ (row.get field).frequency?, ∀ entry ∈ entries, entry.IsPlain := by
  intro entries listed entry member
  cases held : row.get field with
  | scalar value =>
      rw [held] at listed
      obtain ⟨_, -, rfl⟩ := Option.map_eq_some_iff.mp listed
      exact FrequencyEntry.isPlain_of_mem_ofText member
  | frequency frequencies =>
      rw [held] at listed
      obtain rfl : row.frequency = frequencies := by
        cases field <;> cases held
        rfl
      exact plain entries listed entry member

theorem IsPlain.get (plain : row.IsPlain) (field : StatField) : (row.get field).IsPlain := by
  refine ⟨?_, HasPlainFrequencies.get plain.frequency field⟩
  cases held : row.get field with
  | scalar value =>
      rintro scalar rfl
      exact plain.scalars field scalar held
  | frequency frequencies =>
      intro scalar shown
      obtain ⟨_, -, rfl⟩ := Option.map_eq_some_iff.mp shown
      trivial

end StatRow

end Reconciliation
