import Reconciliation.Statistic.ComparisonKind

/-! # What a flexible comparison reads

A flexible comparison first settles on a reading that both values have, as days, as numbers or as
text, and then compares under that reading (`ComparisonKind.flexiblyEqual_eq_agrees`). The tolerance
has no say in the first step, and the sides are exchanged with the values
(`ComparisonKind.commonReading_swap`).
-/

namespace Reconciliation

/-- What two values are compared as. -/
inductive CommonReading where
  | days (left right : Date)
  | numbers (left right : Binary64)
  | texts (left right : String)

namespace CommonReading

/-- Whether the values are equal as they are read. -/
def agrees (tolerance : Tolerance) : CommonReading → Bool
  | .days left right => left = right
  | .numbers left right => tolerance.accepts left right
  | .texts left right => left == right

/-- The reading of the values exchanged. -/
def swap : CommonReading → CommonReading
  | .days left right => .days right left
  | .numbers left right => .numbers right left
  | .texts left right => .texts right left

/-- A reading of two values is one of each of them. -/
def Reads (left right : Scalar) : CommonReading → Prop
  | .days a b => Date.recognise? left.display = some a ∧ Date.recognise? right.display = some b
  | .numbers a b => left.number? = some a ∧ right.number? = some b
  | .texts a b => left.display = a ∧ right.display = b

end CommonReading

namespace ComparisonKind

/-- What a reader makes of two values, if it is wanted and reads both. -/
def readBoth? {α : Type} (wanted : Bool) (read? : Scalar → Option α) (left right : Scalar) :
    Option (α × α) :=
  if wanted then (read? left).bind fun a => (read? right).map (a, ·) else none

theorem readBoth?_eq_some_iff {α : Type} {wanted : Bool} {read? : Scalar → Option α}
    {left right : Scalar} {a b : α} : readBoth? wanted read? left right = some (a, b) ↔
      wanted = true ∧ read? left = some a ∧ read? right = some b := by
  cases wanted <;> simp [readBoth?, Option.bind_eq_some_iff, Option.map_eq_some_iff]

theorem readBoth?_eq_none {α : Type} {read? : Scalar → Option α} {left right : Scalar}
    (wanted : Bool) (unread : read? left = none ∨ read? right = none) :
    readBoth? wanted read? left right = none := by
  rw [Option.eq_none_iff_forall_ne_some]
  rintro ⟨a, b⟩ read
  obtain ⟨-, leftRead, rightRead⟩ := readBoth?_eq_some_iff.mp read
  rcases unread with none | none
  · cases none.symm.trans leftRead
  · cases none.symm.trans rightRead

theorem readBoth?_swap {α : Type} (wanted : Bool) (read? : Scalar → Option α)
    (left right : Scalar) :
    readBoth? wanted read? right left = (readBoth? wanted read? left right).map Prod.swap := by
  unfold readBoth?
  cases wanted with
  | false => rfl
  | true => cases read? left <;> cases read? right <;> rfl

/-- The reading on which a flexible comparison settles: days come before numbers, and text is left
where either value lacks the readings that are wanted. -/
def commonReading (tryDate tryNumeric : Bool) (left right : Scalar) : CommonReading :=
  match readBoth? tryDate (Date.recognise? ·.display) left right,
    readBoth? tryNumeric Scalar.number? left right with
  | some (a, b), _ => .days a b
  | none, some (a, b) => .numbers a b
  | none, none => .texts left.display right.display

variable (tryDate tryNumeric : Bool) (tolerance : Tolerance) (left right : Scalar)

theorem flexiblyEqual_eq_agrees : flexiblyEqual tryDate tryNumeric tolerance left right =
    (commonReading tryDate tryNumeric left right).agrees tolerance := by
  change (match readBoth? tryDate (Date.recognise? ·.display) left right,
      readBoth? tryNumeric Scalar.number? left right with
    | some (a, b), _ => decide (a = b)
    | none, some (a, b) => tolerance.accepts a b
    | none, none => left.display == right.display) = _
  unfold commonReading
  cases readBoth? tryDate (Date.recognise? ·.display) left right with
  | some days => rfl
  | none =>
      cases readBoth? tryNumeric Scalar.number? left right with
      | some numbers => rfl
      | none => rfl

theorem commonReading_reads : (commonReading tryDate tryNumeric left right).Reads left right := by
  unfold commonReading
  split
  · next days => exact (readBoth?_eq_some_iff.mp days).2
  · next numbers => exact (readBoth?_eq_some_iff.mp numbers).2
  · exact ⟨rfl, rfl⟩

/-- Values are compared as numbers where this is wanted, both are numbers and no days are read. -/
theorem commonReading_eq_numbers_iff {a b : Binary64} :
    commonReading tryDate tryNumeric left right = .numbers a b ↔
      readBoth? tryDate (Date.recognise? ·.display) left right = none ∧
        tryNumeric = true ∧ left.number? = some a ∧ right.number? = some b := by
  rw [← readBoth?_eq_some_iff]
  unfold commonReading
  cases readBoth? tryDate (Date.recognise? ·.display) left right with
  | some days => exact iff_of_false nofun fun held => nomatch held.1
  | none =>
      cases readBoth? tryNumeric Scalar.number? left right with
      | some numbers => simp [Prod.ext_iff]
      | none => exact iff_of_false nofun fun held => nomatch held.2

theorem commonReading_swap : commonReading tryDate tryNumeric right left =
    (commonReading tryDate tryNumeric left right).swap := by
  unfold commonReading
  rw [readBoth?_swap tryDate _ left, readBoth?_swap tryNumeric _ left]
  cases readBoth? tryDate (Date.recognise? ·.display) left right with
  | some days => rfl
  | none =>
      cases readBoth? tryNumeric Scalar.number? left right with
      | some numbers => rfl
      | none => rfl

end ComparisonKind

end Reconciliation
