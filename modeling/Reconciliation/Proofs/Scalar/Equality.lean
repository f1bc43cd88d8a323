import Reconciliation.Proofs.Number.ExactValue
import Reconciliation.Proofs.Statistic.Exchange
import Reconciliation.Proofs.Statistic.SelfComparison

/-! # Exact equality

Exact equality is reflexive and symmetric, and a text never equals a number. Two numbers are equal
if they are one rational, or if one is an integer and the other the binary64 number that it rounds
to (`Scalar.exactlyEqual_iff`): integers are compared with each other as they are, with other
numbers after rounding. So different integers may both equal one number, and this is all that
equality lacks to be transitive (`ComparisonKind.exact_laws`).
-/

namespace Reconciliation

-- Powers stay those of the core library, whatever else is imported beside this module.
attribute [local instance (high)] instPowNat

namespace Scalar

/-! ## Values of numbers -/

/-- The rational that a number is. -/
def value? : Scalar → Option ℚ
  | .integer value => some value.toInt
  | .float value => value.value?
  | .text _ => none

/-- The rational that a number is after it is rounded to binary64. -/
def nearest? : Scalar → Option ℚ
  | .integer value => (Binary64.ofInt value.toInt).value?
  | .float value => value.value?
  | .text _ => none

/-- Two scalars are one rational in a view of them as numbers. -/
def Agree (view? : Scalar → Option ℚ) (left right : Scalar) : Prop :=
  ∃ q, view? left = some q ∧ view? right = some q

/-- Two scalars are one number. -/
def SameNumber : Scalar → Scalar → Prop :=
  Agree value?

/-- Two scalars are numbers that round to one number. -/
def SameNearest : Scalar → Scalar → Prop :=
  Agree nearest?

/-- Two scalars are one text. -/
def SameText : Scalar → Scalar → Prop
  | .text a, .text b => a = b
  | _, _ => False

/-- Two scalars are integers, and not the same one. -/
def DistinctIntegers : Scalar → Scalar → Prop
  | .integer i, .integer j => i ≠ j
  | _, _ => False

/-- An integer that is no binary64 number, and the binary64 number that it rounds to. -/
def RoundsTo : Scalar → Scalar → Prop
  | .integer i, .float f => SameNearest (.integer i) (.float f) ∧ f.value? ≠ some i.toInt
  | _, _ => False

variable {left middle right : Scalar} {view? : Scalar → Option ℚ} {i j : Int64} {f : Binary64}

namespace Agree

theorem symm (agree : Agree view? left right) : Agree view? right left := by
  obtain ⟨q, leftHeld, rightHeld⟩ := agree
  exact ⟨q, rightHeld, leftHeld⟩

theorem comm : Agree view? left right ↔ Agree view? right left :=
  ⟨symm, symm⟩

theorem trans (first : Agree view? left middle) (second : Agree view? middle right) :
    Agree view? left right := by
  obtain ⟨q, leftHeld, middleHeld⟩ := first
  obtain ⟨r, middleHeld', rightHeld⟩ := second
  obtain rfl := Option.some.inj (middleHeld.symm.trans middleHeld')
  exact ⟨q, leftHeld, rightHeld⟩

theorem not_of_left (none : view? left = none) : ¬Agree view? left right := by
  rintro ⟨q, held, -⟩
  rw [none] at held
  cases held

theorem not_of_right (none : view? right = none) : ¬Agree view? left right :=
  fun agree => not_of_left none agree.symm

end Agree

theorem isFinite_ofInt (i : Int64) : (Binary64.ofInt i.toInt).isFinite = true := by
  have plain : (integer i).IsPlain := trivial
  exact plain.isFinite rfl

theorem sameNumber_integers : (integer i).SameNumber (.integer j) ↔ i = j := by
  constructor
  · rintro ⟨q, held, otherHeld⟩
    have same := Option.some.inj (held.trans otherHeld.symm)
    exact Int64.toInt_inj.mp (Int.cast_injective same)
  · rintro rfl
    exact ⟨_, rfl, rfl⟩

theorem sameNearest_self (i : Int64) : (integer i).SameNearest (.integer i) := by
  obtain ⟨q, held⟩ := Binary64.exists_value? (isFinite_ofInt i)
  exact ⟨q, held, held⟩

theorem sameNearest_floats {a b : Binary64} :
    (float a).SameNearest (.float b) ↔ (float a).SameNumber (.float b) := by
  constructor
  · rintro ⟨q, held⟩
    exact ⟨q, held⟩
  · rintro ⟨q, held⟩
    exact ⟨q, held⟩

/-- A binary64 number is the nearest one to the integer that it is, and to those that round to
it. -/
theorem sameNearest_iff : (integer i).SameNearest (.float f) ↔
    (integer i).SameNumber (.float f) ∨ (integer i).RoundsTo (.float f) := by
  constructor
  · intro same
    by_cases held : f.value? = some i.toInt
    · exact .inl ⟨i.toInt, rfl, held⟩
    · exact .inr ⟨same, held⟩
  · rintro (⟨q, same, held⟩ | rounds)
    · obtain rfl := Option.some.inj same
      change f.value? = some (i.toInt : ℚ) at held
      have nearest := Binary64.value?_ofInt held
      exact ⟨_, nearest, held⟩
    · exact rounds.1

/-- Integers of up to 53 bits are not rounded. -/
theorem not_roundsTo_of_short (short : i.toInt.natAbs < 2 ^ Binary64.precision) :
    ¬(integer i).RoundsTo right := by
  intro rounds
  cases right with
  | integer j => exact rounds
  | text value => exact rounds
  | float f =>
      obtain ⟨⟨q, nearest, held⟩, other⟩ := rounds
      have exact := Binary64.value?_ofInt_of_short short
      exact other (held.trans (nearest.symm.trans exact))

/-! ## Equal scalars -/

/-- Numbers are exactly equal if they round to one number, but two integers only if they are one. -/
theorem exactlyEqual_iff_sameNearest (leftPlain : left.IsPlain) (rightPlain : right.IsPlain) :
    left.exactlyEqual right = true ↔
      left.SameText right ∨ left.SameNearest right ∧ ¬left.DistinctIntegers right := by
  have rounded {a b : Binary64} (aFinite : a.isFinite = true) (bFinite : b.isFinite = true) :
      a.eq b = true ↔ False ∨ (∃ q, a.value? = some q ∧ b.value? = some q) ∧ ¬False := by
    rw [Binary64.eq_iff_value? aFinite bFinite, false_or, not_false_iff, and_true]
  have apart {same : Prop} (differ : ¬same) : false = true ↔ False ∨ same ∧ ¬False := by
    rw [false_or, not_false_iff, and_true, Bool.false_eq_true, false_iff]
    exact differ
  cases left with
  | integer a =>
      cases right with
      | integer b =>
          change (a == b) = true ↔ False ∨ _ ∧ ¬a ≠ b
          rw [beq_iff_eq, false_or, not_not]
          refine ⟨?_, And.right⟩
          rintro rfl
          exact ⟨sameNearest_self a, rfl⟩
      | float b => exact rounded (isFinite_ofInt a) rightPlain
      | text b => exact apart (Agree.not_of_right rfl)
  | float a =>
      cases right with
      | integer b => exact rounded leftPlain (isFinite_ofInt b)
      | float b => exact rounded leftPlain rightPlain
      | text b => exact apart (Agree.not_of_right rfl)
  | text a =>
      cases right with
      | integer b => exact apart (Agree.not_of_left rfl)
      | float b => exact apart (Agree.not_of_left rfl)
      | text b =>
          change (a == b) = true ↔ a = b ∨ _ ∧ ¬False
          rw [beq_iff_eq, or_iff_left fun same => Agree.not_of_left rfl same.1]

/-- **Scalars are exactly equal if they have the same value, or if one is the number that the other
rounds to.** -/
theorem exactlyEqual_iff (leftPlain : left.IsPlain) (rightPlain : right.IsPlain) :
    left.exactlyEqual right = true ↔ left.SameText right ∨ left.SameNumber right ∨
      left.RoundsTo right ∨ right.RoundsTo left := by
  rw [exactlyEqual_iff_sameNearest leftPlain rightPlain]
  apply or_congr_right
  have apart {nearest same : Prop} (notNearest : ¬nearest) (notSame : ¬same) :
      nearest ∧ ¬False ↔ same ∨ False ∨ False := by
    simp only [notNearest, notSame, false_and, or_self]
  cases left with
  | integer a =>
      cases right with
      | integer b =>
          change _ ∧ ¬a ≠ b ↔ _ ∨ False ∨ False
          rw [or_false, or_false, not_not, sameNumber_integers]
          refine ⟨And.right, ?_⟩
          rintro rfl
          exact ⟨sameNearest_self a, rfl⟩
      | float b =>
          change _ ∧ ¬False ↔ _ ∨ _ ∨ False
          rw [not_false_iff, and_true, or_false, sameNearest_iff]
      | text b => exact apart (Agree.not_of_right rfl) (Agree.not_of_right rfl)
  | float a =>
      cases right with
      | integer b =>
          change _ ∧ ¬False ↔ _ ∨ False ∨ _
          have nearest : (float a).SameNearest (.integer b) ↔ (integer b).SameNearest (.float a) :=
            Agree.comm
          have number : (float a).SameNumber (.integer b) ↔ (integer b).SameNumber (.float a) :=
            Agree.comm
          rw [not_false_iff, and_true, false_or, nearest, number, sameNearest_iff]
      | float b =>
          change _ ∧ ¬False ↔ _ ∨ False ∨ False
          rw [not_false_iff, and_true, or_false, or_false, sameNearest_floats]
      | text b => exact apart (Agree.not_of_right rfl) (Agree.not_of_right rfl)
  | text a =>
      cases right with
      | integer b => exact apart (Agree.not_of_left rfl) (Agree.not_of_left rfl)
      | float b => exact apart (Agree.not_of_left rfl) (Agree.not_of_left rfl)
      | text b => exact apart (Agree.not_of_left rfl) (Agree.not_of_left rfl)

theorem SameText.exists_text (same : left.SameText right) :
    ∃ value, left = .text value ∧ right = .text value := by
  cases left with
  | integer a => cases same
  | float a => cases same
  | text a =>
      cases right with
      | integer b => cases same
      | float b => cases same
      | text b => exact ⟨a, rfl, congrArg text same.symm⟩

/-- **Two scalars that equal a third one are equal, unless they are different integers.** -/
theorem exactlyEqual_trans_iff (leftPlain : left.IsPlain) (middlePlain : middle.IsPlain)
    (rightPlain : right.IsPlain) (first : left.exactlyEqual middle = true)
    (second : middle.exactlyEqual right = true) :
    left.exactlyEqual right = true ↔ ¬left.DistinctIntegers right := by
  rcases (exactlyEqual_iff_sameNearest leftPlain middlePlain).mp first with same | ⟨near, -⟩
  · obtain ⟨value, rfl, rfl⟩ := same.exists_text
    exact iff_of_true second not_false
  rcases (exactlyEqual_iff_sameNearest middlePlain rightPlain).mp second with same | ⟨further, -⟩
  · obtain ⟨value, rfl, rfl⟩ := same.exists_text
    exact absurd near (Agree.not_of_right rfl)
  have nearest : left.SameNearest right := near.trans further
  rw [exactlyEqual_iff_sameNearest leftPlain rightPlain, and_iff_right nearest, or_iff_right]
  intro same
  obtain ⟨value, rfl, rfl⟩ := same.exists_text
  exact Agree.not_of_left rfl nearest

theorem isNumber_eq_of_exactlyEqual (same : left.exactlyEqual right = true) :
    left.isNumber = right.isNumber := by
  cases left <;> cases right <;> first | rfl | cases same

/-- The laws of exact equality, for three scalars. -/
structure EqualityLaws (left middle right : Scalar) : Prop where
  refl : left.exactlyEqual left = true
  symm : left.exactlyEqual right = right.exactlyEqual left
  /-- A text never equals a number. -/
  apart : left.exactlyEqual right = true → left.isNumber = right.isNumber
  /-- Equality is that of values, but for an integer and the number that it rounds to. -/
  value : left.exactlyEqual right = true ↔ left.SameText right ∨ left.SameNumber right ∨
    left.RoundsTo right ∨ right.RoundsTo left
  /-- Integers of up to 53 bits are not rounded. -/
  short : (∀ i, left = .integer i → i.toInt.natAbs < 2 ^ Binary64.precision) →
    ¬left.RoundsTo right
  /-- Scalars that equal a third one are equal, unless they are different integers. -/
  trans : left.exactlyEqual middle = true → middle.exactlyEqual right = true →
    (left.exactlyEqual right = true ↔ ¬left.DistinctIntegers right)

theorem equalityLaws (leftPlain : left.IsPlain) (middlePlain : middle.IsPlain)
    (rightPlain : right.IsPlain) : EqualityLaws left middle right where
  refl := exactlyEqual_self leftPlain
  symm := exactlyEqual_comm left right
  apart := isNumber_eq_of_exactlyEqual
  value := exactlyEqual_iff leftPlain rightPlain
  short := by
    intro short rounds
    cases left with
    | integer i => exact not_roundsTo_of_short (short i rfl) rounds
    | float f => exact rounds
    | text value => exact rounds
  trans := exactlyEqual_trans_iff leftPlain middlePlain rightPlain

end Scalar

namespace ComparisonKind

open Scalar

/-- A value that is NULL equals NULL and nothing else. -/
theorem relateOptional_trans_iff {first second third : Option Scalar}
    (firstPlain : ∀ scalar ∈ first, scalar.IsPlain)
    (secondPlain : ∀ scalar ∈ second, scalar.IsPlain)
    (thirdPlain : ∀ scalar ∈ third, scalar.IsPlain)
    (firstSecond : relateOptional exactlyEqual first second = true)
    (secondThird : relateOptional exactlyEqual second third = true) :
    relateOptional exactlyEqual first third = true ↔
      ¬∃ left ∈ first, ∃ right ∈ third, left.DistinctIntegers right := by
  cases second with
  | none =>
      cases first with
      | some left => cases firstSecond
      | none =>
          cases third with
          | some right => cases secondThird
          | none =>
              refine iff_of_true rfl ?_
              rintro ⟨left, shown, -⟩
              cases shown
  | some middle =>
      cases first with
      | none => cases firstSecond
      | some left =>
          cases third with
          | none => cases secondThird
          | some right =>
              refine (exactlyEqual_trans_iff (firstPlain left rfl) (secondPlain middle rfl)
                (thirdPlain right rfl) firstSecond secondThird).trans (not_congr ?_)
              simp only [Option.mem_some_iff, exists_eq_left']

variable {first second third : StatValue}

/-- **Exact equality, of scalars and of statistics, is an equivalence but for integers that are
rounded.** Two statistics that equal a third one equal each other unless they are different
integers. -/
theorem exact_laws (firstPlain : ∀ scalar ∈ first.scalar?, scalar.IsPlain)
    (secondPlain : ∀ scalar ∈ second.scalar?, scalar.IsPlain)
    (thirdPlain : ∀ scalar ∈ third.scalar?, scalar.IsPlain) :
    (∀ left ∈ first.scalar?, ∀ middle ∈ second.scalar?, ∀ right ∈ third.scalar?,
      EqualityLaws left middle right) ∧
    (exact.accepts first second = true → exact.accepts second third = true →
      (exact.accepts first third = true ↔
        ¬∃ left ∈ first.scalar?, ∃ right ∈ third.scalar?, left.DistinctIntegers right)) := by
  refine ⟨?_, relateOptional_trans_iff firstPlain secondPlain thirdPlain⟩
  intro left leftShown middle middleShown right rightShown
  exact equalityLaws (firstPlain left leftShown) (secondPlain middle middleShown)
    (thirdPlain right rightShown)

/-- The first integer that is rounded equals the number that it is rounded to, as does the integer
before it. -/
theorem exact_laws_firstRounded :
    EqualityLaws (.integer 9007199254740993) (.float (.ofNat (2 ^ 53)))
      (.integer 9007199254740992) ∧
    exact.accepts (.scalar (some (.integer 9007199254740993)))
      (.scalar (some (.float (.ofNat (2 ^ 53))))) = true ∧
    exact.accepts (.scalar (some (.float (.ofNat (2 ^ 53)))))
      (.scalar (some (.integer 9007199254740992))) = true ∧
    exact.accepts (.scalar (some (.integer 9007199254740993)))
      (.scalar (some (.integer 9007199254740992))) = false := by
  have rounded : exact.accepts (.scalar (some (.integer 9007199254740993)))
      (.scalar (some (.float (.ofNat (2 ^ 53))))) = true := by
    decide +kernel
  have exactly : exact.accepts (.scalar (some (.float (.ofNat (2 ^ 53)))))
      (.scalar (some (.integer 9007199254740992))) = true := by
    decide +kernel
  have plain (i : Int64) : ∀ scalar ∈ (StatValue.scalar (some (.integer i))).scalar?,
      scalar.IsPlain := by
    rintro scalar ⟨⟩
    trivial
  have finite : ∀ scalar ∈ (StatValue.scalar (some (.float (.ofNat (2 ^ 53))))).scalar?,
      scalar.IsPlain := by
    rintro scalar ⟨⟩
    exact Binary64.isFinite_ofRatio (by decide) false
  obtain ⟨laws, trans⟩ := exact_laws (plain 9007199254740993) finite (plain 9007199254740992)
  refine ⟨laws _ rfl _ rfl _ rfl, rounded, exactly, ?_⟩
  rw [Bool.eq_false_iff, ne_eq, trans rounded exactly, not_not]
  have distinct : (9007199254740993 : Int64) ≠ 9007199254740992 := by decide
  exact ⟨_, rfl, _, rfl, distinct⟩

end ComparisonKind

/-- Two different integers that both equal the number that one of them rounds to. -/
theorem Scalar.exactlyEqual_not_trans :
    (integer 9007199254740993).exactlyEqual (.float (.ofNat (2 ^ 53))) = true ∧
    (float (.ofNat (2 ^ 53))).exactlyEqual (.integer 9007199254740992) = true ∧
    (integer 9007199254740993).exactlyEqual (.integer 9007199254740992) = false := by
  decide +kernel

end Reconciliation
