import Reconciliation.Proofs.Number.Order
import Reconciliation.Statistic.ComparisonKind

/-! # Tolerances

A tolerance whose parts are not negative accepts every finite number against itself, zero under an
infinite relative part apart (`Tolerance.IsNonnegative.accepts_self_iff`). A proper one, whose parts
are finite, has no exception, and a wider one accepts whatever it accepts
(`Tolerance.IsProper.accepts_of_accepts`). A tolerance that does not grow with the numbers treats
both alike, except where it is infinite and one of them is
(`Tolerance.IsConstant.accepts_comm_iff`): nothing times infinity is no number.
-/

namespace Reconciliation

-- Powers stay those of the core library, whatever else is imported beside this module.
attribute [local instance (high)] instPowNat

namespace Tolerance

variable {tolerance wide : Tolerance} {a b : Binary64}

/-- The parts of a tolerance are finite and not negative. -/
structure IsProper (tolerance : Tolerance) : Prop where
  finiteAbsolute : tolerance.absolute.isFinite = true
  finiteRelative : tolerance.relative.isFinite = true
  zeroLeAbsolute : Binary64.zero.le tolerance.absolute = true
  zeroLeRelative : Binary64.zero.le tolerance.relative = true

theorem standard_isProper : standard.IsProper := by
  constructor <;> decide +kernel

/-! ## A number within its own tolerance -/

/-- The parts of a tolerance are not negative. They may be infinite. -/
structure IsNonnegative (tolerance : Tolerance) : Prop where
  absolute : Binary64.zero.le tolerance.absolute = true
  relative : Binary64.zero.le tolerance.relative = true

theorem IsProper.isNonnegative (proper : tolerance.IsProper) : tolerance.IsNonnegative :=
  ⟨proper.zeroLeAbsolute, proper.zeroLeRelative⟩

/-- A finite number is within every tolerance of itself, unless it is zero and the tolerance grows
without bound: nothing times infinity is no number. -/
theorem IsNonnegative.accepts_self_iff (nonnegative : tolerance.IsNonnegative)
    (finite : a.isFinite = true) :
    tolerance.accepts a a = true ↔
      (tolerance.relative = .infinite false → a.eq .zero = false) := by
  unfold accepts
  rw [Binary64.abs_sub_self finite]
  cases bounded : tolerance.relative.isFinite with
  | true =>
      obtain ⟨_, magnitude⟩ := Binary64.magnitude_abs finite
      obtain ⟨_, relative⟩ := Binary64.exists_magnitude nonnegative.relative bounded
      have bound := Binary64.zero_le_mul relative magnitude
      refine iff_of_true (Binary64.zero_le_add_of_zero_le nonnegative.absolute bound) ?_
      intro unbounded
      rw [unbounded] at bounded
      cases bounded
  | false =>
      rw [Binary64.eq_infinite_of_zero_le nonnegative.relative bounded]
      cases a with
      | nan => cases finite
      | infinite => cases finite
      | finite s units representable =>
          have isZero : (Binary64.finite s units representable).eq .zero = decide (units = 0) := by
            rw [Bool.eq_iff_iff, Binary64.eq_zero_iff_place, Binary64.place?, Option.some_inj,
              Binary64.signedUnits_eq_zero_iff, decide_eq_true_iff]
          rw [isZero, Binary64.abs, Binary64.mul]
          by_cases nothing : units = 0
          · rw [if_pos nothing, Binary64.add_nan, Binary64.le_nan, decide_eq_true nothing]
            simp
          · rw [if_neg nothing, decide_eq_false nothing]
            exact iff_of_true (Binary64.zero_le_add_of_zero_le nonnegative.absolute rfl) fun _ => rfl

theorem IsProper.accepts_self (proper : tolerance.IsProper) (finite : a.isFinite = true) :
    tolerance.accepts a a = true := by
  refine (proper.isNonnegative.accepts_self_iff finite).mpr fun unbounded => ?_
  have bounded := proper.finiteRelative
  rw [unbounded] at bounded
  cases bounded

theorem accepts_self {a : Binary64} (finite : a.isFinite = true) :
    standard.accepts a a = true :=
  standard_isProper.accepts_self finite

/-- Nothing is within a tolerance a part of which is no number. -/
theorem accepts_of_unordered (unordered : tolerance.absolute = .nan ∨ tolerance.relative = .nan)
    (a b : Binary64) : tolerance.accepts a b = false := by
  have bound : tolerance.absolute.add (tolerance.relative.mul b.abs) = .nan := by
    rcases unordered with none | none
    · rw [none]
      cases tolerance.relative.mul b.abs <;> rfl
    · have product : tolerance.relative.mul b.abs = .nan := by
        rw [none]
        cases b.abs <;> rfl
      rw [product, Binary64.add_nan]
  rw [accepts, bound, Binary64.le_nan]

/-! ## Wider tolerances -/

/-- The parts of a tolerance are no greater than those of another. -/
structure Within (tolerance wide : Tolerance) : Prop where
  absolute : tolerance.absolute.le wide.absolute = true
  relative : tolerance.relative.le wide.relative = true

/-- What a tolerance accepts, a wider one accepts. -/
theorem IsProper.accepts_of_accepts (proper : tolerance.IsProper) (properWide : wide.IsProper)
    (within : tolerance.Within wide) (accepted : tolerance.accepts a b = true) :
    wide.accepts a b = true := by
  obtain ⟨_, absolute⟩ := Binary64.exists_magnitude proper.zeroLeAbsolute proper.finiteAbsolute
  obtain ⟨u, relative⟩ := Binary64.exists_magnitude proper.zeroLeRelative proper.finiteRelative
  obtain ⟨_, absoluteWide⟩ :=
    Binary64.exists_magnitude properWide.zeroLeAbsolute properWide.finiteAbsolute
  obtain ⟨v, relativeWide⟩ :=
    Binary64.exists_magnitude properWide.zeroLeRelative properWide.finiteRelative
  unfold accepts at accepted ⊢
  cases b with
  | nan =>
      rw [Binary64.abs, relative.mul_nan, Binary64.add_nan, Binary64.le_nan] at accepted
      cases accepted
  | infinite negative =>
      have further := (relative.le_iff relativeWide).mp within.relative
      rw [Binary64.abs, relative.mul_infinite] at accepted
      rw [Binary64.abs, relativeWide.mul_infinite]
      by_cases nothing : u = 0
      · rw [if_pos nothing, Binary64.add_nan, Binary64.le_nan] at accepted
        cases accepted
      · rw [if_neg nothing, absolute.add_infinite] at accepted
        rw [if_neg (by omega), absoluteWide.add_infinite]
        exact accepted
  | finite negative units representable =>
      obtain ⟨_, magnitude⟩ := Binary64.magnitude_abs (a := .finite negative units representable) rfl
      exact Binary64.le_trans accepted
        (Binary64.add_le_add absolute absoluteWide within.absolute
          (Binary64.zero_le_mul relative magnitude)
          (Binary64.mul_le_mul relative relativeWide within.relative magnitude))

/-! ## Tolerances that do not grow -/

/-- A tolerance is as wide for great numbers as for small ones. -/
def IsConstant (tolerance : Tolerance) : Prop :=
  tolerance.relative.eq .zero = true

theorem isConstant_zero (absolute : Binary64) : IsConstant ⟨absolute, .zero⟩ := by
  change Binary64.zero.eq .zero = true
  decide

/-- The tolerance is infinite, and of the numbers one is infinite and the other finite. -/
def IsLopsided (tolerance : Tolerance) (a b : Binary64) : Prop :=
  tolerance.absolute = .infinite false ∧
    (a.isInfinite = true ∧ b.isFinite = true ∨ a.isFinite = true ∧ b.isInfinite = true)

instance (tolerance : Tolerance) (a b : Binary64) : Decidable (tolerance.IsLopsided a b) :=
  inferInstanceAs (Decidable (_ ∧ _))

theorem IsLopsided.symm (lopsided : tolerance.IsLopsided a b) : tolerance.IsLopsided b a :=
  ⟨lopsided.1, lopsided.2.symm.imp And.symm And.symm⟩

theorem not_isLopsided_of_isFinite (left : a.isFinite = true) (right : b.isFinite = true) :
    ¬tolerance.IsLopsided a b := by
  rintro ⟨-, ⟨infinite, -⟩ | ⟨-, infinite⟩⟩
  · obtain ⟨_, rfl⟩ := Binary64.isInfinite_iff.mp infinite
    cases left
  · obtain ⟨_, rfl⟩ := Binary64.isInfinite_iff.mp infinite
    cases right

namespace IsConstant

variable (constant : tolerance.IsConstant)
include constant

theorem relative_eq :
    ∃ negative, tolerance.relative = .finite negative 0 Binary64.representable_zero :=
  Binary64.eq_zero_iff.mp constant

/-- The bound is the same for all finite numbers. -/
theorem mul_abs_eq (finite : b.isFinite = true) :
    tolerance.relative.mul b.abs = tolerance.relative.mul .zero := by
  obtain ⟨negative, same⟩ := constant.relative_eq
  rw [same]
  cases b with
  | nan => cases finite
  | infinite => cases finite
  | finite =>
      rw [Binary64.abs, Binary64.zero, Binary64.mul, Binary64.mul, Nat.zero_mul, Nat.zero_mul]

/-- No bound is known around a number that is not finite. -/
theorem accepts_eq_false (infinite : b.isFinite = false) : tolerance.accepts a b = false := by
  obtain ⟨negative, same⟩ := constant.relative_eq
  have bound : tolerance.absolute.add (tolerance.relative.mul b.abs) = .nan := by
    rw [same]
    cases b with
    | nan => cases tolerance.absolute <;> rfl
    | infinite => cases tolerance.absolute <;> rfl
    | finite => cases infinite
  rw [accepts, bound, Binary64.le_nan]

theorem mul_zero_eq :
    ∃ negative, tolerance.relative.mul .zero = .finite negative 0 Binary64.representable_zero := by
  obtain ⟨negative, same⟩ := constant.relative_eq
  rw [same, Binary64.zero, Binary64.mul, Nat.zero_mul, Binary64.round_zero (Nat.two_pow_pos _)]
  exact ⟨_, rfl⟩

/-- A number that is not finite is near to no finite number, unless the tolerance is lopsided. -/
theorem accepts_eq_false_of_left (infinite : a.isFinite = false) (finite : b.isFinite = true)
    (balanced : ¬tolerance.IsLopsided a b) : tolerance.accepts a b = false := by
  have nothing : (tolerance.relative.mul .zero).Magnitude 0 := by
    obtain ⟨negative, same⟩ := constant.mul_zero_eq
    exact ⟨negative, _, same, fun _ => rfl⟩
  rw [accepts, constant.mul_abs_eq finite]
  cases b with
  | nan => cases finite
  | infinite => cases finite
  | finite =>
      cases a with
      | finite => cases infinite
      | nan => rfl
      | infinite =>
          have bounded : tolerance.absolute ≠ .infinite false := fun unbounded =>
            balanced ⟨unbounded, .inl ⟨rfl, rfl⟩⟩
          apply Bool.eq_false_iff.mpr
          intro near
          exact Binary64.add_zero_ne_infinite nothing bounded (Binary64.eq_infinite_of_le near)

/-- An infinite number is near to a finite one where the tolerance is infinite, and not the other
way round. -/
theorem accepts_ne_of_infinite {negative : Bool} (unbounded : tolerance.absolute = .infinite false)
    (finite : b.isFinite = true) :
    tolerance.accepts (.infinite negative) b ≠ tolerance.accepts b (.infinite negative) := by
  have bound : tolerance.absolute.add (tolerance.relative.mul b.abs) = .infinite false := by
    obtain ⟨sign, same⟩ := constant.mul_zero_eq
    rw [constant.mul_abs_eq finite, unbounded, same]
    rfl
  have near : tolerance.accepts (.infinite negative) b = true := by
    rw [accepts, bound]
    cases b with
    | nan => cases finite
    | infinite => cases finite
    | finite => rfl
  intro same
  rw [near, constant.accepts_eq_false rfl] at same
  cases same

/-- **A tolerance that does not grow treats both numbers alike, unless it is lopsided.** -/
theorem accepts_comm_iff :
    tolerance.accepts a b = tolerance.accepts b a ↔ ¬tolerance.IsLopsided a b := by
  constructor
  · rintro same ⟨unbounded, ⟨infinite, finite⟩ | ⟨finite, infinite⟩⟩
    · obtain ⟨negative, rfl⟩ := Binary64.isInfinite_iff.mp infinite
      exact constant.accepts_ne_of_infinite unbounded finite same
    · obtain ⟨negative, rfl⟩ := Binary64.isInfinite_iff.mp infinite
      exact constant.accepts_ne_of_infinite unbounded finite same.symm
  · intro balanced
    cases left : a.isFinite with
    | true =>
        cases right : b.isFinite with
        | true =>
            rw [accepts, accepts, constant.mul_abs_eq left, constant.mul_abs_eq right,
              Binary64.abs_sub_comm]
        | false =>
            rw [constant.accepts_eq_false right,
              constant.accepts_eq_false_of_left right left (mt IsLopsided.symm balanced)]
    | false =>
        cases right : b.isFinite with
        | true =>
            rw [constant.accepts_eq_false left,
              constant.accepts_eq_false_of_left left right balanced]
        | false => rw [constant.accepts_eq_false left, constant.accepts_eq_false right]

end IsConstant

end Tolerance

end Reconciliation
