import Mathlib.Algebra.Order.Field.Power
import Mathlib.Data.Rat.Cast.Order
import Mathlib.Tactic.FieldSimp
import Mathlib.Tactic.Positivity
import Reconciliation.Proofs.Number.Order
import Reconciliation.Proofs.Number.Shortest

/-! # Exact values

A finite number is a rational. A decimal that is the rational of some number reads as this number
(`Binary64.value?_ofDecimal`), so nothing is lost where a decimal or an integer has an exact double.
Whole numbers beyond 64 bits stay beyond them when they are rounded
(`Binary64.le_natAbs_of_toInt?_ofRatio`).
-/

namespace Reconciliation.Binary64

-- Powers stay those of the core library, whatever else is imported beside this module.
attribute [local instance (high)] instPowNat

/-- The rational that a finite number is. -/
def value? : Binary64 → Option ℚ
  | .finite negative units _ => some (signedUnits negative units / (2 ^ unitBits : Nat))
  | _ => none

variable {number other : Binary64} {i : Int} {units digits n : Nat} {exponent : Int}
  {negative : Bool} {q : ℚ}

theorem unit_ne_zero : ((2 ^ unitBits : Nat) : ℚ) ≠ 0 :=
  Nat.cast_ne_zero.mpr (Nat.ne_of_gt (Nat.two_pow_pos unitBits))

theorem value?_eq_some_iff : number.value? = some q ↔
    number.isFinite = true ∧ (number.toUnits : ℚ) = q * (2 ^ unitBits : Nat) := by
  cases number with
  | nan => exact iff_of_false nofun fun held => nomatch held.1
  | infinite negative => exact iff_of_false nofun fun held => nomatch held.1
  | finite negative units representable =>
      rw [value?, Option.some_inj, div_eq_iff unit_ne_zero]
      exact ⟨fun same => ⟨rfl, same⟩, And.right⟩

theorem exists_value? (finite : number.isFinite = true) : ∃ q, number.value? = some q := by
  cases number with
  | nan => cases finite
  | infinite negative => cases finite
  | finite negative units representable => exact ⟨_, rfl⟩

/-- Finite numbers are equal if they are one rational; the signs of zeros do not count. -/
theorem eq_iff_value? (finite : number.isFinite = true) (otherFinite : other.isFinite = true) :
    number.eq other = true ↔ ∃ q, number.value? = some q ∧ other.value? = some q := by
  rw [eq_iff_toUnits finite otherFinite]
  constructor
  · intro same
    obtain ⟨q, held⟩ := exists_value? finite
    have units := (value?_eq_some_iff.mp held).2
    exact ⟨q, held, value?_eq_some_iff.mpr ⟨otherFinite, same ▸ units⟩⟩
  · rintro ⟨q, held, otherHeld⟩
    have units := (value?_eq_some_iff.mp held).2
    exact Int.cast_injective (units.trans (value?_eq_some_iff.mp otherHeld).2.symm)

/-! ## Whole numbers -/

theorem signedUnits_mul (negative : Bool) (n factor : Nat) :
    signedUnits negative (n * factor) = signedUnits negative n * factor := by
  cases negative with
  | false => exact Int.natCast_mul n factor
  | true =>
      rw [signedUnits_true, signedUnits_true, Int.natCast_mul]
      exact (Int.neg_mul _ _).symm

theorem natAbs_signedUnits (negative : Bool) (units : Nat) :
    (signedUnits negative units).natAbs = units := by
  unfold signedUnits
  split <;> omega

/-- An integer by its sign and its magnitude. -/
theorem signedUnits_natAbs (i : Int) : signedUnits (decide (i < 0)) i.natAbs = i := by
  unfold signedUnits
  split
  · next below =>
      have := of_decide_eq_true below
      omega
  · next notBelow =>
      have := of_decide_eq_false (Bool.eq_false_iff.mpr notBelow)
      omega

/-- A number is the integer that it is read as. -/
theorem toInt?_eq_some_iff : number.toInt? = some i ↔ number.value? = some (i : ℚ) := by
  rw [value?_eq_some_iff]
  cases number with
  | nan => exact iff_of_false nofun fun held => nomatch held.1
  | infinite negative => exact iff_of_false nofun fun held => nomatch held.1
  | finite negative units representable =>
      have positive := Nat.two_pow_pos unitBits
      have scaled : ((signedUnits negative units : Int) : ℚ) = i * (2 ^ unitBits : Nat) ↔
          signedUnits negative units = i * (2 ^ unitBits : Nat) := by
        exact_mod_cast Iff.rfl
      rw [toInt?, toUnits, scaled]
      simp only [isFinite, true_and]
      generalize 2 ^ unitBits = unit at *
      constructor
      · intro found
        split at found
        · next whole =>
            cases found
            rw [← signedUnits_mul, Nat.div_mul_cancel (Nat.dvd_of_mod_eq_zero whole)]
        · cases found
      · intro same
        have magnitude : units = i.natAbs * unit := by
          rw [← natAbs_signedUnits negative units, same, Int.natAbs_mul, Int.natAbs_natCast]
        rw [magnitude, signedUnits_mul] at same
        have sign := Int.eq_of_mul_eq_mul_right (by omega) same
        rw [magnitude, Nat.mul_mod_left, if_pos rfl, Nat.mul_div_cancel _ positive, sign]

/-! ## Decimals -/

/-- A decimal that is a whole number of units, without the division. -/
theorem mul_gridStep_of_value
    (same : (digits : ℚ) * 10 ^ exponent = units / (2 ^ unitBits : Nat)) :
    digits * (gridStep exponent).1 = units * (gridStep exponent).2 := by
  rw [eq_div_iff unit_ne_zero] at same
  rcases le_or_gt 0 exponent with whole | fractional
  · rw [gridStep_of_nonneg whole]
    obtain ⟨power, rfl⟩ := Int.eq_ofNat_of_zero_le whole
    rw [zpow_natCast] at same
    rw [Int.toNat_natCast, Nat.mul_one, ← Nat.mul_assoc]
    exact_mod_cast same
  · rw [gridStep_of_neg fractional]
    obtain ⟨power, rfl⟩ : ∃ power : Nat, exponent = -power := ⟨(-exponent).toNat, by omega⟩
    rw [zpow_neg, zpow_natCast, mul_right_comm, mul_inv_eq_iff_eq_mul₀ (by positivity)] at same
    rw [Int.neg_neg, Int.toNat_natCast]
    exact_mod_cast same

/-- **A decimal that is the rational of a number reads as the number.** -/
theorem ofDecimal_of_value (negative : Bool) (representable : Representable units)
    (same : (digits : ℚ) * 10 ^ exponent = units / (2 ^ unitBits : Nat)) :
    ofDecimal negative digits exponent = .finite negative units representable := by
  have exact := mul_gridStep_of_value same
  obtain ⟨stepPositive, positive⟩ := gridStep_pos exponent
  rcases Nat.eq_zero_or_pos units with rfl | magnitude
  · have nothing : digits = 0 := by
      rw [Nat.zero_mul] at exact
      exact (Nat.mul_eq_zero.mp exact).resolve_right (Nat.ne_of_gt stepPositive)
    exact if_pos nothing
  · apply ofDecimal_of_roundsTo magnitude
    apply holds_of_bounds positive magnitude
    · have gap := Nat.mul_pos (Nat.lt_of_lt_of_le (spacing_pos units) (spacing_le_gapBelow units))
        positive
      omega
    · have width := Nat.mul_pos (spacing_pos units) positive
      omega

/-- A sign and a magnitude as a rational. -/
def signed (negative : Bool) (magnitude : ℚ) : ℚ :=
  if negative then -magnitude else magnitude

theorem value?_finite (negative : Bool) (representable : Representable units) :
    (finite negative units representable).value? =
      some (signed negative (units / (2 ^ unitBits : Nat))) := by
  rw [value?, signed]
  cases negative with
  | false => rfl
  | true => rw [signedUnits_true, if_pos rfl, Int.cast_neg, Int.cast_natCast, neg_div]

theorem abs_signed (negative : Bool) {magnitude : ℚ} (nonneg : 0 ≤ magnitude) :
    |signed negative magnitude| = magnitude := by
  unfold signed
  split
  · rw [abs_neg, abs_of_nonneg nonneg]
  · exact abs_of_nonneg nonneg

/-- A decimal that is the rational of some number reads as this rational. -/
theorem value?_ofDecimal
    (held : number.value? = some (signed negative (digits * 10 ^ exponent))) :
    (ofDecimal negative digits exponent).value? =
      some (signed negative (digits * 10 ^ exponent)) := by
  cases number with
  | nan => cases held
  | infinite => cases held
  | finite sign units representable =>
      rw [value?_finite, Option.some_inj] at held
      have magnitude : |signed sign (units / (2 ^ unitBits : Nat))| =
          |signed negative (digits * 10 ^ exponent)| := by rw [held]
      rw [abs_signed _ (by positivity), abs_signed _ (by positivity)] at magnitude
      rw [ofDecimal_of_value negative representable magnitude.symm, value?_finite, magnitude]

theorem signed_natCast (negative : Bool) (n : Nat) :
    signed negative n = (signedUnits negative n : Int) := by
  cases negative with
  | false => exact (Int.cast_natCast n).symm
  | true =>
      rw [signed, if_pos rfl, signedUnits_true, Int.cast_neg, Int.cast_natCast]

/-- An integer that is the rational of some number is held exactly. -/
theorem value?_ofInt (held : number.value? = some (i : ℚ)) : (ofInt i).value? = some (i : ℚ) := by
  have same : signed (decide (i < 0)) (i.natAbs * 10 ^ (0 : Int)) = i := by
    rw [zpow_zero, mul_one, signed_natCast, signedUnits_natAbs]
  rw [← same] at held
  have read := value?_ofDecimal held
  rwa [same, ofDecimal_zero] at read

/-- Integers of up to `precision` bits are held exactly. -/
theorem value?_ofInt_of_short (short : i.natAbs < 2 ^ precision) :
    (ofInt i).value? = some (i : ℚ) := by
  obtain ⟨representable, same⟩ := @ofRatio_eq_finite _ (decide (i < 0)) short
  rw [ofInt, same, value?_eq_some_iff, toUnits, signedUnits_mul, signedUnits_natAbs]
  exact ⟨rfl, Int.cast_mul i _⟩

/-! ## Large integers -/

theorem roundUnits_two_pow (exponent : Nat) : roundUnits (2 ^ exponent) 1 = 2 ^ exponent := by
  apply roundUnits_one
  apply spacing_dvd_of_significant
  exact ⟨1, exponent, by decide, (Nat.one_mul _).symm⟩

/-- A whole number of at least a power of two is not rounded below this power. -/
theorem le_natAbs_of_toInt?_ofRatio {bits : Nat} (large : 2 ^ bits ≤ n)
    (read : (ofRatio negative n 1).toInt? = some i) : 2 ^ bits ≤ i.natAbs := by
  rw [toInt?_eq_some_iff, value?_eq_some_iff, ofRatio, round] at read
  split at read
  · next fits =>
      obtain ⟨-, same⟩ := read
      have scaled : signedUnits negative (roundUnits (n * 2 ^ unitBits) 1) =
          i * (2 ^ unitBits : Nat) := by
        exact_mod_cast same
      have absolute := congrArg Int.natAbs scaled
      rw [natAbs_signedUnits, Int.natAbs_mul, Int.natAbs_natCast] at absolute
      have least : 2 ^ bits * 2 ^ unitBits ≤ roundUnits (n * 2 ^ unitBits) 1 := by
        rw [← Nat.pow_add, ← roundUnits_two_pow, Nat.pow_add]
        exact roundUnits_mono Nat.one_pos (Nat.mul_le_mul_right _ large)
      rw [absolute] at least
      exact Nat.le_of_mul_le_mul_right least (Nat.two_pow_pos unitBits)
  · cases read.1

end Reconciliation.Binary64
