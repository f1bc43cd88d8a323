import Reconciliation.Number.Binary64

/-! # Whole numbers in binary64

A magnitude that is a multiple of the spacing around it rounds to itself, so whole numbers of up to
`precision` bits are held exactly (`ofRatio_eq_finite`).
-/

namespace Reconciliation

-- Powers stay those of the core library, whatever else is imported beside this module.
attribute [local instance (high)] instPowNat

namespace Binary64

variable {units n : Nat} {negative : Bool}

theorem spacing_pos (units : Nat) : 0 < spacing units :=
  Nat.two_pow_pos _

theorem spacing_le (positive : 0 < units) : spacing units ≤ units := by
  have inside : 2 ^ units.log2 ≤ units := Nat.log2_self_le (Nat.ne_of_gt positive)
  refine Nat.le_trans (Nat.pow_le_pow_right (by decide) ?_) inside
  unfold precision
  omega

/-- Spacings are powers of two, so the finer one divides the coarser. -/
theorem spacing_dvd_two_pow {exponent : Nat} (small : units < 2 ^ (exponent + precision)) :
    spacing units ∣ 2 ^ exponent := by
  apply Nat.pow_dvd_pow
  by_cases zero : units = 0
  · subst zero
    rw [Nat.log2_zero]
    exact Nat.le_trans (by decide) (Nat.zero_le exponent)
  · have below : units.log2 < exponent + precision := (Nat.log2_lt zero).mpr small
    omega

/-- The significant bits of a magnitude are whole spacings. -/
theorem spacing_dvd_of_significant (significant : Significant units) : spacing units ∣ units := by
  obtain ⟨mantissa, exponent, bound, rfl⟩ := significant
  apply Nat.dvd_mul_left_of_dvd
  apply spacing_dvd_two_pow
  rw [Nat.add_comm, Nat.pow_add]
  exact Nat.mul_lt_mul_of_pos_right bound (Nat.two_pow_pos exponent)

theorem roundUnits_one (whole : spacing units ∣ units) : roundUnits units 1 = units := by
  have nothing : units % spacing units = 0 := Nat.mod_eq_zero_of_dvd whole
  unfold roundUnits
  simp only [Nat.div_one, Nat.one_mul, nothing, Nat.mul_zero]
  rw [if_neg]
  · exact Nat.div_mul_cancel whole
  · have := spacing_pos units
    omega

theorem units_lt (small : n < 2 ^ precision) : n * 2 ^ unitBits < 2 ^ (unitBits + precision) := by
  rw [Nat.add_comm, Nat.pow_add]
  exact Nat.mul_lt_mul_of_pos_right small (Nat.two_pow_pos unitBits)

/-- A whole number of up to `precision` bits is held exactly. -/
theorem ofRatio_eq_finite (small : n < 2 ^ precision) :
    ∃ representable, ofRatio negative n 1 = .finite negative (n * 2 ^ unitBits) representable := by
  have exact : roundUnits (n * 2 ^ unitBits) 1 = n * 2 ^ unitBits := by
    apply roundUnits_one
    apply Nat.dvd_mul_left_of_dvd
    exact spacing_dvd_two_pow (units_lt small)
  have fits : roundUnits (n * 2 ^ unitBits) 1 < overflowUnits := by
    rw [exact]
    refine Nat.lt_of_lt_of_le (units_lt small) (Nat.pow_le_pow_right (by decide) ?_)
    exact Nat.add_le_add_left (by decide) unitBits
  unfold ofRatio round
  rw [dif_pos fits]
  simp only [exact]
  exact ⟨exact ▸ ⟨fits, roundUnits_significant _ _⟩, trivial⟩

theorem isFinite_ofNat (small : n < 2 ^ precision) : (ofNat n).isFinite = true := by
  obtain ⟨_, held⟩ := @ofRatio_eq_finite n false small
  rw [ofNat, held]
  rfl

theorem ofDecimal_zero (negative : Bool) (n : Nat) :
    ofDecimal negative n 0 = ofRatio negative n 1 := by
  unfold ofDecimal
  by_cases zero : n = 0
  · subst zero
    obtain ⟨representable, same⟩ := @ofRatio_eq_finite 0 negative (by decide)
    rw [if_pos rfl, same]
    simp only [Nat.zero_mul]
  · rw [if_neg zero]
    dsimp only
    rw [if_neg (by decide), if_neg (by omega), if_pos (by decide), Int.toNat_zero, Nat.pow_zero,
      Nat.mul_one]

end Binary64

end Reconciliation
