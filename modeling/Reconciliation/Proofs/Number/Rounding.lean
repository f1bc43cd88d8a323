import Reconciliation.Number.Shortest
import Reconciliation.Proofs.Number.WholeNumber

/-! # Rounding within an interval

Every decimal in the rounding interval of a magnitude reads back as the magnitude
(`Binary64.ofDecimal_of_roundsTo`). A ratio in the interval has the spacing of the magnitude, unless
it lies below the least magnitude of a binade, where the spacing is half as wide; either way the
magnitude is the nearest multiple of the spacing.
-/

namespace Reconciliation

-- Powers stay those of the core library, whatever else is imported beside this module.
attribute [local instance (high)] instPowNat

namespace Binary64

variable {units num den : Nat}

/-- A multiple of the spacing is what a ratio near to it rounds to. A ratio half a spacing away
goes to the multiple that is even. -/
theorem roundUnits_of_near (positive : 0 < den) (whole : spacing (num / den) ∣ units)
    (low : 2 * (units * den) ≤ 2 * num + den * spacing (num / den))
    (high : 2 * num ≤ 2 * (units * den) + den * spacing (num / den))
    (even : units / spacing (num / den) % 2 = 0 ∨
      2 * (units * den) < 2 * num + den * spacing (num / den) ∧
        2 * num < 2 * (units * den) + den * spacing (num / den)) :
    roundUnits num den = units := by
  have stepPositive := spacing_pos (num / den)
  unfold roundUnits
  dsimp only
  generalize spacing (num / den) = step at *
  obtain ⟨count, rfl⟩ := whole
  rw [Nat.mul_div_cancel_left count stepPositive] at even
  have cellPositive : 0 < den * step := Nat.mul_pos positive stepPositive
  have place : step * count * den = den * step * count := by
    rw [Nat.mul_comm, Nat.mul_assoc]
  rw [place] at low high even
  generalize den * step = cell at *
  have split := Nat.div_add_mod num cell
  have rest := Nat.mod_lt num cellPositive
  by_cases below : cell * count ≤ num
  · have floor : num / cell = count := by
      apply Nat.div_eq_of_lt_le
      · rw [Nat.mul_comm]
        exact below
      · rw [Nat.mul_comm, Nat.mul_succ]
        omega
    rw [floor] at split ⊢
    rw [if_neg (by omega), Nat.mul_comm]
  · obtain ⟨lesser, rfl⟩ : ∃ lesser, count = lesser + 1 := by
      cases count with
      | zero => omega
      | succ lesser => exact ⟨lesser, rfl⟩
    rw [Nat.mul_succ] at low high even below
    have floor : num / cell = lesser := by
      apply Nat.div_eq_of_lt_le
      · rw [Nat.mul_comm]
        omega
      · rw [Nat.mul_comm, Nat.mul_succ]
        omega
    rw [floor] at split ⊢
    rw [if_pos (by omega), Nat.mul_comm]

/-- The distance to the lesser neighbour of a magnitude, in half units. -/
def gapBelow (units : Nat) : Nat :=
  if 1 < spacing units ∧ units = 2 ^ (precision - 1) * spacing units then spacing units
  else 2 * spacing units

/-- A ratio in the rounding interval, without the subtraction. -/
theorem bounds_of_holds (inside : (roundingInterval units).holds num den = true) :
    4 * (units * den) ≤ num + gapBelow units * den ∧
      num ≤ 4 * (units * den) + 2 * (spacing units * den) ∧
      (units / spacing units % 2 = 0 ∨ 4 * (units * den) < num + gapBelow units * den ∧
        num < 4 * (units * den) + 2 * (spacing units * den)) := by
  change (if units / spacing units % 2 == 0 then
      decide ((4 * units - gapBelow units) * den ≤ num) &&
        decide (num ≤ (4 * units + 2 * spacing units) * den)
    else
      decide ((4 * units - gapBelow units) * den < num) &&
        decide (num < (4 * units + 2 * spacing units) * den)) = true at inside
  rw [Nat.sub_mul, Nat.add_mul, Nat.mul_assoc 4, Nat.mul_assoc 2] at inside
  split at inside
  · next even =>
      rw [Bool.and_eq_true, decide_eq_true_eq, decide_eq_true_eq] at inside
      exact ⟨by omega, inside.2, .inl (beq_iff_eq.mp even)⟩
  · rw [Bool.and_eq_true, decide_eq_true_eq, decide_eq_true_eq] at inside
    exact ⟨by omega, by omega, .inr ⟨by omega, inside.2⟩⟩

theorem gapBelow_le (units : Nat) : gapBelow units ≤ 2 * spacing units := by
  unfold gapBelow
  split <;> omega

theorem spacing_le_gapBelow (units : Nat) : spacing units ≤ gapBelow units := by
  unfold gapBelow
  split <;> omega

/-- A ratio strictly between the ends lies in the rounding interval. -/
theorem holds_of_bounds (positive : 0 < den) (magnitude : 0 < units)
    (low : 4 * (units * den) < num + gapBelow units * den)
    (high : num < 4 * (units * den) + 2 * (spacing units * den)) :
    (roundingInterval units).holds num den = true := by
  have low : (4 * units - gapBelow units) * den < num := by
    have gap := Nat.mul_le_mul_right den
      (Nat.le_trans (gapBelow_le units) (Nat.mul_le_mul_left 2 (spacing_le magnitude)))
    have := Nat.mul_pos magnitude positive
    rw [Nat.mul_assoc] at gap
    rw [Nat.sub_mul, Nat.mul_assoc]
    omega
  have high : num < (4 * units + 2 * spacing units) * den := by
    rw [Nat.add_mul, Nat.mul_assoc, Nat.mul_assoc]
    exact high
  unfold RoundingInterval.holds
  split
  · exact (Bool.and_eq_true ..).mpr
      ⟨decide_eq_true (Nat.le_of_lt low), decide_eq_true (Nat.le_of_lt high)⟩
  · exact (Bool.and_eq_true ..).mpr ⟨decide_eq_true low, decide_eq_true high⟩

/-- Magnitudes of one binade have one spacing. -/
theorem spacing_eq_of_log2_eq {other : Nat} (same : other.log2 = units.log2) :
    spacing other = spacing units := by
  rw [spacing, spacing, same]

theorem log2_eq_of_bounds {log : Nat} (low : 2 ^ log ≤ units) (high : units < 2 ^ (log + 1)) :
    units.log2 = log :=
  (Nat.log2_eq_iff (Nat.ne_of_gt (Nat.lt_of_lt_of_le (Nat.two_pow_pos log) low))).mpr ⟨low, high⟩

theorem add_le_of_dvd {step a b : Nat} (wholeA : step ∣ a) (wholeB : step ∣ b) (below : a < b) :
    a + step ≤ b := by
  have := Nat.le_of_dvd (Nat.sub_pos_of_lt below) (Nat.dvd_sub wholeB wholeA)
  omega

/-- Below `2 ^ precision` units the magnitudes are as dense as the units. -/
theorem spacing_of_lt (small : units < 2 ^ precision) : spacing units = 1 := by
  have dvd : spacing units ∣ 2 ^ 0 := spacing_dvd_two_pow (by rwa [Nat.zero_add])
  exact Nat.dvd_one.mp dvd

theorem precision_le_log2 (coarse : 1 < spacing units) : precision ≤ units.log2 := by
  apply Nat.le_of_not_lt
  intro fine
  rw [spacing, Nat.sub_eq_zero_of_le fine, Nat.pow_zero] at coarse
  omega

theorem lt_of_not_coarse (magnitude : 0 < units) (fine : ¬1 < spacing units) :
    units < 2 ^ precision := by
  apply (Nat.log2_lt (Nat.ne_of_gt magnitude)).mp
  apply Nat.lt_of_not_le
  intro large
  exact fine (Nat.one_lt_two_pow (by omega))

/-- From `2 ^ precision` units on a binade has `2 ^ (precision - 1)` spacings. -/
theorem two_pow_log2_eq (coarse : 1 < spacing units) :
    2 ^ units.log2 = 2 ^ (precision - 1) * spacing units := by
  have := precision_le_log2 coarse
  unfold spacing
  unfold precision at this ⊢
  rw [← Nat.pow_add]
  congr 1
  omega

/-- Spacings are not coarser than the binade. -/
theorem spacing_dvd_two_pow_log2 (units : Nat) : spacing units ∣ 2 ^ (units.log2 + 1) :=
  Nat.pow_dvd_pow 2 (Nat.sub_le _ _)

section

variable (positive : 0 < den) (magnitude : 0 < units) (whole : spacing units ∣ units)
include positive magnitude whole

/-- Above a magnitude its spacing holds at least until the next one. -/
theorem spacing_div_of_le (above : units * den ≤ num)
    (high : 4 * num ≤ 4 * (units * den) + 2 * (spacing units * den)) :
    spacing (num / den) = spacing units := by
  have stepPositive := Nat.mul_pos (spacing_pos units) positive
  -- the next binade is a whole spacing away
  have room := Nat.mul_le_mul_right den
    (add_le_of_dvd whole (spacing_dvd_two_pow_log2 units) Nat.lt_log2_self)
  rw [Nat.add_mul] at room
  apply spacing_eq_of_log2_eq
  apply log2_eq_of_bounds
  · exact Nat.le_trans (Nat.log2_self_le (Nat.ne_of_gt magnitude))
      ((Nat.le_div_iff_mul_le positive).mpr above)
  · apply Nat.div_lt_of_lt_mul
    rw [Nat.mul_comm den]
    omega

omit whole in
/-- Below the least magnitude of a binade the spacing is half as wide. -/
theorem two_mul_spacing_div_of_lt (coarse : 1 < spacing units)
    (power : units = 2 ^ (precision - 1) * spacing units) (below : num < units * den)
    (low : 4 * (units * den) ≤ 4 * num + spacing units * den) :
    2 * spacing (num / den) = spacing units := by
  have least : units = 2 ^ units.log2 := power.trans (two_pow_log2_eq coarse).symm
  have large := precision_le_log2 coarse
  obtain ⟨log, same⟩ : ∃ log, units.log2 = log + 1 := ⟨units.log2 - 1, by
    unfold precision at large
    omega⟩
  have half : units = 2 * 2 ^ log := by rw [least, same, Nat.pow_succ, Nat.mul_comm]
  have halved : 2 * 2 ^ (log + 1 - precision) = spacing units := by
    unfold spacing
    unfold precision at large ⊢
    rw [Nat.mul_comm, ← Nat.pow_succ]
    congr 1
    omega
  have lesser : (num / den).log2 = log := by
    apply log2_eq_of_bounds
    · rw [Nat.le_div_iff_mul_le positive]
      have narrow := Nat.mul_le_mul_right den (spacing_le magnitude)
      have halves : units * den = 2 * (2 ^ log * den) := by rw [half, Nat.mul_assoc]
      omega
    · rw [Nat.pow_succ, Nat.mul_comm, ← half]
      exact Nat.div_lt_of_lt_mul (by rw [Nat.mul_comm den]; exact below)
  rw [spacing, lesser, halved]

/-- Below any other magnitude its spacing holds at least down to the one before. -/
theorem spacing_div_of_lt (inner : ¬(1 < spacing units ∧ units = 2 ^ (precision - 1) * spacing units))
    (below : num < units * den) (low : 4 * (units * den) ≤ 4 * num + 2 * (spacing units * den)) :
    spacing (num / den) = spacing units := by
  have below : num / den < units := Nat.div_lt_of_lt_mul (by rw [Nat.mul_comm den]; exact below)
  have stepPositive := Nat.mul_pos (spacing_pos units) positive
  by_cases coarse : 1 < spacing units
  · -- the magnitude is not the least one of its binade
    have least : 2 ^ units.log2 ≤ units := Nat.log2_self_le (Nat.ne_of_gt magnitude)
    have further : 2 ^ units.log2 + spacing units ≤ units := by
      apply add_le_of_dvd _ whole
      · apply Nat.lt_of_le_of_ne least
        intro same
        exact inner ⟨coarse, same.symm.trans (two_pow_log2_eq coarse)⟩
      · rw [two_pow_log2_eq coarse]
        exact Nat.dvd_mul_left ..
    have room := Nat.mul_le_mul_right den further
    rw [Nat.add_mul] at room
    apply spacing_eq_of_log2_eq
    apply log2_eq_of_bounds
    · rw [Nat.le_div_iff_mul_le positive]
      omega
    · exact Nat.lt_trans below Nat.lt_log2_self
  · -- every magnitude up to this one is a whole number of units
    have fine : spacing units = 1 := by
      have := spacing_pos units
      omega
    rw [fine, spacing_of_lt (Nat.lt_trans below (lt_of_not_coarse magnitude coarse))]

/-- The spacing around a ratio in the rounding interval of a magnitude is that of the magnitude,
but half of it below the least magnitude of a binade. -/
theorem spacing_div_cases (low : 4 * (units * den) ≤ 4 * num + gapBelow units * den)
    (high : 4 * num ≤ 4 * (units * den) + 2 * (spacing units * den)) :
    spacing (num / den) = spacing units ∨
      2 * spacing (num / den) = spacing units ∧ gapBelow units = spacing units ∧
        num < units * den ∧ units = 2 ^ (precision - 1) * spacing units := by
  rcases Nat.lt_or_ge num (units * den) with below | above
  · by_cases power : 1 < spacing units ∧ units = 2 ^ (precision - 1) * spacing units
    · have gap : gapBelow units = spacing units := if_pos power
      rw [gap] at low
      exact .inr ⟨two_mul_spacing_div_of_lt positive magnitude power.1 power.2 below low, gap, below,
        power.2⟩
    · have gap : gapBelow units = 2 * spacing units := if_neg power
      rw [gap, Nat.mul_assoc] at low
      exact .inl (spacing_div_of_lt positive magnitude whole power below low)
  · exact .inl (spacing_div_of_le positive magnitude whole above high)

end

/-- **A ratio in the rounding interval of a magnitude rounds to it.** -/
theorem roundUnits_of_holds (positive : 0 < den) (magnitude : 0 < units)
    (significant : Significant units)
    (inside : (roundingInterval units).holds (4 * num) den = true) :
    roundUnits num den = units := by
  have whole := spacing_dvd_of_significant significant
  obtain ⟨low, high, even⟩ := bounds_of_holds inside
  rcases spacing_div_cases positive magnitude whole low high with same | ⟨half, gap, below, binade⟩
  · have narrow := Nat.mul_le_mul_right den (gapBelow_le units)
    rw [Nat.mul_assoc] at narrow
    apply roundUnits_of_near positive (by rw [same]; exact whole)
    all_goals rw [same, Nat.mul_comm den]
    · omega
    · omega
    · exact even.imp id fun strict => by omega
  · have width : 2 * (den * spacing (num / den)) = spacing units * den := by
      rw [← half, Nat.mul_assoc, Nat.mul_comm den]
    rw [gap] at low
    apply roundUnits_of_near positive
    · exact Nat.dvd_trans (half ▸ Nat.dvd_mul_left _ 2) whole
    · omega
    · omega
    · -- the magnitude is an even number of half spacings
      left
      rw [binade, ← half, Nat.mul_left_comm, ← Nat.mul_assoc, Nat.mul_div_cancel _ (spacing_pos _),
        Nat.mul_mod_right]

theorem round_of_holds {negative : Bool} (positive : 0 < den) (magnitude : 0 < units)
    (representable : Representable units)
    (inside : (roundingInterval units).holds (4 * num) den = true) :
    round negative num den = .finite negative units representable := by
  have exact := roundUnits_of_holds positive magnitude representable.2 inside
  unfold round
  simp only [exact]
  rw [dif_pos representable.1]

/-- Whether a ratio lies in the rounding interval does not depend on how it is written. -/
theorem holds_mul {factor : Nat} (positive : 0 < factor) :
    (roundingInterval units).holds (num * factor) (den * factor) =
      (roundingInterval units).holds num den := by
  unfold RoundingInterval.holds
  simp only [← Nat.mul_assoc, Nat.mul_le_mul_right_iff positive, Nat.mul_lt_mul_right positive]

end Binary64

end Reconciliation
