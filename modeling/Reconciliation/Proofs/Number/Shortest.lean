import Reconciliation.Proofs.Number.Rounding

/-! # Shortest decimals read back

The shortest decimal of a magnitude lies in its rounding interval (`Binary64.roundsTo_shortest`): a
hit does by definition, and twenty-four grids below the power of ten above the magnitude the grid is
finer than the interval. Every decimal in the interval reads back as the magnitude
(`Binary64.ofDecimal_of_roundsTo`).
-/

namespace Reconciliation

-- Powers stay those of the core library, whatever else is imported beside this module.
attribute [local instance (high)] instPowNat

namespace Binary64

variable {tie : Tie} {units digits : Nat} {exponent : Int}

/-- The decimal `digits * 10 ^ exponent` lies in the rounding interval of a magnitude. -/
def RoundsTo (units digits : Nat) (exponent : Int) : Prop :=
  (roundingInterval units).holds (4 * (digits * (gridStep exponent).1)) (gridStep exponent).2 = true

theorem gridStep_of_nonneg (whole : 0 ≤ exponent) :
    gridStep exponent = (10 ^ exponent.toNat * 2 ^ unitBits, 1) :=
  if_pos whole

theorem gridStep_of_neg (fractional : exponent < 0) :
    gridStep exponent = (2 ^ unitBits, 10 ^ (-exponent).toNat) :=
  if_neg (by omega)

theorem gridStep_pos (exponent : Int) : 0 < (gridStep exponent).1 ∧ 0 < (gridStep exponent).2 := by
  unfold gridStep
  split
  · exact ⟨Nat.mul_pos (Nat.pow_pos (by decide)) (Nat.two_pow_pos _), Nat.one_pos⟩
  · exact ⟨Nat.two_pow_pos _, Nat.pow_pos (by decide)⟩

/-! ## The shortest decimal -/

theorem gridHit?_roundsTo {decimal : Decimal}
    (hit : gridHit? tie units exponent = some decimal) :
    decimal.exponent = exponent ∧ RoundsTo units decimal.digits exponent := by
  unfold gridHit? at hit
  dsimp only at hit
  unfold RoundsTo
  rw [← Nat.mul_assoc]
  split at hit
  · next chosen =>
      cases hit
      exact ⟨rfl, (Bool.and_eq_true _ _ ▸ chosen).1⟩
  · split at hit
    · next above =>
        cases hit
        exact ⟨rfl, above⟩
    · cases hit

/-- The first hit rounds to the magnitude, unless the grids ran out. -/
theorem firstHit_cases (tie : Tie) (units grids : Nat) (exponent : Int) :
    let decimal := firstHit tie units grids exponent
    RoundsTo units decimal.digits decimal.exponent ∨
      decimal = ⟨units * (gridStep (exponent - grids)).2 / (gridStep (exponent - grids)).1,
        exponent - grids⟩ := by
  induction grids generalizing exponent with
  | zero =>
      right
      rw [Int.natCast_zero, Int.sub_zero]
      rfl
  | succ grids ih =>
      unfold firstHit
      cases hit : gridHit? tie units exponent with
      | some decimal =>
          obtain ⟨same, inside⟩ := gridHit?_roundsTo hit
          left
          rw [Option.getD_some, same]
          exact inside
      | none =>
          have later := ih (exponent - 1)
          rw [Option.getD_none]
          rw [show exponent - ((grids + 1 : Nat) : Int) = exponent - 1 - grids by omega]
          exact later

/-- Whether the last grid searched for the magnitudes of a binade is four times as fine as they are
dense. -/
def lastGridIsFine (log : Nat) : Bool :=
  let grid := gridStep (((log : Int) + 1 - unitBits) * 30103 / 100000 + 2 - (24 : Nat))
  4 * grid.1 ≤ 2 ^ (log + 1 - precision) * grid.2

theorem lastGridIsFine_of_lt {log : Nat} (small : log < unitBits + 1024) :
    lastGridIsFine log = true := by
  -- in blocks, which are checked faster than one long range
  have blocks : ∀ block < 42, ∀ place < 50, lastGridIsFine (50 * block + place) = true := by
    decide +kernel
  unfold unitBits at small
  have checked := blocks (log / 50) (by omega) (log % 50) (by omega)
  rwa [Nat.div_add_mod] at checked

/-- The last grid searched has a decimal that rounds to the magnitude. -/
theorem roundsTo_lastGrid (magnitude : 0 < units) (small : units < overflowUnits) :
    let exponent := decimalBound units - (24 : Nat)
    RoundsTo units (units * (gridStep exponent).2 / (gridStep exponent).1) exponent := by
  intro exponent
  obtain ⟨stepPositive, positive⟩ := gridStep_pos exponent
  have fine : 4 * (gridStep exponent).1 ≤ spacing units * (gridStep exponent).2 :=
    of_decide_eq_true (lastGridIsFine_of_lt ((Nat.log2_lt (Nat.ne_of_gt magnitude)).mpr small))
  have gap := Nat.mul_le_mul_right (gridStep exponent).2 (spacing_le_gapBelow units)
  have split := Nat.div_add_mod (units * (gridStep exponent).2) (gridStep exponent).1
  have rest := Nat.mod_lt (units * (gridStep exponent).2) stepPositive
  have wide := Nat.mul_pos (spacing_pos units) positive
  rw [Nat.mul_comm (gridStep exponent).1] at split
  apply holds_of_bounds positive magnitude
  · omega
  · omega

/-- The shortest decimal of a magnitude rounds to it. -/
theorem roundsTo_shortest (tie : Tie) (magnitude : 0 < units) (small : units < overflowUnits) :
    RoundsTo units (shortest tie units).digits (shortest tie units).exponent := by
  rcases firstHit_cases tie units 24 (decimalBound units) with inside | last
  · exact inside
  · rw [shortest, last]
    exact roundsTo_lastGrid magnitude small

/-! ## Reading a decimal of the interval -/

section

variable (magnitude : 0 < units) (inside : RoundsTo units digits exponent)
include inside

/-- A whole decimal may be written with a zero after the point. -/
theorem roundsTo_point (whole : 0 ≤ exponent) :
    RoundsTo units (digits * 10 ^ exponent.toNat * 10) (-1) := by
  unfold RoundsTo at inside ⊢
  rw [gridStep_of_nonneg whole] at inside
  rw [gridStep_of_neg (by decide)]
  dsimp only at inside ⊢
  generalize 2 ^ unitBits = unit at inside ⊢
  have tenfold : 4 * (digits * 10 ^ exponent.toNat * 10 * unit) =
      4 * (digits * (10 ^ exponent.toNat * unit)) * 10 := by
    simp only [Nat.mul_assoc, Nat.mul_comm unit 10]
  rw [tenfold]
  exact (holds_mul (show 0 < 10 by decide)).trans inside

include magnitude

/-- A decimal that rounds to a magnitude is between one and six quarters of it. -/
theorem bounds_of_roundsTo :
    2 * (units * (gridStep exponent).2) ≤ 4 * (digits * (gridStep exponent).1) ∧
      4 * (digits * (gridStep exponent).1) ≤ 6 * (units * (gridStep exponent).2) := by
  obtain ⟨low, high, -⟩ := bounds_of_holds inside
  have narrow := Nat.mul_le_mul_right (gridStep exponent).2 (spacing_le magnitude)
  have gap := Nat.mul_le_mul_right (gridStep exponent).2 (gapBelow_le units)
  rw [Nat.mul_assoc] at gap
  omega

theorem digits_ne_zero_of_roundsTo : digits ≠ 0 := by
  rintro rfl
  have low := (bounds_of_roundsTo magnitude inside).1
  have := Nat.mul_pos magnitude (gridStep_pos exponent).2
  omega

/-- Powers of ten beyond all numbers do not occur. -/
theorem exponent_le_of_roundsTo (small : units < overflowUnits) : exponent ≤ 400 := by
  apply Int.le_of_not_gt
  intro large
  have positive := Nat.pos_of_ne_zero (digits_ne_zero_of_roundsTo magnitude inside)
  obtain ⟨-, high⟩ := bounds_of_roundsTo magnitude inside
  rw [gridStep_of_nonneg (by omega)] at high
  dsimp only at high
  rw [Nat.mul_one] at high
  have step {limit : Nat} (below : limit ≤ exponent.toNat) :
      10 ^ limit * 2 ^ unitBits ≤ digits * (10 ^ exponent.toNat * 2 ^ unitBits) :=
    Nat.le_trans (Nat.mul_le_mul_right _ (Nat.pow_le_pow_right (by decide) below))
      (Nat.le_mul_of_pos_left _ positive)
  have step := step (show 400 ≤ exponent.toNat by omega)
  have beyond : 6 * overflowUnits < 4 * (10 ^ (400 : Nat) * 2 ^ unitBits) := by decide +kernel
  generalize 10 ^ (400 : Nat) * 2 ^ unitBits = bound at step beyond
  omega

/-- Decimals below all numbers do not occur. -/
theorem places_ge_of_roundsTo : (-400 : Int) ≤ digits.log2 / 3 + 1 + exponent := by
  apply Int.le_of_not_gt
  intro tiny
  obtain ⟨low, -⟩ := bounds_of_roundsTo magnitude inside
  rw [gridStep_of_neg (by omega)] at low
  dsimp only at low
  -- three bits make at most one place
  have few : digits ≤ 10 ^ (digits.log2 / 3 + 1) :=
    calc digits
        ≤ 2 ^ (digits.log2 + 1) := Nat.le_of_lt Nat.lt_log2_self
      _ ≤ 2 ^ (3 * (digits.log2 / 3 + 1)) := Nat.pow_le_pow_right (by decide) (by omega)
      _ = 8 ^ (digits.log2 / 3 + 1) := by rw [Nat.pow_mul]
      _ ≤ 10 ^ (digits.log2 / 3 + 1) := Nat.pow_le_pow_left (by decide) _
  have fraction {limit : Nat} (below : digits.log2 / 3 + 1 + limit ≤ (-exponent).toNat) :
      10 ^ (digits.log2 / 3 + 1) * 10 ^ limit ≤ 10 ^ (-exponent).toNat := by
    rw [← Nat.pow_add]
    exact Nat.pow_le_pow_right (by decide) below
  have fraction := fraction (show digits.log2 / 3 + 1 + 400 ≤ (-exponent).toNat by omega)
  have beyond : 2 * 2 ^ unitBits < 10 ^ (400 : Nat) := by decide +kernel
  generalize 10 ^ (400 : Nat) = bound at fraction beyond
  have positive : 0 < 10 ^ (digits.log2 / 3 + 1) := Nat.pow_pos (by decide)
  have whole := Nat.mul_le_mul_right (10 ^ (-exponent).toNat) magnitude
  have above := Nat.mul_le_mul_right (2 ^ unitBits) few
  have below := Nat.mul_lt_mul_of_pos_left beyond positive
  rw [Nat.mul_left_comm] at below
  omega

/-- **A decimal that rounds to a magnitude reads back as the number.** -/
theorem ofDecimal_of_roundsTo (negative : Bool) (representable : Representable units) :
    ofDecimal negative digits exponent = .finite negative units representable := by
  have large := exponent_le_of_roundsTo magnitude inside representable.1
  have small := places_ge_of_roundsTo magnitude inside
  unfold ofDecimal
  dsimp only
  rw [if_neg (digits_ne_zero_of_roundsTo magnitude inside), if_neg (by omega), if_neg (by omega)]
  unfold RoundsTo at inside
  split
  · next whole =>
      rw [gridStep_of_nonneg whole] at inside
      rw [ofRatio, Nat.mul_assoc]
      exact round_of_holds Nat.one_pos magnitude representable inside
  · next fractional =>
      rw [gridStep_of_neg (by omega)] at inside
      exact round_of_holds (Nat.pow_pos (by decide)) magnitude representable inside

end

end Binary64

end Reconciliation
