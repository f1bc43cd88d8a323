import Reconciliation.Number.Binary64

/-! # The shortest decimal that reads back

Every real number close enough to a binary64 magnitude rounds to it. Of the decimals among those
numbers the shortest is the one on the coarsest grid of powers of ten; where a grid has two, the
nearer one is taken.
-/

namespace Reconciliation

-- Powers stay those of the core library, whatever else is imported beside this module.
attribute [local instance (high)] instPowNat

/-- The decimal `digits * 10 ^ exponent`. -/
structure Decimal where
  digits : Nat
  exponent : Int
  deriving DecidableEq, Repr

/-- Which of two equally near decimals is taken. -/
inductive Tie where
  | up
  | even
  deriving DecidableEq, Repr

namespace Binary64

/-- The reals that round to a magnitude, in quarters of a unit. The ends round to it exactly if
its last bit is zero. -/
structure RoundingInterval where
  low : Nat
  high : Nat
  closed : Bool

/-- The rounding interval of a magnitude: half the distance to each neighbour. Below the least
magnitude of a binade the neighbours are twice as dense. -/
def roundingInterval (units : Nat) : RoundingInterval :=
  let step := spacing units
  let below := if 1 < step ∧ units = 2 ^ (precision - 1) * step then step else 2 * step
  { low := 4 * units - below, high := 4 * units + 2 * step, closed := units / step % 2 == 0 }

/-- Whether `num / den` quarters of a unit lie in the interval. -/
def RoundingInterval.holds (interval : RoundingInterval) (num den : Nat) : Bool :=
  if interval.closed then interval.low * den ≤ num && num ≤ interval.high * den
  else interval.low * den < num && num < interval.high * den

/-- The grid of multiples of `10 ^ exponent`, as a ratio of a grid step to a unit. -/
def gridStep (exponent : Int) : Nat × Nat :=
  if 0 ≤ exponent then (10 ^ exponent.toNat * 2 ^ unitBits, 1)
  else (2 ^ unitBits, 10 ^ (-exponent).toNat)

/-- The decimal of a grid that rounds to the magnitude, if there is one. -/
def gridHit? (tie : Tie) (units : Nat) (exponent : Int) : Option Decimal :=
  let (num, den) := gridStep exponent
  let interval := roundingInterval units
  let lower := units * den / num
  let excess := 2 * (units * den % num)
  let below := interval.holds (4 * lower * num) den
  let above := interval.holds (4 * (lower + 1) * num) den
  let upward := num < excess || (excess == num && (tie == .up || lower % 2 == 1))
  if below && (!above || !upward) then some ⟨lower, exponent⟩
  else if above then some ⟨lower + 1, exponent⟩
  else none

/-- The first hit on the grids from `10 ^ exponent` down, within a number of grids. -/
def firstHit (tie : Tie) (units : Nat) : (grids : Nat) → (exponent : Int) → Decimal
  | 0, exponent =>
    let (num, den) := gridStep exponent
    ⟨units * den / num, exponent⟩
  | grids + 1, exponent =>
    (gridHit? tie units exponent).getD (firstHit tie units grids (exponent - 1))

/-- A power of ten above the magnitude. -/
def decimalBound (units : Nat) : Int :=
  ((units.log2 : Int) + 1 - unitBits) * 30103 / 100000 + 2

/-- The shortest decimal that rounds to a magnitude other than zero. Seventeen digits always
suffice, so the grids run out only after the answer. -/
def shortest (tie : Tie) (units : Nat) : Decimal :=
  firstHit tie units 24 (decimalBound units)

end Binary64

end Reconciliation
