/-! # Binary floating point numbers

Numbers of the IEEE 754 format binary64. Every finite one is a whole number of units of
`2 ^ -1074` with at most 53 significant bits, so sums, differences, products and comparisons are
exact arithmetic on whole numbers followed by one rounding to nearest, ties to even.
-/

namespace Reconciliation

-- Powers stay those of the core library, whatever else is imported beside this module.
attribute [local instance (high)] instPowNat

namespace Binary64

/-- The number one is `2 ^ unitBits` units. -/
def unitBits : Nat := 1074

/-- Significant bits of a finite number. -/
def precision : Nat := 53

/-- Magnitudes from this many units on are infinite. -/
def overflowUnits : Nat := 2 ^ (unitBits + 1024)

/-- The distance between neighbouring magnitudes around `units`. -/
def spacing (units : Nat) : Nat :=
  2 ^ (units.log2 + 1 - precision)

/-- The whole number of spacings nearest to `num / den` units, ties to even, in units. -/
def roundUnits (num den : Nat) : Nat :=
  let step := spacing (num / den)
  let count := num / (den * step)
  let excess := 2 * (num % (den * step))
  if den * step < excess ∨ (excess = den * step ∧ count % 2 = 1) then (count + 1) * step
  else count * step

/-- At most `precision` bits of `units` are significant. -/
def Significant (units : Nat) : Prop :=
  ∃ mantissa exponent : Nat, mantissa < 2 ^ precision ∧ units = mantissa * 2 ^ exponent

def Representable (units : Nat) : Prop :=
  units < overflowUnits ∧ Significant units

theorem representable_zero : Representable 0 :=
  ⟨Nat.two_pow_pos _, 0, 0, Nat.two_pow_pos _, by simp⟩

/-- Fewer than `2 ^ precision` spacings fit below a magnitude. -/
theorem div_spacing_lt (units : Nat) : units / spacing units < 2 ^ precision := by
  have below : units < 2 ^ (units.log2 + 1) := Nat.lt_log2_self
  refine Nat.div_lt_of_lt_mul (Nat.lt_of_lt_of_le below ?_)
  rw [spacing, ← Nat.pow_add]
  exact Nat.pow_le_pow_right (by decide) (by omega)

/-- Up to `2 ^ precision` spacings make a magnitude with at most `precision` significant bits. -/
theorem significant_mul_spacing {count : Nat} (units : Nat) (bound : count ≤ 2 ^ precision) :
    Significant (count * spacing units) := by
  rcases Nat.lt_or_eq_of_le bound with below | same
  · exact ⟨count, _, below, rfl⟩
  · refine ⟨1, precision + (units.log2 + 1 - precision), by decide, ?_⟩
    rw [same, spacing, ← Nat.pow_add, Nat.one_mul]

/-- Rounding leaves at most `precision` significant bits. -/
theorem roundUnits_significant (num den : Nat) : Significant (roundUnits num den) := by
  have below : num / (den * spacing (num / den)) < 2 ^ precision := by
    rw [← Nat.div_div_eq_div_mul]
    exact div_spacing_lt _
  rw [roundUnits]
  split
  · exact significant_mul_spacing _ below
  · exact significant_mul_spacing _ (Nat.le_of_lt below)

end Binary64

/-- A number of the format binary64. -/
inductive Binary64 where
  /-- No number. -/
  | nan
  /-- Beyond every finite number. -/
  | infinite (negative : Bool)
  /-- A magnitude in units of `2 ^ -1074`, with its sign; zero has both signs. -/
  | finite (negative : Bool) (units : Nat) (representable : Binary64.Representable units)
  deriving DecidableEq, Inhabited

namespace Binary64

/-- The number nearest to `± num / den` units. -/
def round (negative : Bool) (num den : Nat) : Binary64 :=
  if fits : roundUnits num den < overflowUnits then
    .finite negative (roundUnits num den) ⟨fits, roundUnits_significant num den⟩
  else .infinite negative

/-- The number nearest to `± num / den`. -/
def ofRatio (negative : Bool) (num den : Nat) : Binary64 :=
  round negative (num * 2 ^ unitBits) den

/-- The number nearest to a natural number. -/
def ofNat (n : Nat) : Binary64 :=
  ofRatio false n 1

/-- The number nearest to an integer. -/
def ofInt (i : Int) : Binary64 :=
  ofRatio (decide (i < 0)) i.natAbs 1

/-- The number nearest to `± digits * 10 ^ exponent`. Exponents far outside the range of the
format are decided by the number of digits, without the power of ten. -/
def ofDecimal (negative : Bool) (digits : Nat) (exponent : Int) : Binary64 :=
  if digits = 0 then .finite negative 0 representable_zero
  else
    let places : Int := digits.log2 / 3 + 1 + exponent
    if 400 < exponent then .infinite negative
    else if places < -400 then .finite negative 0 representable_zero
    else if 0 ≤ exponent then ofRatio negative (digits * 10 ^ exponent.toNat) 1
    else ofRatio negative digits (10 ^ (-exponent).toNat)

def zero : Binary64 := .finite false 0 representable_zero

def greatest : Binary64 :=
  .finite false ((2 ^ precision - 1) * 2 ^ (unitBits + 1024 - precision))
    ⟨by decide +kernel, _, _, by decide, rfl⟩

/-- A sign and a magnitude as a signed whole number of units. -/
def signedUnits (negative : Bool) (units : Nat) : Int :=
  if negative then -(units : Int) else units

/-- The same magnitude with the other sign. -/
def neg : Binary64 → Binary64
  | .nan => .nan
  | .infinite negative => .infinite !negative
  | .finite negative units representable => .finite (!negative) units representable

def abs : Binary64 → Binary64
  | .nan => .nan
  | .infinite _ => .infinite false
  | .finite _ units representable => .finite false units representable

/-- The sum, rounded. A zero sum is negative only if both terms are. -/
def add : Binary64 → Binary64 → Binary64
  | .finite s u _, .finite t v _ =>
    let sum := signedUnits s u + signedUnits t v
    if sum = 0 then .finite (s && t) 0 representable_zero
    else round (decide (sum < 0)) sum.natAbs 1
  | .infinite s, .infinite t => if s = t then .infinite s else .nan
  | .infinite s, .finite .. => .infinite s
  | .finite .., .infinite t => .infinite t
  | .nan, _ => .nan
  | _, .nan => .nan

def sub (a b : Binary64) : Binary64 :=
  add a b.neg

def mul : Binary64 → Binary64 → Binary64
  | .finite s u _, .finite t v _ => round (s != t) (u * v) (2 ^ unitBits)
  | .infinite s, .infinite t => .infinite (s != t)
  | .infinite s, .finite t v _ => if v = 0 then .nan else .infinite (s != t)
  | .finite s u _, .infinite t => if u = 0 then .nan else .infinite (s != t)
  | .nan, _ => .nan
  | _, .nan => .nan

/-- The order of numbers; nothing is below or above `nan`, and both zeros are equal. -/
def le : Binary64 → Binary64 → Bool
  | .finite s u _, .finite t v _ => decide (signedUnits s u ≤ signedUnits t v)
  | .infinite s, .infinite t => s || !t
  | .infinite s, .finite .. => s
  | .finite .., .infinite t => !t
  | .nan, _ => false
  | _, .nan => false

def lt (a b : Binary64) : Bool :=
  le a b && !le b a

/-- Equality of numbers; `nan` equals nothing, and both zeros are equal. -/
def eq (a b : Binary64) : Bool :=
  le a b && le b a

/-- The greater of two numbers. A number that is none gives way to the other. -/
def greater (a b : Binary64) : Binary64 :=
  if a = .nan ∨ a.lt b then b else a

def isFinite : Binary64 → Bool
  | .finite .. => true
  | _ => false

/-- The integer a finite number is, if it is one. -/
def toInt? : Binary64 → Option Int
  | .finite negative units _ =>
    if units % 2 ^ unitBits = 0 then some (signedUnits negative (units / 2 ^ unitBits)) else none
  | _ => none

end Binary64

end Reconciliation
