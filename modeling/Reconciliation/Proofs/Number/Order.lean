import Reconciliation.Proofs.Number.Rounding

/-! # The order of numbers and rounding

The order of numbers is that of their places on one line of whole numbers, on which the infinities
lie beyond every finite number (`Binary64.le_iff_place`). Rounding respects it, across the bounds of
binades too (`Binary64.roundUnits_mono`), and so do the sum and the product of numbers that are not
negative (`Binary64.add_le_add`, `Binary64.mul_le_mul`).
-/

namespace Reconciliation

-- Powers stay those of the core library, whatever else is imported beside this module.
attribute [local instance (high)] instPowNat

namespace Binary64

variable {a b c d : Binary64}

/-! ## Places -/

/-- Where a number lies in the order, in units. -/
def place? : Binary64 → Option Int
  | .nan => none
  | .infinite negative => some (signedUnits negative overflowUnits)
  | .finite negative units _ => some (signedUnits negative units)

theorem overflowUnits_pos : 0 < overflowUnits :=
  Nat.two_pow_pos _

theorem signedUnits_false (units : Nat) : signedUnits false units = units := rfl

theorem signedUnits_true (units : Nat) : signedUnits true units = -(units : Int) := rfl

theorem signedUnits_le (negative : Bool) (units : Nat) : signedUnits negative units ≤ units := by
  unfold signedUnits
  split <;> omega

theorem signedUnits_lt_overflow {units : Nat} (small : units < overflowUnits) (negative : Bool) :
    -(overflowUnits : Int) < signedUnits negative units ∧
      signedUnits negative units < overflowUnits := by
  unfold signedUnits
  split <;> omega

theorem exists_mem_some_le {i j : Int} : (∃ i' ∈ some i, ∃ j' ∈ some j, i' ≤ j') ↔ i ≤ j := by
  simp only [Option.mem_some_iff, exists_eq_left']

theorem le_iff_place : a.le b = true ↔ ∃ i ∈ a.place?, ∃ j ∈ b.place?, i ≤ j := by
  have positive := overflowUnits_pos
  cases a with
  | nan => exact ⟨fun below => (by cases below), by rintro ⟨_, ⟨⟩, _⟩⟩
  | infinite s =>
      cases b with
      | nan => exact ⟨fun below => (by cases below), by rintro ⟨_, _, _, ⟨⟩, _⟩⟩
      | infinite t =>
          rw [place?, place?, exists_mem_some_le]
          generalize overflowUnits = bound at *
          cases s <;> cases t <;>
            simp only [le, signedUnits_true, signedUnits_false, Bool.not_true, Bool.not_false,
              Bool.or_true, Bool.or_false, Bool.false_eq_true, true_iff, false_iff] <;>
            omega
      | finite t v representable =>
          have inside := signedUnits_lt_overflow representable.1 t
          rw [place?, place?, exists_mem_some_le]
          generalize overflowUnits = bound at *
          cases s <;>
            simp only [le, signedUnits_true, signedUnits_false, Bool.false_eq_true, true_iff,
              false_iff] <;>
            omega
  | finite s u representable =>
      have inside := signedUnits_lt_overflow representable.1 s
      cases b with
      | nan => exact ⟨fun below => (by cases below), by rintro ⟨_, _, _, ⟨⟩, _⟩⟩
      | infinite t =>
          rw [place?, place?, exists_mem_some_le]
          generalize overflowUnits = bound at *
          cases t <;>
            simp only [le, signedUnits_true, signedUnits_false, Bool.not_true, Bool.not_false,
              Bool.false_eq_true, true_iff, false_iff] <;>
            omega
      | finite t v _ => rw [place?, place?, exists_mem_some_le, le, decide_eq_true_eq]

theorem le_trans (first : a.le b = true) (second : b.le c = true) : a.le c = true := by
  rw [le_iff_place] at *
  obtain ⟨i, low, j, middle, below⟩ := first
  obtain ⟨j', middle', k, high, above⟩ := second
  obtain rfl := Option.mem_unique middle middle'
  exact ⟨i, low, k, high, Int.le_trans below above⟩

/-- Equality of numbers is symmetric. -/
theorem eq_swap (a b : Binary64) : a.eq b = b.eq a :=
  Bool.and_comm _ _

/-- A finite number as a whole number of units. -/
def toUnits : Binary64 → Int
  | .finite negative units _ => signedUnits negative units
  | _ => 0

section

variable (left : a.isFinite = true) (right : b.isFinite = true)
include left right

theorem le_iff_toUnits : a.le b = true ↔ a.toUnits ≤ b.toUnits := by
  cases a with
  | nan => cases left
  | infinite => cases left
  | finite =>
      cases b with
      | nan => cases right
      | infinite => cases right
      | finite => exact decide_eq_true_iff

omit right in
theorem le_self : a.le a = true :=
  (le_iff_toUnits left left).mpr (Int.le_refl _)

theorem lt_iff_toUnits : a.lt b = true ↔ a.toUnits < b.toUnits := by
  rw [lt, Bool.and_eq_true, Bool.not_eq_true', ← Bool.not_eq_true, le_iff_toUnits left right,
    le_iff_toUnits right left]
  omega

theorem eq_iff_toUnits : a.eq b = true ↔ a.toUnits = b.toUnits := by
  rw [eq, Bool.and_eq_true, le_iff_toUnits left right, le_iff_toUnits right left]
  omega

omit right in
theorem greater_eq_ite : a.greater b = if a.lt b then b else a := by
  have number : a ≠ .nan := by
    rintro rfl
    cases left
  simp only [greater, number, false_or]

omit right in
theorem le_greater_left : a.le (a.greater b) = true := by
  rw [greater_eq_ite left]
  split
  · next below => exact (Bool.and_eq_true_iff.mp below).1
  · exact le_self left

theorem le_greater_right : b.le (a.greater b) = true := by
  rw [greater_eq_ite left]
  split
  · exact le_self right
  · next notBelow =>
      rw [lt_iff_toUnits left right] at notBelow
      exact (le_iff_toUnits right left).mpr (Int.not_lt.mp notBelow)

end

/-- The greater of two numbers is one of them. -/
theorem greater_eq_or (a b : Binary64) : a.greater b = b ∨ a.greater b = a := by
  unfold greater
  split
  · exact .inl rfl
  · exact .inr rfl

/-! ## Zero -/

theorem signedUnits_eq_zero_iff {negative : Bool} {units : Nat} :
    signedUnits negative units = 0 ↔ units = 0 := by
  cases negative <;> simp only [signedUnits_true, signedUnits_false] <;> omega

/-- The zeros of both signs have one place. -/
theorem eq_zero_iff_place : a.eq zero = true ↔ a.place? = some 0 := by
  cases a with
  | nan => exact iff_of_false nofun nofun
  | infinite negative =>
      refine iff_of_false (by cases negative <;> nofun) ?_
      rw [place?, Option.some_inj, signedUnits_eq_zero_iff]
      exact Nat.ne_of_gt overflowUnits_pos
  | finite negative units representable =>
      rw [eq_iff_toUnits rfl rfl, place?, Option.some_inj]
      rfl

theorem eq_zero_iff :
    a.eq zero = true ↔ ∃ negative, a = .finite negative 0 representable_zero := by
  rw [eq_zero_iff_place]
  constructor
  · intro place
    cases a with
    | nan => cases place
    | infinite negative =>
        have nothing := signedUnits_eq_zero_iff.mp (Option.some.inj place)
        exact absurd nothing (Nat.ne_of_gt overflowUnits_pos)
    | finite negative units representable =>
        obtain rfl := signedUnits_eq_zero_iff.mp (Option.some.inj place)
        exact ⟨negative, rfl⟩
  · rintro ⟨negative, rfl⟩
    exact congrArg some (signedUnits_eq_zero_iff.mpr rfl)

/-- What is not below zero is no number or lies from zero on. -/
theorem lt_zero_eq_false_iff : a.lt zero = false ↔ a = .nan ∨ zero.le a = true := by
  cases a with
  | nan => exact iff_of_true rfl (.inl rfl)
  | infinite negative => cases negative <;> simp [lt, le, zero]
  | finite negative units representable =>
      have number : finite negative units representable ≠ .nan := by
        intro none
        cases none
      rw [← Bool.not_eq_true, lt_iff_toUnits rfl rfl, le_iff_toUnits rfl rfl, Int.not_lt,
        or_iff_right number]

/-! ## Rounding -/

section

variable {num other den units : Nat} (positive : 0 < den)
include positive

/-- A ratio does not round beyond a multiple of its spacing. -/
theorem roundUnits_le (whole : spacing (num / den) ∣ units) (below : num ≤ units * den) :
    roundUnits num den ≤ units := by
  unfold roundUnits
  dsimp only
  have stepPositive := spacing_pos (num / den)
  generalize spacing (num / den) = step at *
  obtain ⟨count, rfl⟩ := whole
  have cellPositive : 0 < den * step := Nat.mul_pos positive stepPositive
  have place : step * count * den = den * step * count := by rw [Nat.mul_comm, Nat.mul_assoc]
  rw [place] at below
  rw [Nat.mul_comm step]
  generalize den * step = cell at *
  rcases Nat.lt_or_eq_of_le (Nat.div_le_of_le_mul below) with lesser | same
  · split
    · exact Nat.mul_le_mul_right step lesser
    · exact Nat.mul_le_mul_right step (Nat.le_of_lt lesser)
  · -- the ratio is the multiple itself, so nothing is left to round up
    have split := Nat.div_add_mod num cell
    rw [same] at split ⊢
    exact Nat.le_of_eq (if_neg (by omega))

/-- A ratio does not round below a multiple of its spacing. -/
theorem le_roundUnits (whole : spacing (num / den) ∣ units) (above : units * den ≤ num) :
    units ≤ roundUnits num den := by
  unfold roundUnits
  dsimp only
  have stepPositive := spacing_pos (num / den)
  generalize spacing (num / den) = step at *
  obtain ⟨count, rfl⟩ := whole
  have place : step * count * den = count * (den * step) := by
    rw [Nat.mul_comm step, Nat.mul_assoc, Nat.mul_comm step]
  rw [place] at above
  rw [Nat.mul_comm step]
  have enough : count ≤ num / (den * step) :=
    (Nat.le_div_iff_mul_le (Nat.mul_pos positive stepPositive)).mpr above
  split
  · exact Nat.mul_le_mul_right step (Nat.le_succ_of_le enough)
  · exact Nat.mul_le_mul_right step enough

/-- Within a binade the greater ratio lies in a later cell of the grid, or further up in the same
cell. -/
theorem roundUnits_mono_of_spacing_eq (same : spacing (num / den) = spacing (other / den))
    (below : num ≤ other) : roundUnits num den ≤ roundUnits other den := by
  have stepPositive := spacing_pos (num / den)
  have cellPositive : 0 < den * spacing (num / den) := Nat.mul_pos positive stepPositive
  have counts := Nat.div_le_div_right (c := den * spacing (num / den)) below
  rcases Nat.lt_or_eq_of_le counts with earlier | level
  · -- the end of the lower cell separates the ratios
    have upper := Nat.lt_mul_div_succ num cellPositive
    have lower := Nat.mul_div_le other (den * spacing (num / den))
    have apart : den * spacing (num / den) * (num / (den * spacing (num / den)) + 1) ≤
        den * spacing (num / den) * (other / (den * spacing (num / den))) :=
      Nat.mul_le_mul_left _ earlier
    generalize num / (den * spacing (num / den)) + 1 = count at *
    have place : spacing (num / den) * count * den = den * spacing (num / den) * count := by
      rw [Nat.mul_comm, Nat.mul_assoc]
    exact Nat.le_trans
      (roundUnits_le positive (Nat.dvd_mul_right _ count) (by omega))
      (le_roundUnits positive (same ▸ Nat.dvd_mul_right _ count) (by omega))
  · have lower := Nat.div_add_mod num (den * spacing (num / den))
    have upper := Nat.div_add_mod other (den * spacing (num / den))
    unfold roundUnits
    dsimp only
    rw [← same]
    generalize spacing (num / den) = step at *
    rw [← level] at upper ⊢
    generalize num / (den * step) = count at *
    have further := Nat.mul_le_mul_right step (Nat.le_succ count)
    split
    · exact Nat.le_of_eq (if_pos (by omega)).symm
    · split
      · exact further
      · exact Nat.le_refl _

omit positive in
theorem log2_mono (below : num ≤ other) : num.log2 ≤ other.log2 := by
  by_cases zero : num = 0
  · rw [zero, Nat.log2_zero]
    exact Nat.zero_le _
  · have nonzero : other ≠ 0 := by omega
    exact (Nat.le_log2 nonzero).mpr (Nat.le_trans (Nat.log2_self_le zero) below)

/-- **Rounding respects the order**, across the bounds of binades too. -/
theorem roundUnits_mono (below : num ≤ other) : roundUnits num den ≤ roundUnits other den := by
  have quotients : num / den ≤ other / den := Nat.div_le_div_right below
  rcases Nat.lt_or_eq_of_le (log2_mono quotients) with earlier | level
  · -- the end of the lower binade separates the ratios
    calc roundUnits num den
        ≤ 2 ^ ((num / den).log2 + 1) := by
          apply roundUnits_le positive (spacing_dvd_two_pow_log2 _)
          exact Nat.le_of_lt ((Nat.div_lt_iff_lt_mul positive).mp Nat.lt_log2_self)
      _ ≤ 2 ^ (other / den).log2 := Nat.pow_le_pow_right (by decide) earlier
      _ ≤ roundUnits other den := by
          apply le_roundUnits positive (Nat.pow_dvd_pow 2 (by unfold precision; omega))
          exact (Nat.le_div_iff_mul_le positive).mp
            (Nat.log2_self_le (by rintro zero; rw [zero] at earlier; exact absurd earlier (by simp)))
  · exact roundUnits_mono_of_spacing_eq positive (spacing_eq_of_log2_eq level) below

end

/-! ## Arithmetic of numbers that are not negative -/

theorem roundUnits_zero {den : Nat} (positive : 0 < den) : roundUnits 0 den = 0 := by
  apply Nat.le_zero.mp
  apply roundUnits_le positive (Nat.dvd_zero _)
  exact Nat.le_of_eq (Nat.zero_mul den).symm

theorem round_zero {den : Nat} (positive : 0 < den) (negative : Bool) :
    round negative 0 den = .finite negative 0 representable_zero := by
  have nothing := roundUnits_zero positive
  unfold round
  simp only [nothing]
  exact dif_pos overflowUnits_pos

theorem place?_round (negative : Bool) (num den : Nat) : (round negative num den).place? =
    some (signedUnits negative (min (roundUnits num den) overflowUnits)) := by
  unfold round
  split
  · next fits =>
      rw [Nat.min_eq_left (Nat.le_of_lt fits)]
      rfl
  · next large =>
      rw [Nat.min_eq_right (Nat.le_of_not_lt large)]
      rfl

/-- The greater magnitude rounds to no less. Only a zero may have a sign. -/
theorem round_le_round {num other den : Nat} (positive : 0 < den) (below : num ≤ other) (s : Bool)
    {t : Bool} (sign : t = true → other = 0) :
    (round s num den).le (round t other den) = true := by
  cases t with
  | false =>
      have capped : min (roundUnits num den) overflowUnits ≤
          min (roundUnits other den) overflowUnits :=
        Nat.le_min_of_le_of_le
          (Nat.le_trans (Nat.min_le_left _ _) (roundUnits_mono positive below))
          (Nat.min_le_right _ _)
      rw [le_iff_place]
      exact ⟨_, place?_round s num den, _, place?_round false other den,
        Int.le_trans (signedUnits_le s _) (Int.ofNat_le.mpr capped)⟩
  | true =>
      obtain rfl := sign rfl
      obtain rfl := Nat.le_zero.mp below
      rw [round_zero positive, round_zero positive]
      cases s <;> rfl

theorem round_le_infinite (negative : Bool) (num den : Nat) :
    (round negative num den).le (.infinite false) = true := by
  unfold round
  split
  · rfl
  · exact Bool.or_true negative

theorem eq_infinite_of_le (above : (infinite false).le a = true) : a = .infinite false := by
  cases a with
  | nan => cases above
  | infinite s =>
      cases s with
      | false => rfl
      | true => cases above
  | finite => cases above

/-- Whether a number lies beyond all finite ones, on either side. -/
def isInfinite : Binary64 → Bool
  | .infinite _ => true
  | _ => false

theorem isInfinite_iff : a.isInfinite = true ↔ ∃ negative, a = .infinite negative := by
  cases a <;> simp [isInfinite]

/-- A number is finite and not negative, and has the given magnitude. Zero may have a sign. -/
def Magnitude (number : Binary64) (units : Nat) : Prop :=
  ∃ negative representable, number = .finite negative units representable ∧
    (negative = true → units = 0)

theorem exists_magnitude (low : zero.le a = true) (finite : a.isFinite = true) :
    ∃ units, a.Magnitude units := by
  cases a with
  | nan => cases finite
  | infinite => cases finite
  | finite s u representable =>
      refine ⟨u, s, representable, rfl, ?_⟩
      rintro rfl
      have low : 0 ≤ -(u : Int) := of_decide_eq_true low
      omega

theorem magnitude_abs (finite : a.isFinite = true) : ∃ units, a.abs.Magnitude units := by
  cases a with
  | nan => cases finite
  | infinite => cases finite
  | finite s u representable => exact ⟨u, false, representable, rfl, nofun⟩

namespace Magnitude

variable {u v : Nat} (left : a.Magnitude u) (right : b.Magnitude v)

theorem signedUnits_eq {negative : Bool} (sign : negative = true → u = 0) :
    signedUnits negative u = u := by
  cases negative with
  | false => rfl
  | true =>
      rw [sign rfl]
      rfl

include left right

theorem le_iff : a.le b = true ↔ u ≤ v := by
  obtain ⟨s, _, rfl, low⟩ := left
  obtain ⟨t, _, rfl, high⟩ := right
  rw [le, decide_eq_true_iff, signedUnits_eq low, signedUnits_eq high, Int.ofNat_le]

theorem add_eq_round : ∃ sign, (sign = true → u + v = 0) ∧ a.add b = round sign (u + v) 1 := by
  obtain ⟨s, _, rfl, low⟩ := left
  obtain ⟨t, _, rfl, high⟩ := right
  have sum : signedUnits s u + signedUnits t v = ((u + v : Nat) : Int) := by
    rw [signedUnits_eq low, signedUnits_eq high, Int.natCast_add]
  unfold add
  dsimp only
  rw [sum]
  by_cases zero : u + v = 0
  · refine ⟨s && t, fun _ => zero, ?_⟩
    rw [zero, round_zero Nat.one_pos]
    exact if_pos rfl
  · refine ⟨false, nofun, ?_⟩
    rw [if_neg (by omega), decide_eq_false (by omega), Int.natAbs_natCast]

theorem mul_eq_round :
    ∃ sign, (sign = true → u * v = 0) ∧ a.mul b = round sign (u * v) (2 ^ unitBits) := by
  obtain ⟨s, _, rfl, low⟩ := left
  obtain ⟨t, _, rfl, high⟩ := right
  refine ⟨s != t, ?_, rfl⟩
  intro differ
  cases s with
  | true => rw [low rfl, Nat.zero_mul]
  | false =>
      cases t with
      | true => rw [high rfl, Nat.mul_zero]
      | false => cases differ

omit right in
/-- Nothing times infinity is no number. -/
theorem mul_infinite : a.mul (.infinite false) = if u = 0 then .nan else .infinite false := by
  obtain ⟨s, _, rfl, low⟩ := left
  rw [mul]
  cases s with
  | false => rfl
  | true => rw [low rfl, if_pos rfl, if_pos rfl]

omit right in
theorem mul_nan : a.mul .nan = .nan := by
  obtain ⟨s, _, rfl, -⟩ := left
  rfl

omit right in
theorem add_infinite (negative : Bool) : a.add (.infinite negative) = .infinite negative := by
  obtain ⟨s, _, rfl, -⟩ := left
  rfl

end Magnitude

theorem add_nan (a : Binary64) : a.add .nan = .nan := by
  cases a <;> rfl

section

variable {u v : Nat} (left : a.Magnitude u) (right : b.Magnitude v) (below : a.le b = true)
include left right below

/-- Products with one magnitude keep the order of their other factors. -/
theorem mul_le_mul {w : Nat} (factor : c.Magnitude w) : (a.mul c).le (b.mul c) = true := by
  obtain ⟨s, -, low⟩ := left.mul_eq_round factor
  obtain ⟨t, sign, high⟩ := right.mul_eq_round factor
  rw [low, high]
  exact round_le_round (Nat.two_pow_pos unitBits)
    (Nat.mul_le_mul_right w ((left.le_iff right).mp below)) s sign

/-- Sums keep the order of their terms. The second terms may be infinite. -/
theorem add_le_add (nonneg : zero.le c = true) (above : c.le d = true) :
    (a.add c).le (b.add d) = true := by
  cases c with
  | nan => cases nonneg
  | infinite s =>
      obtain rfl : s = false := by simpa [le, zero] using nonneg
      obtain rfl := eq_infinite_of_le above
      obtain ⟨_, _, rfl, -⟩ := left
      obtain ⟨_, _, rfl, -⟩ := right
      rfl
  | finite s w fits =>
      obtain ⟨w, first⟩ := exists_magnitude nonneg rfl
      obtain ⟨_, -, low⟩ := left.add_eq_round first
      rw [low]
      cases d with
      | nan => cases above
      | infinite t =>
          obtain rfl : t = false := by simpa [le] using above
          obtain ⟨_, _, rfl, -⟩ := right
          exact round_le_infinite _ _ _
      | finite t x _ =>
          obtain ⟨x, second⟩ := exists_magnitude (le_trans nonneg above) rfl
          obtain ⟨t, sign, high⟩ := right.add_eq_round second
          rw [high]
          exact round_le_round Nat.one_pos
            (Nat.add_le_add ((left.le_iff right).mp below) ((first.le_iff second).mp above)) _ sign

end

theorem Magnitude.zero_le {u : Nat} (held : a.Magnitude u) : zero.le a = true :=
  (le_iff ⟨false, representable_zero, rfl, nofun⟩ held).mpr (Nat.zero_le u)

/-- A sum of numbers that are not negative is not negative. -/
theorem zero_le_add {u : Nat} (held : a.Magnitude u) (nonneg : zero.le b = true) :
    zero.le (a.add b) = true :=
  add_le_add (a := zero) (c := zero) ⟨false, representable_zero, rfl, nofun⟩ held held.zero_le
    (by decide) nonneg

theorem eq_infinite_of_zero_le (nonneg : zero.le a = true) (infinite : a.isFinite = false) :
    a = .infinite false := by
  cases a with
  | nan => cases nonneg
  | infinite s =>
      cases s with
      | false => rfl
      | true => cases nonneg
  | finite => cases infinite

/-- A sum of numbers that are not negative is not negative, infinite ones included. -/
theorem zero_le_add_of_zero_le (left : zero.le a = true) (right : zero.le b = true) :
    zero.le (a.add b) = true := by
  cases finite : a.isFinite with
  | true =>
      obtain ⟨_, held⟩ := exists_magnitude left finite
      exact zero_le_add held right
  | false =>
      obtain rfl := eq_infinite_of_zero_le left finite
      cases b with
      | nan => cases right
      | infinite s =>
          obtain rfl : s = false := by simpa [le, zero] using right
          rfl
      | finite => rfl

/-- A product of numbers that are not negative is not negative. -/
theorem zero_le_mul {u v : Nat} (left : a.Magnitude u) (right : b.Magnitude v) :
    zero.le (a.mul b) = true := by
  obtain ⟨s, sign, product⟩ := left.mul_eq_round right
  rw [product]
  have least := round_le_round (Nat.two_pow_pos unitBits) (Nat.zero_le (u * v)) false sign
  rwa [round_zero (Nat.two_pow_pos unitBits)] at least

/-! ## Differences -/

theorem signedUnits_not (negative : Bool) (units : Nat) :
    signedUnits (!negative) units = -signedUnits negative units := by
  cases negative with
  | false => rfl
  | true => exact (Int.neg_neg _).symm

/-- A finite number differs from itself by nothing. -/
theorem abs_sub_self (finite : a.isFinite = true) : (a.sub a).abs = zero := by
  cases a with
  | nan => cases finite
  | infinite s => cases finite
  | finite s u _ =>
      have nothing : signedUnits s u + signedUnits (!s) u = 0 := by
        rw [signedUnits_not, Int.add_right_neg]
      unfold sub neg add
      dsimp only
      rw [if_pos nothing]
      rfl

theorem abs_round (negative : Bool) (num den : Nat) :
    (round negative num den).abs = round false num den := by
  unfold round
  split <;> rfl

/-- Two numbers are as far from each other in either direction. -/
theorem abs_sub_comm (a b : Binary64) : (a.sub b).abs = (b.sub a).abs := by
  cases a with
  | nan => cases b <;> rfl
  | infinite s =>
      cases b with
      | nan => rfl
      | infinite t => cases s <;> cases t <;> rfl
      | finite => rfl
  | finite s u _ =>
      cases b with
      | nan => rfl
      | infinite => rfl
      | finite t v _ =>
          have opposite : signedUnits t v + signedUnits (!s) u =
              -(signedUnits s u + signedUnits (!t) v) := by
            rw [signedUnits_not, signedUnits_not]
            omega
          unfold sub neg add
          dsimp only
          rw [opposite]
          by_cases zero : signedUnits s u + signedUnits (!t) v = 0
          · rw [if_pos zero, if_pos (by omega)]
            rfl
          · rw [if_neg zero, if_neg (by omega), abs_round, abs_round, Int.natAbs_neg]

/-! ## Whole numbers -/

theorem isFinite_ofRatio {n : Nat} (small : n < 2 ^ (64 : Nat)) (negative : Bool) :
    (ofRatio negative n 1).isFinite = true := by
  have below : n * 2 ^ unitBits < 2 ^ (unitBits + 11 + precision) := by
    rw [Nat.add_assoc, Nat.add_comm, Nat.pow_add]
    exact Nat.mul_lt_mul_of_pos_right small (Nat.two_pow_pos unitBits)
  have bound : roundUnits (n * 2 ^ unitBits) 1 ≤ 2 ^ (unitBits + 11 + precision) := by
    apply roundUnits_le Nat.one_pos
    · rw [Nat.div_one]
      exact Nat.dvd_trans (spacing_dvd_two_pow below) (Nat.pow_dvd_pow 2 (Nat.le_add_right _ _))
    · rw [Nat.mul_one]
      exact Nat.le_of_lt below
  unfold ofRatio round
  rw [dif_pos]
  · rfl
  · exact Nat.lt_of_le_of_lt bound (Nat.pow_lt_pow_right (by decide) (by decide))

/-- A whole number that is not zero does not round to zero. -/
theorem ofRatio_eq_zero_iff {negative : Bool} {n : Nat} :
    (ofRatio negative n 1).eq zero = true ↔ n = 0 := by
  constructor
  · intro same
    rw [eq_zero_iff_place, ofRatio, place?_round, Option.some_inj, signedUnits_eq_zero_iff] at same
    have rounded : roundUnits (n * 2 ^ unitBits) 1 = 0 := by
      have := overflowUnits_pos
      omega
    rw [← Nat.le_zero]
    apply Nat.le_of_not_lt
    intro positive
    have least : spacing (n * 2 ^ unitBits) ≤ roundUnits (n * 2 ^ unitBits) 1 := by
      apply le_roundUnits Nat.one_pos
      · exact ⟨1, by rw [Nat.mul_one, Nat.div_one]⟩
      · rw [Nat.mul_one]
        exact spacing_le (Nat.mul_pos positive (Nat.two_pow_pos unitBits))
    rw [rounded] at least
    exact absurd (spacing_pos _) (Nat.not_lt.mpr least)
  · rintro rfl
    rw [ofRatio, Nat.zero_mul, round_zero Nat.one_pos]
    cases negative <;> rfl

theorem ofNat_eq_zero_iff {n : Nat} : (ofNat n).eq zero = true ↔ n = 0 :=
  ofRatio_eq_zero_iff

theorem ofInt_eq_zero_iff {i : Int} : (ofInt i).eq zero = true ↔ i = 0 :=
  ofRatio_eq_zero_iff.trans Int.natAbs_eq_zero

/-! ## Zero as a term and as a factor -/

theorem isFinite_round {units : Nat} (representable : Representable units) (negative : Bool) :
    (round negative units 1).isFinite = true := by
  have exact := roundUnits_one (spacing_dvd_of_significant representable.2)
  unfold round
  rw [dif_pos (by rw [exact]; exact representable.1)]
  rfl

/-- Only infinity plus zero, of either sign, is infinity. -/
theorem add_zero_ne_infinite (held : b.Magnitude 0) (bounded : a ≠ .infinite false) :
    a.add b ≠ .infinite false := by
  obtain ⟨t, _, rfl, sign⟩ := held
  cases a with
  | nan => rintro ⟨⟩
  | infinite => exact bounded
  | finite s u representable =>
      have same : (signedUnits s u + signedUnits t 0).natAbs = u := by
        rw [Magnitude.signedUnits_eq sign]
        unfold signedUnits
        split <;> omega
      unfold add
      dsimp only
      rw [same]
      split
      · rintro ⟨⟩
      · have finite := isFinite_round representable
          (decide (signedUnits s u + signedUnits t 0 < 0))
        intro infinite
        rw [infinite] at finite
        cases finite

theorem le_nan (a : Binary64) : a.le .nan = false := by
  cases a <;> rfl

end Binary64

end Reconciliation
