import Reconciliation.Proofs.Number.NumeralReading
import Reconciliation.Scalar

/-! # Scalars coerced to integers

A scalar that spells an integer of 64 bits is coerced to it, any other to the whole number that its
numeric view is (`Scalar.coerceInteger_eq_integer_iff`). Integers and binary64 numbers so keep their
values. A text is read as the number nearest to it, and this may be a whole number although the text
denotes another one, or none: coercion keeps the value of a scalar exactly if this is not so
(`Scalar.coerceInteger_keeps`).
-/

namespace Reconciliation

-- Powers stay those of the core library, whatever else is imported beside this module.
attribute [local instance (high)] instPowNat

namespace Scalar

/-! ## What is coerced -/

/-- A scalar is a number, or a text of one, blanks around it aside. -/
def Denotes : Scalar → ℚ → Prop
  | .integer value, q => q = value.toInt
  | .float value, q => value.value? = some q
  | .text value, q => Numeral.Denotes (Text.trimBoth value.toList) q

/-- A scalar is an integer, or a text of one with neither point nor exponent. -/
def SpellsInteger : Scalar → Int → Prop
  | .integer value, i => i = value.toInt
  | .float _, _ => False
  | .text value, i => Numeral.IntegerText i (Text.trimBoth value.toList)

/-- The numeric view of a scalar is an integer. -/
def ViewedAs (scalar : Scalar) (i : Int) : Prop :=
  ∃ number, scalar.number? = some number ∧ number.value? = some (i : ℚ)

variable {scalar : Scalar} {i : Int64} {n : Int} {number : Binary64}

theorem integerOf?_eq_some_iff : integerOf? number = some i ↔
    number.value? = some (i.toInt : ℚ) ∧ i.toInt.natAbs < integerBound := by
  unfold integerOf?
  rw [Option.map_eq_some_iff]
  constructor
  · rintro ⟨n, read, rfl⟩
    obtain ⟨whole, small⟩ := Option.filter_eq_some_iff.mp read
    have bounded : n.natAbs < 2 ^ (63 : Nat) := of_decide_eq_true small
    rw [Int64.toInt_ofInt_of_le (by omega) (by omega)]
    exact ⟨Binary64.toInt?_eq_some_iff.mp whole, bounded⟩
  · rintro ⟨held, small⟩
    refine ⟨i.toInt, ?_, Int64.ofInt_toInt i⟩
    exact Option.filter_eq_some_iff.mpr
      ⟨Binary64.toInt?_eq_some_iff.mpr held, decide_eq_true small⟩

theorem getD_map_integer {read : Option Int64} (other : ∀ i, scalar ≠ .integer i) :
    (read.map integer).getD scalar = .integer i ↔ read = some i := by
  cases read with
  | none => simp [other]
  | some j => simp

/-- A text that spells an integer of more than 64 bits is left as it is, since the number nearest to
the integer does not have fewer. -/
theorem coerceInteger_text_eq_iff {value : String} : (text value).coerceInteger = .integer i ↔
    (text value).SpellsInteger i.toInt ∨
      (∀ n, ¬(text value).SpellsInteger n) ∧ (text value).ViewedAs i.toInt ∧
        i.toInt.natAbs < integerBound := by
  unfold coerceInteger SpellsInteger ViewedAs number?
  dsimp only
  generalize Text.trimBoth value.toList = trimmed
  have low := i.le_toInt
  have high := i.toInt_lt
  cases read : integerOfText? trimmed with
  | some n =>
      obtain ⟨spelled, least, most⟩ := integerOfText?_eq_some_iff.mp read
      rw [or_iff_left fun none => none.1 n spelled, integer.injEq]
      constructor
      · rintro rfl
        rwa [Int64.toInt_ofInt_of_le least most]
      · intro otherwise
        have same := integerOfText?_eq_some_iff.mpr ⟨otherwise, low, high⟩
        rw [read, Option.some_inj] at same
        rw [same, Int64.ofInt_toInt]
  | none =>
      dsimp only
      rw [getD_map_integer (by rintro i ⟨⟩), Option.bind_eq_some_iff]
      constructor
      · rintro ⟨number, whole, found⟩
        obtain ⟨held, small⟩ := integerOf?_eq_some_iff.mp found
        refine .inr ⟨?_, ⟨number, ?_, held⟩, small⟩
        · intro n spelled
          have large := Binary64.integerBound_le_natAbs spelled
            (integerBound_le_of_not_read spelled read) whole (Binary64.toInt?_eq_some_iff.mpr held)
          omega
        · exact Option.filter_eq_some_iff.mpr ⟨whole, (Binary64.value?_eq_some_iff.mp held).1⟩
      · rintro (spelled | ⟨-, ⟨number, view, held⟩, small⟩)
        · cases read.symm.trans (integerOfText?_eq_some_iff.mpr ⟨spelled, low, high⟩)
        · exact ⟨number, (Option.filter_eq_some_iff.mp view).1,
            integerOf?_eq_some_iff.mpr ⟨held, small⟩⟩

/-- An integer is what a scalar spells as one, else the whole number that its numeric view is. -/
theorem coerceInteger_eq_integer_iff : scalar.coerceInteger = .integer i ↔
    scalar.SpellsInteger i.toInt ∨
      (∀ n, ¬scalar.SpellsInteger n) ∧ scalar.ViewedAs i.toInt ∧
        i.toInt.natAbs < integerBound := by
  cases scalar with
  | text value => exact coerceInteger_text_eq_iff
  | integer value =>
      change integer value = integer i ↔ i.toInt = value.toInt ∨ (∀ n : Int, ¬n = value.toInt) ∧ _
      rw [or_iff_left fun none => none.1 _ rfl, Int64.toInt_inj, integer.injEq, eq_comm]
  | float value =>
      change ((integerOf? value).map integer).getD (.float value) = .integer i ↔
        False ∨ (Int → ¬False) ∧ _
      rw [getD_map_integer (by rintro i ⟨⟩), integerOf?_eq_some_iff, false_or,
        and_iff_right fun _ => id]
      apply and_congr_left'
      constructor
      · intro held
        exact ⟨value, rfl, held⟩
      · rintro ⟨number, ⟨⟩, held⟩
        exact held

theorem coerceInteger_eq_self_or (scalar : Scalar) :
    scalar.coerceInteger = scalar ∨ ∃ i, scalar.coerceInteger = .integer i := by
  have either (read : Option Int64) (scalar : Scalar) :
      (read.map integer).getD scalar = scalar ∨
        ∃ i, (read.map integer).getD scalar = .integer i := by
    cases read with
    | none => exact .inl rfl
    | some i => exact .inr ⟨i, rfl⟩
  cases scalar with
  | integer value => exact .inl rfl
  | float value => exact either _ _
  | text value =>
      unfold coerceInteger
      dsimp only
      split
      · next i read => exact .inr ⟨_, rfl⟩
      · exact either _ _

theorem coerceInteger_idempotent (scalar : Scalar) :
    scalar.coerceInteger.coerceInteger = scalar.coerceInteger := by
  rcases scalar.coerceInteger_eq_self_or with same | ⟨i, coerced⟩
  · rw [same, same]
  · rw [coerced]
    rfl

/-! ## Values kept -/

theorem Denotes.unique {q r : ℚ} (left : scalar.Denotes q) (right : scalar.Denotes r) : q = r := by
  cases scalar with
  | integer value => exact Eq.trans left (Eq.symm right)
  | float value => exact Option.some.inj (Eq.trans (Eq.symm left) right)
  | text value => exact Numeral.Denotes.unique left right

theorem SpellsInteger.denotes (spells : scalar.SpellsInteger n) : scalar.Denotes n := by
  cases scalar with
  | integer value => exact congrArg Int.cast spells
  | float value => cases spells
  | text value => exact Numeral.IntegerText.denotes spells

/-- An integer that is the rational of some number is the numeric view of what denotes it. -/
theorem Denotes.viewedAs (denotes : scalar.Denotes n) (held : number.value? = some (n : ℚ)) :
    scalar.ViewedAs n := by
  cases scalar with
  | integer value =>
      obtain rfl : n = value.toInt := Int.cast_injective denotes
      exact ⟨_, rfl, Binary64.value?_ofInt held⟩
  | float value => exact ⟨value, rfl, denotes⟩
  | text value =>
      obtain ⟨read, whole, kept⟩ := Binary64.exists_ofText?_of_denotes denotes held
      exact ⟨read, Option.filter_eq_some_iff.mpr ⟨whole, (Binary64.value?_eq_some_iff.mp kept).1⟩,
        kept⟩

/-- A scalar is coerced to the integer that it denotes, and left as it is if it denotes none. -/
structure KeepsValue (scalar : Scalar) : Prop where
  same : ∀ i, scalar.coerceInteger = .integer i → scalar.Denotes i.toInt
  unchanged : (∀ n : Int, ¬scalar.Denotes n) → scalar.coerceInteger = scalar

/-- A scalar that is not spelled as an integer has the numeric view of one that it does not
denote. -/
structure MisreadAs (scalar : Scalar) (n : Int) : Prop where
  unspelled : ∀ m, ¬scalar.SpellsInteger m
  viewed : scalar.ViewedAs n
  small : n.natAbs < integerBound
  other : ¬scalar.Denotes n

/-- A scalar with a numeric view denotes some rational. -/
theorem ViewedAs.exists_denotes (viewed : scalar.ViewedAs n) : ∃ q, scalar.Denotes q := by
  obtain ⟨number, view, held⟩ := viewed
  cases scalar with
  | integer value => exact ⟨value.toInt, rfl⟩
  | float value =>
      cases view
      exact ⟨n, held⟩
  | text value =>
      obtain ⟨read, finite⟩ := Option.filter_eq_some_iff.mp view
      obtain ⟨negative, numeral, spelled, -⟩ := Binary64.exists_spelled_of_ofText? finite read
      exact ⟨_, negative, numeral, spelled, rfl⟩

theorem MisreadAs.exists_other (misread : scalar.MisreadAs n) :
    ∃ q, scalar.Denotes q ∧ q ≠ n := by
  obtain ⟨q, denotes⟩ := misread.viewed.exists_denotes
  refine ⟨q, denotes, ?_⟩
  rintro rfl
  exact misread.other denotes

theorem MisreadAs.isNumber_eq_false (misread : scalar.MisreadAs n) : scalar.isNumber = false := by
  cases scalar with
  | integer value => exact absurd rfl (misread.unspelled value.toInt)
  | float value =>
      obtain ⟨number, ⟨⟩, held⟩ := misread.viewed
      exact absurd held misread.other
  | text value => rfl

theorem MisreadAs.coerceInteger_eq (misread : scalar.MisreadAs n) :
    scalar.coerceInteger = .integer (.ofInt n) := by
  have small : n.natAbs < 2 ^ (63 : Nat) := misread.small
  have whole : (Int64.ofInt n).toInt = n := Int64.toInt_ofInt_of_le (by omega) (by omega)
  rw [coerceInteger_eq_integer_iff, whole]
  exact .inr ⟨misread.unspelled, misread.viewed, misread.small⟩

theorem keepsValue_iff : scalar.KeepsValue ↔ ∀ n, ¬scalar.MisreadAs n := by
  constructor
  · intro keeps n misread
    have small : n.natAbs < 2 ^ (63 : Nat) := misread.small
    have denotes := keeps.same _ misread.coerceInteger_eq
    rw [Int64.toInt_ofInt_of_le (by omega) (by omega)] at denotes
    exact misread.other denotes
  · intro noneMisread
    have same (i : Int64) (coerced : scalar.coerceInteger = .integer i) :
        scalar.Denotes i.toInt := by
      rcases coerceInteger_eq_integer_iff.mp coerced with spells | ⟨unspelled, viewed, small⟩
      · exact spells.denotes
      · by_contra other
        exact noneMisread i.toInt ⟨unspelled, viewed, small, other⟩
    refine ⟨same, ?_⟩
    intro noInteger
    rcases scalar.coerceInteger_eq_self_or with kept | ⟨i, coerced⟩
    · exact kept
    · exact absurd (same i coerced) (noInteger i.toInt)

/-- **Coercion keeps the value of a scalar, unless it is a text whose numeric view is an integer
that it does not denote.** It is idempotent, and a scalar that denotes an integer of 64 bits is
coerced to it if it is spelled as one, or if nothing is lost where it is read as a number. -/
theorem coerceInteger_keeps (scalar : Scalar) :
    scalar.coerceInteger.coerceInteger = scalar.coerceInteger ∧
      (scalar.KeepsValue ↔ ∀ n, ¬scalar.MisreadAs n) ∧
      (∀ n, scalar.MisreadAs n → scalar.isNumber = false ∧
        (∃ q, scalar.Denotes q ∧ q ≠ n) ∧ scalar.coerceInteger = .integer (.ofInt n)) ∧
      ∀ i : Int64, scalar.SpellsInteger i.toInt ∨
        scalar.Denotes i.toInt ∧ i.toInt.natAbs < integerBound ∧
          (∃ number : Binary64, number.value? = some (i.toInt : ℚ)) →
        scalar.coerceInteger = .integer i := by
  refine ⟨scalar.coerceInteger_idempotent, keepsValue_iff, ?_, ?_⟩
  · intro n misread
    exact ⟨misread.isNumber_eq_false, misread.exists_other, misread.coerceInteger_eq⟩
  rintro i (spells | ⟨denotes, small, number, held⟩)
  · exact coerceInteger_eq_integer_iff.mpr (.inl spells)
  · rw [coerceInteger_eq_integer_iff]
    by_cases spelled : ∃ n, scalar.SpellsInteger n
    · obtain ⟨n, spells⟩ := spelled
      have same : n = i.toInt := Int.cast_injective (spells.denotes.unique denotes)
      exact .inl (same ▸ spells)
    · exact .inr ⟨not_exists.mp spelled, denotes.viewedAs held, small⟩

/-- A text just below one is coerced to one. -/
theorem coerceInteger_below_one :
    (text "0.99999999999999999999").coerceInteger = .integer 1 ∧
      ¬(text "0.99999999999999999999").Denotes 1 := by
  refine ⟨by decide +kernel, ?_⟩
  intro one
  have nines : Digits "99999999999999999999".toList := ⟨nofun, List.all_eq_true.mp rfl⟩
  have unsigned : Numeral.Unsigned ⟨['0'], "99999999999999999999".toList, 0⟩
      "0.99999999999999999999".toList :=
    .mk (List.all_eq_true.mp rfl) (.inr nines.nonempty) (.point nines.all) .none
  have same := one.unique ⟨false, _, .mk .none unsigned, rfl⟩
  have digits : natOfDigits (['0'] ++ "99999999999999999999".toList) = 99999999999999999999 := by
    decide +kernel
  have places : "99999999999999999999".toList.length = 20 := by decide
  unfold Numeral.value at same
  dsimp only at same
  rw [digits, places] at same
  change (1 : ℚ) = (99999999999999999999 : ℕ) * 10 ^ (-(20 : ℕ) : ℤ) at same
  rw [zpow_neg, zpow_natCast, eq_mul_inv_iff_mul_eq₀ (by positivity)] at same
  have whole : 1 * 10 ^ 20 = 99999999999999999999 := by exact_mod_cast same
  exact absurd whole (by decide)

end Scalar

end Reconciliation
