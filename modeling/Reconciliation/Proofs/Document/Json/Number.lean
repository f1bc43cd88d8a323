import Reconciliation.Document.Json.Reader
import Reconciliation.Document.Json.Writer
import Reconciliation.Proofs.Calendar.TextOrder
import Reconciliation.Proofs.Number.PlainText

/-! # Numbers in JSON

An integer reads back as an integer, and a finite binary64 number as the number: its record spelling
has a point or an exponent and a decimal that rounds to it.
-/

namespace Reconciliation

-- Powers stay those of the core library, whatever else is imported beside this module.
attribute [local instance (high)] instPowNat

/-- Digits as JSON has them before a point: a zero at the front stands alone. -/
structure WholeDigits (whole : List Char) : Prop extends Digits whole where
  alone : whole.head? = some '0' → whole = ['0']

/-- Zeros before digits do not change the number that they denote. -/
theorem natOfDigits_replicate_append (zeros : Nat) (cs : List Char) :
    natOfDigits (List.replicate zeros '0' ++ cs) = natOfDigits cs := by
  change Nat.ofDigitChars 10 (List.replicate zeros '0' ++ cs) 0 = _
  rw [Nat.ofDigitChars_append, Nat.ofDigitChars_replicate_zero, Nat.mul_zero]
  rfl

theorem Digits.head?_append {cs : List Char} (digits : Digits cs) (rest : List Char) :
    (cs ++ rest).head? = cs.head? := by
  obtain ⟨c, others, -, rfl⟩ := digits.exists_cons
  rfl

/-- The digits of a positive number do not begin with a zero. -/
theorem head?_digitsOf_ne {n : Nat} (positive : 0 < n) : (digitsOf n).head? ≠ some '0' := by
  intro zero
  obtain ⟨c, tail, -, same⟩ := (digits_digitsOf n).exists_cons
  rw [same, List.head?_cons, Option.some_inj] at zero
  subst zero
  have value : n = natOfDigits tail := by
    have read := natOfDigits_digitsOf n
    rw [same, natOfDigits_cons, Nat.sub_self, Nat.zero_mul, Nat.zero_add] at read
    exact read.symm
  have small : n < 10 ^ tail.length := by
    rw [value]
    apply natOfDigits_lt
    exact fun c member => isDigit_of_mem_digitsOf (same ▸ List.mem_cons_of_mem _ member)
  -- fewer digits would do
  have short : (digitsOf n).length ≤ tail.length := by
    apply (Nat.length_toDigits_le_iff (by decide) _).mpr small
    cases tail with
    | nil => exact absurd value (by have : natOfDigits [] = 0 := rfl; omega)
    | cons => exact Nat.succ_pos _
  rw [same, List.length_cons] at short
  omega

theorem wholeDigits_of_head {whole : List Char} (digits : Digits whole)
    (head : whole.head? ≠ some '0') : WholeDigits whole :=
  ⟨digits, fun zero => absurd zero head⟩

theorem wholeDigits_digitsOf (n : Nat) : WholeDigits (digitsOf n) := by
  cases n with
  | zero => exact ⟨digits_digitsOf 0, fun _ => rfl⟩
  | succ n => exact wholeDigits_of_head (digits_digitsOf _) (head?_digitsOf_ne (Nat.succ_pos n))

namespace Numeral

/-- The fraction of a numeral after a point, if there is one. -/
def pointText (fraction : List Char) : List Char :=
  if fraction = [] then [] else '.' :: fraction

/-- The power of a numeral after an exponent mark, if it is not zero. -/
def powerText (power : Int) : List Char :=
  if power = 0 then []
  else 'e' :: (if power < 0 then '-' else '+') :: digitsOf power.natAbs

/-- A numeral as JSON has it. -/
def jsonText (numeral : Numeral) : List Char :=
  numeral.whole ++ (pointText numeral.fraction ++ powerText numeral.power)

end Numeral

namespace Decimal

/-- A numeral with a fraction or a power that spells a decimal, perhaps with a zero after the
point. -/
structure SpelledBy (decimal : Decimal) (numeral : Numeral) : Prop where
  whole : WholeDigits numeral.whole
  fraction : ∀ c ∈ numeral.fraction, c.isDigit = true
  real : ¬(numeral.fraction = [] ∧ numeral.power = 0)
  value : (natOfDigits (numeral.whole ++ numeral.fraction) = decimal.digits ∧
      numeral.power - numeral.fraction.length = decimal.exponent) ∨
    (0 ≤ decimal.exponent ∧
      natOfDigits (numeral.whole ++ numeral.fraction) =
        decimal.digits * 10 ^ decimal.exponent.toNat * 10 ∧
      numeral.power - numeral.fraction.length = -1)

variable {decimal : Decimal} (positive : 0 < decimal.digits)
include positive

/-- A whole decimal is spelled with a zero after the point. -/
theorem exists_spelledBy_whole (whole : 0 ≤ decimal.exponent) :
    ∃ numeral, decimal.SpelledBy numeral ∧
      decimal.plainText ++ ['.', '0'] = numeral.jsonText := by
  refine ⟨⟨digitsOf decimal.digits ++ List.replicate decimal.exponent.toNat '0', ['0'], 0⟩,
    ⟨?_, ?_, nofun, .inr ⟨whole, ?_, rfl⟩⟩, ?_⟩
  · apply wholeDigits_of_head (digits_zeros _ _)
    rw [(digits_digitsOf _).head?_append]
    exact head?_digitsOf_ne positive
  · exact (digits_digitsOf 0).all
  · rw [List.append_assoc, ← List.replicate_succ', natOfDigits_zeros, Nat.pow_succ, Nat.mul_assoc]
  · rw [plainText, if_pos whole]
    rfl

/-- A point among the digits. -/
theorem exists_spelledBy_split {place : Nat} (inside : 0 < place)
    (fractional : decimal.exponent < 0)
    (same : (digitsOf decimal.digits).length + decimal.exponent = place) :
    ∃ numeral, decimal.SpelledBy numeral ∧
      (digitsOf decimal.digits).take place ++ '.' :: (digitsOf decimal.digits).drop place =
        numeral.jsonText := by
  have digits := digits_digitsOf decimal.digits
  have read := natOfDigits_digitsOf decimal.digits
  have head := head?_digitsOf_ne positive
  generalize digitsOf decimal.digits = ds at *
  have some : 0 < (ds.take place).length := by
    rw [List.length_take]
    omega
  have more : ds.drop place ≠ [] := by
    rw [← List.length_pos_iff, List.length_drop]
    omega
  have leading : Digits (ds.take place) :=
    ⟨List.length_pos_iff.mp some, fun c member => digits.all c (List.mem_of_mem_take member)⟩
  refine ⟨⟨ds.take place, ds.drop place, 0⟩, ⟨wholeDigits_of_head leading ?_,
    fun c member => digits.all c (List.mem_of_mem_drop member), fun none => more none.1,
    .inl ⟨?_, ?_⟩⟩, ?_⟩
  · rw [List.head?_take, if_neg (by omega)]
    exact head
  · rw [List.take_append_drop, read]
  · dsimp only
    rw [List.length_drop]
    omega
  · rw [Numeral.jsonText, Numeral.pointText, if_neg more, Numeral.powerText, if_pos rfl,
      List.append_nil]

omit positive in
/-- A point before the digits, with zeros in between. -/
theorem exists_spelledBy_zeros {places : Nat}
    (same : -((digitsOf decimal.digits).length + decimal.exponent) = places) :
    ∃ numeral, decimal.SpelledBy numeral ∧
      '0' :: '.' :: (List.replicate places '0' ++ digitsOf decimal.digits) = numeral.jsonText := by
  have digits := digits_digitsOf decimal.digits
  have read := natOfDigits_digitsOf decimal.digits
  generalize digitsOf decimal.digits = ds at *
  have some : List.replicate places '0' ++ ds ≠ [] :=
    List.append_ne_nil_of_right_ne_nil _ digits.nonempty
  refine ⟨⟨['0'], List.replicate places '0' ++ ds, 0⟩, ⟨wholeDigits_digitsOf 0, ?_,
    fun none => some none.1, .inl ⟨?_, ?_⟩⟩, ?_⟩
  · intro c member
    rcases List.mem_append.mp member with zero | digit
    · rw [List.eq_of_mem_replicate zero]
      rfl
    · exact digits.all c digit
  · exact (natOfDigits_replicate_append (places + 1) ds).trans read
  · dsimp only
    rw [List.length_append, List.length_replicate]
    omega
  · rw [Numeral.jsonText, Numeral.pointText, if_neg some, Numeral.powerText, if_pos rfl,
      List.append_nil]
    rfl

/-- The digits of a fraction stand after a point, with zeros before them where they are few. -/
theorem exists_spelledBy_fraction (fractional : decimal.exponent < 0) :
    ∃ numeral, decimal.SpelledBy numeral ∧ decimal.plainText = numeral.jsonText := by
  unfold plainText pointPlace
  dsimp only
  rw [if_neg (by omega)]
  split
  · next inside =>
      have place := Int.toNat_of_nonneg (Int.le_of_lt inside)
      exact exists_spelledBy_split positive (by omega) fractional place.symm
  · next outside =>
      exact exists_spelledBy_zeros (Int.toNat_of_nonneg (by omega)).symm

/-- The record spelling of a decimal is that of a numeral. -/
theorem exists_spelledBy_recordText :
    ∃ numeral, decimal.SpelledBy numeral ∧ decimal.recordText = numeral.jsonText := by
  unfold recordText
  dsimp only
  split
  · split
    · next whole => exact exists_spelledBy_whole positive whole
    · next fractional => exact exists_spelledBy_fraction positive (by omega)
  · next far =>
      have digits := digits_digitsOf decimal.digits
      have read := natOfDigits_digitsOf decimal.digits
      unfold pointPlace at *
      generalize digitsOf decimal.digits = ds at *
      obtain ⟨first, rest, digit, rfl⟩ := digits.exists_cons
      obtain ⟨power, same⟩ :
          ∃ power, ((first :: rest).length : Int) + decimal.exponent - 1 = power := ⟨_, rfl⟩
      have notZero : power ≠ 0 := by omega
      rw [same]
      refine ⟨⟨[first], rest, power⟩, ⟨⟨⟨nofun, ?_⟩, ?_⟩,
        fun c member => digits.all c (List.mem_cons_of_mem _ member),
        fun none => notZero none.2, .inl ⟨read, ?_⟩⟩, ?_⟩
      · intro c member
        rw [List.mem_singleton.mp member]
        exact digit
      · intro zero
        rw [List.head?_cons, Option.some_inj] at zero
        rw [zero]
      · dsimp only
        rw [List.length_cons] at same
        omega
      · rw [Numeral.jsonText, Numeral.powerText, if_neg notZero]
        cases rest <;> rfl

end Decimal

namespace Document.Json

variable {whole fraction rest : List Char} {negative : Bool}

theorem wholeDigits?_append (digits : WholeDigits whole)
    (ends : ∀ c ∈ rest.head?, c.isDigit = false) :
    wholeDigits? (whole ++ rest) = some (whole, rest) := by
  unfold wholeDigits?
  split
  · next after same =>
      obtain ⟨c, others, -, rfl⟩ := digits.exists_cons
      obtain ⟨rfl, -⟩ := List.cons.inj same
      obtain rfl : others = [] := (List.cons.inj (digits.alone rfl)).2
      rw [← (List.cons.inj same).2]
      rfl
  · rw [Numeral.takeWhile_digits digits.all ends, Numeral.dropWhile_digits digits.all ends]
    simp [digits.nonempty]

theorem fractionDigits?_append (all : ∀ c ∈ fraction, c.isDigit = true)
    (ends : ∀ c ∈ rest.head?, c.isDigit = false ∧ c ≠ '.') :
    fractionDigits? (Numeral.pointText fraction ++ rest) =
      some (if fraction = [] then none else some fraction, rest) := by
  unfold Numeral.pointText
  split
  · rw [List.nil_append]
    unfold fractionDigits?
    split
    · exact absurd rfl (ends '.' rfl).2
    · rfl
  · next given =>
      have taken := Numeral.takeWhile_digits all fun c member => (ends c member).1
      have left := Numeral.dropWhile_digits all fun c member => (ends c member).1
      simp [fractionDigits?, taken, left, given]

theorem exponent?_append (power : Int) (ends : ∀ c ∈ rest.head?, Numeral.Ends c) :
    exponent? (Numeral.powerText power ++ rest) =
      some (if power = 0 then none else some power, rest) := by
  unfold Numeral.powerText
  split
  · rw [List.nil_append]
    cases rest with
    | nil => rfl
    | cons c rest =>
        obtain ⟨-, -, lower, upper⟩ := ends c rfl
        simp [exponent?, lower, upper]
  · next given =>
      have unsigned : Numeral.power?.unsigned? (digitsOf power.natAbs ++ rest) =
          some ((power.natAbs : Int), rest) := by
        have digits := digits_digitsOf power.natAbs
        have taken := Numeral.takeWhile_digits digits.all fun c member => (ends c member).1
        have left := Numeral.dropWhile_digits digits.all fun c member => (ends c member).1
        simp [Numeral.power?.unsigned?, taken, left, natOfDigits_digitsOf, digits.nonempty]
      split
      · next negative =>
          simp only [List.cons_append, exponent?, true_or, if_true, Numeral.power?, unsigned,
            Option.map_some]
          rw [show -(power.natAbs : Int) = power by omega]
      · simp only [List.cons_append, exponent?, true_or, if_true, Numeral.power?, unsigned,
            Option.map_some]
        rw [show (power.natAbs : Int) = power by omega]

/-- No digit or point stands where a fraction or a power may begin. -/
theorem head_powerText_append (power : Int) (ends : ∀ c ∈ rest.head?, Numeral.Ends c) :
    ∀ c ∈ (Numeral.powerText power ++ rest).head?, c.isDigit = false ∧ c ≠ '.' := by
  unfold Numeral.powerText
  split
  · exact fun c member => ⟨(ends c member).1, (ends c member).2.1⟩
  · rintro c ⟨⟩
    decide

theorem head_pointText_append {after : List Char}
    (ends : ∀ c ∈ after.head?, c.isDigit = false ∧ c ≠ '.') :
    ∀ c ∈ (Numeral.pointText fraction ++ after).head?, c.isDigit = false := by
  unfold Numeral.pointText
  split
  · exact fun c member => (ends c member).1
  · rintro c ⟨⟩
    rfl

/-- A numeral is read as a whole number if it has neither fraction nor power. -/
theorem number?_jsonText {numeral : Numeral} (whole : WholeDigits numeral.whole)
    (all : ∀ c ∈ numeral.fraction, c.isDigit = true) (ends : ∀ c ∈ rest.head?, Numeral.Ends c) :
    number? negative (numeral.jsonText ++ rest) =
      some (if numeral.fraction = [] ∧ numeral.power = 0 then wholeValue negative numeral.whole
        else realValue negative numeral, rest) := by
  have beforePower := head_powerText_append numeral.power ends
  unfold number? Numeral.jsonText
  rw [List.append_assoc, List.append_assoc,
    wholeDigits?_append whole (head_pointText_append beforePower)]
  dsimp only [Option.bind_eq_bind, Option.bind_some]
  rw [fractionDigits?_append all beforePower]
  dsimp only [Option.bind_some]
  rw [exponent?_append numeral.power ends]
  obtain ⟨wholeDigits, fraction, power⟩ := numeral
  by_cases noFraction : fraction = [] <;> by_cases noPower : power = 0 <;>
    simp [noFraction, noPower]

/-! ## The values of numbers -/

/-- The numeral that spells a decimal of the rounding interval denotes the number. -/
theorem realValue_of_spelledBy {units : Nat} {decimal : Decimal} {numeral : Numeral}
    (representable : Binary64.Representable units) (magnitude : 0 < units)
    (inside : Binary64.RoundsTo units decimal.digits decimal.exponent)
    (spelled : decimal.SpelledBy numeral) :
    realValue negative numeral = .float (.finite negative units representable) := by
  have read : numeral.toBinary64 negative = .finite negative units representable := by
    unfold Numeral.toBinary64
    rcases spelled.value with ⟨digits, exponent⟩ | ⟨whole, digits, exponent⟩
    · rw [digits, exponent]
      exact Binary64.ofDecimal_of_roundsTo magnitude inside negative representable
    · rw [digits, exponent]
      exact Binary64.ofDecimal_of_roundsTo magnitude (Binary64.roundsTo_point inside whole) negative
        representable
  rw [realValue, read]

/-- The record spelling of a magnitude. -/
def magnitudeText (units : Nat) : List Char :=
  if units = 0 then "0.0".toList else (Binary64.shortest .even units).recordText

section

variable {units : Nat} (representable : Binary64.Representable units)
include representable

theorem exists_spelledBy_magnitudeText (magnitude : 0 < units) :
    ∃ numeral, (Binary64.shortest .even units).SpelledBy numeral ∧
      magnitudeText units = numeral.jsonText := by
  have inside := Binary64.roundsTo_shortest .even magnitude representable.1
  have positive := Nat.pos_of_ne_zero (Binary64.digits_ne_zero_of_roundsTo magnitude inside)
  rw [magnitudeText, if_neg (Nat.ne_of_gt magnitude)]
  exact Decimal.exists_spelledBy_recordText positive

/-- The record spelling of a magnitude is read as the number. -/
theorem number?_magnitudeText (ends : ∀ c ∈ rest.head?, Numeral.Ends c) :
    number? negative (magnitudeText units ++ rest) =
      some (.float (.finite negative units representable), rest) := by
  rcases Nat.eq_zero_or_pos units with rfl | magnitude
  · exact @number?_jsonText _ negative ⟨['0'], ['0'], 0⟩ (wholeDigits_digitsOf 0)
      (digits_digitsOf 0).all ends
  · have inside := Binary64.roundsTo_shortest .even magnitude representable.1
    obtain ⟨numeral, spelled, text⟩ := exists_spelledBy_magnitudeText representable magnitude
    rw [text, number?_jsonText spelled.whole spelled.fraction ends, if_neg spelled.real,
      realValue_of_spelledBy representable magnitude inside spelled]

/-- The record spelling of a magnitude starts with a digit. -/
theorem exists_cons_magnitudeText :
    ∃ c tail, magnitudeText units = c :: tail ∧ c.isDigit = true := by
  rcases Nat.eq_zero_or_pos units with rfl | magnitude
  · exact ⟨'0', ['.', '0'], rfl, rfl⟩
  · obtain ⟨numeral, spelled, text⟩ := exists_spelledBy_magnitudeText representable magnitude
    obtain ⟨c, tail, digit, same⟩ := spelled.whole.exists_cons
    exact ⟨c, _, by rw [text, Numeral.jsonText, same, List.cons_append], digit⟩

end

theorem wholeValue_digitsOf {value : Int} (held : holdsInteger value = true) :
    wholeValue (decide (value < 0)) (digitsOf value.natAbs) = .integer value := by
  have signed : (if decide (value < 0) = true then -(value.natAbs : Int) else value.natAbs) =
      value := by
    split
    · next below =>
        have := of_decide_eq_true below
        omega
    · next notBelow =>
        have : ¬value < 0 := fun below => notBelow (decide_eq_true below)
        omega
  have noNegativeZero : (decide (value < 0) && value.natAbs == 0) = false := by
    by_cases zero : value = 0
    · rw [zero]
      rfl
    · rw [Bool.and_eq_false_iff, beq_eq_false_iff_ne]
      exact .inr fun none => zero (Int.natAbs_eq_zero.mp none)
  unfold wholeValue
  dsimp only
  rw [natOfDigits_digitsOf, signed, noNegativeZero, held]
  rfl

/-- The digits of an integer are read as the integer. -/
theorem number?_digitsOf {value : Int} (held : holdsInteger value = true)
    (ends : ∀ c ∈ rest.head?, Numeral.Ends c) :
    number? (decide (value < 0)) (digitsOf value.natAbs ++ rest) = some (.integer value, rest) := by
  have read := @number?_jsonText _ (decide (value < 0)) ⟨digitsOf value.natAbs, [], 0⟩
    (wholeDigits_digitsOf _) nofun ends
  rw [if_pos ⟨rfl, rfl⟩, wholeValue_digitsOf held] at read
  rw [← read]
  simp [Numeral.jsonText, Numeral.pointText, Numeral.powerText]

end Document.Json

end Reconciliation
