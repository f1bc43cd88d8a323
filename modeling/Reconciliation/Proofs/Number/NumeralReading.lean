import Mathlib.Data.List.TakeWhile
import Reconciliation.Proofs.Number.ExactValue
import Reconciliation.Proofs.Number.NumeralText

/-! # What a numeral denotes

A numeral is digits with an optional sign, point and power of ten, and denotes a rational
(`Numeral.Denotes`), a text one at most (`Numeral.Denotes.unique`). A text is read as a finite
number only if it is a numeral (`Binary64.exists_spelled_of_ofText?`), and without loss if its
rational is that of some number (`Binary64.exists_ofText?_of_denotes`); it is read as an integer
exactly if it is one of 64 bits, with neither point nor exponent (`integerOfText?_eq_some_iff`).
-/

namespace Reconciliation

-- Powers stay those of the core library, whatever else is imported beside this module.
attribute [local instance (high)] instPowNat

namespace Numeral

/-! ## Texts of numerals -/

/-- A sign before digits; without one they are positive. -/
inductive SignText : Bool → List Char → Prop
  | none : SignText false []
  | plus : SignText false ['+']
  | minus : SignText true ['-']

/-- Digits after a point, or no point. -/
inductive FractionText : List Char → List Char → Prop
  | none : FractionText [] []
  | point {digits : List Char} (all : ∀ c ∈ digits, c.isDigit = true) :
    FractionText digits ('.' :: digits)

/-- A power of ten after an exponent mark, or no mark. -/
inductive ExponentText : Int → List Char → Prop
  | none : ExponentText 0 []
  | marked {mark : Char} {negative : Bool} {sign power : List Char}
    (isMark : mark = 'e' ∨ mark = 'E') (signed : SignText negative sign) (digits : Digits power) :
    ExponentText (Binary64.signedUnits negative (natOfDigits power)) (mark :: (sign ++ power))

/-- A numeral without its sign. Digits stand before the point or after it. -/
inductive Unsigned : Numeral → List Char → Prop
  | mk {whole fraction point exponent : List Char} {power : Int}
    (all : ∀ c ∈ whole, c.isDigit = true) (some : whole ≠ [] ∨ fraction ≠ [])
    (pointed : FractionText fraction point) (raised : ExponentText power exponent) :
    Unsigned ⟨whole, fraction, power⟩ (whole ++ (point ++ exponent))

/-- A numeral after its sign. -/
inductive Spelled (negative : Bool) (numeral : Numeral) : List Char → Prop
  | mk {sign body : List Char} (signed : SignText negative sign)
    (unsigned : Unsigned numeral body) :
    Spelled negative numeral (sign ++ body)

variable {text rest sign body fraction point exponent : List Char} {c : Char} {power i : Int}
  {numeral other : Numeral} {negative : Bool}

/-! ## Signs -/

theorem exists_signText (text : List Char) :
    ∃ sign, SignText (unsign text).1 sign ∧ text = sign ++ (unsign text).2 := by
  fun_cases unsign text with
  | case1 => exact ⟨['-'], .minus, rfl⟩
  | case2 => exact ⟨['+'], .plus, rfl⟩
  | case3 => exact ⟨[], .none, rfl⟩

theorem unsign_append (signed : SignText negative sign) (noSign : NoSign body) :
    unsign (sign ++ body) = (negative, body) := by
  cases signed with
  | plus => rfl
  | minus => rfl
  | none => exact unsign_of_noSign noSign

theorem noSign_of_digits (digits : Digits text) : NoSign text := by
  have noSign := noSign_append digits []
  rwa [List.append_nil] at noSign

/-! ## Reading a numeral -/

theorem digits_of_takeWhile (some : text.takeWhile Char.isDigit ≠ [])
    (nothing : text.dropWhile Char.isDigit = []) : Digits text := by
  have all := List.dropWhile_eq_nil_iff.mp nothing
  refine ⟨?_, all⟩
  rintro rfl
  exact some rfl

theorem unsigned?_eq_some_iff :
    power?.unsigned? text = some (power, []) ↔ Digits text ∧ power = natOfDigits text := by
  unfold power?.unsigned?
  dsimp only
  constructor
  · intro read
    split at read
    · cases read
    · next given =>
        obtain ⟨same, nothing⟩ := Prod.mk.inj (Option.some.inj read)
        have digits := digits_of_takeWhile (mt List.isEmpty_iff.mpr given) nothing
        rw [List.takeWhile_eq_self_iff.mpr digits.all] at same
        exact ⟨digits, same.symm⟩
  · rintro ⟨digits, rfl⟩
    rw [List.takeWhile_eq_self_iff.mpr digits.all, List.dropWhile_eq_nil_iff.mpr digits.all,
      if_neg (mt List.isEmpty_iff.mp digits.nonempty)]

theorem power?_eq (text : List Char) : power? text =
    (power?.unsigned? (unsign text).2).map fun result =>
      (if (unsign text).1 then -result.1 else result.1, result.2) := by
  fun_cases unsign text with
  | case1 => rfl
  | case2 rest => exact Option.map_id'.symm
  | case3 text noMinus noPlus =>
    unfold power?
    split
    · exact absurd rfl (noPlus _)
    · exact absurd rfl (noMinus _)
    · exact Option.map_id'.symm

theorem power?_eq_some_iff : power? text = some (power, []) ↔
    ∃ negative sign digits, SignText negative sign ∧ Digits digits ∧
      power = Binary64.signedUnits negative (natOfDigits digits) ∧ text = sign ++ digits := by
  rw [power?_eq, Option.map_eq_some_iff]
  constructor
  · rintro ⟨⟨magnitude, after⟩, unsigned, same⟩
    obtain ⟨rfl, rfl⟩ := Prod.mk.inj same
    obtain ⟨digits, rfl⟩ := unsigned?_eq_some_iff.mp unsigned
    obtain ⟨sign, signed, spelled⟩ := exists_signText text
    exact ⟨_, sign, _, signed, digits, rfl, spelled⟩
  · rintro ⟨negative, sign, digits, signed, isDigits, rfl, rfl⟩
    rw [unsign_append signed (noSign_of_digits isDigits)]
    exact ⟨_, unsigned?_eq_some_iff.mpr ⟨isDigits, rfl⟩, rfl⟩

theorem exponentPart?_cons (mark : Char) (rest : List Char) : exponentPart? (mark :: rest) =
    if mark = 'e' ∨ mark = 'E' then power? rest else some (0, mark :: rest) :=
  rfl

theorem exponentPart?_eq_some_iff :
    exponentPart? text = some (power, []) ↔ ExponentText power text := by
  constructor
  · intro read
    cases text with
    | nil =>
        cases read
        exact .none
    | cons mark rest =>
        rw [exponentPart?_cons] at read
        split at read
        · next isMark =>
            obtain ⟨negative, sign, digits, signed, isDigits, rfl, rfl⟩ :=
              power?_eq_some_iff.mp read
            exact .marked isMark signed isDigits
        · cases read
  · intro held
    cases held with
    | none => rfl
    | marked isMark signed digits =>
        rw [exponentPart?_cons, if_pos isMark]
        exact power?_eq_some_iff.mpr ⟨_, _, _, signed, digits, rfl, rfl⟩

/-- The digits after a point, if there is a point, and what follows them. -/
def fractionPart : List Char → List Char × List Char
  | '.' :: rest => (rest.takeWhile Char.isDigit, rest.dropWhile Char.isDigit)
  | rest => ([], rest)

theorem fractionPart_point (rest : List Char) : fractionPart ('.' :: rest) =
    (rest.takeWhile Char.isDigit, rest.dropWhile Char.isDigit) :=
  rfl

theorem fractionPart_of_noPoint (noPoint : ∀ rest, text ≠ '.' :: rest) :
    fractionPart text = ([], text) := by
  unfold fractionPart
  split
  · next rest => exact absurd rfl (noPoint rest)
  · rfl

theorem split?_eq (text : List Char) : split? text =
    if (text.takeWhile Char.isDigit).isEmpty &&
      (fractionPart (text.dropWhile Char.isDigit)).1.isEmpty then none
    else (exponentPart? (fractionPart (text.dropWhile Char.isDigit)).2).map fun result =>
      (⟨text.takeWhile Char.isDigit, (fractionPart (text.dropWhile Char.isDigit)).1, result.1⟩,
        result.2) := by
  unfold split?
  dsimp only
  split
  · next after rest same =>
    rw [same, fractionPart_point]
    dsimp only
    split
    · rfl
    · exact Option.map_eq_bind.symm
  · next noPoint =>
    rw [fractionPart_of_noPoint noPoint]
    split
    · rfl
    · exact Option.map_eq_bind.symm

/-- The digits after a point stand at the head of a text, behind the point. -/
theorem exists_fractionText (text : List Char) : ∃ point,
    FractionText (fractionPart text).1 point ∧ text = point ++ (fractionPart text).2 := by
  by_cases pointed : ∃ rest, text = '.' :: rest
  · obtain ⟨rest, rfl⟩ := pointed
    rw [fractionPart_point]
    refine ⟨_, .point fun c => List.mem_takeWhile_imp, ?_⟩
    rw [List.cons_append, List.takeWhile_append_dropWhile]
  · rw [fractionPart_of_noPoint (not_exists.mp pointed)]
    exact ⟨[], .none, rfl⟩

/-- An exponent begins with its mark. -/
theorem ExponentText.mark_of_head (raised : ExponentText power exponent) :
    ∀ c ∈ exponent.head?, c = 'e' ∨ c = 'E' := by
  cases raised with
  | none => exact nofun
  | marked isMark =>
      rintro c ⟨⟩
      exact isMark

theorem ExponentText.noDigit_of_head (raised : ExponentText power exponent) :
    ∀ c ∈ exponent.head?, c.isDigit = false := by
  intro c head
  rcases raised.mark_of_head c head with rfl | rfl <;> rfl

theorem FractionText.noDigit_of_head (pointed : FractionText fraction point)
    (raised : ExponentText power exponent) :
    ∀ c ∈ (point ++ exponent).head?, c.isDigit = false := by
  cases pointed with
  | none => exact raised.noDigit_of_head
  | point all =>
      rintro c ⟨⟩
      rfl

theorem fractionPart_append (pointed : FractionText fraction point)
    (raised : ExponentText power exponent) :
    fractionPart (point ++ exponent) = (fraction, exponent) := by
  cases pointed with
  | none =>
      apply fractionPart_of_noPoint
      rintro rest rfl
      rcases raised.mark_of_head '.' rfl with same | same <;> cases same
  | point all =>
      rw [List.cons_append, fractionPart_point, takeWhile_digits all raised.noDigit_of_head,
        dropWhile_digits all raised.noDigit_of_head]

/-- **A text is split into a numeral and nothing else exactly if it is this numeral.** -/
theorem split?_eq_some_iff : split? text = some (numeral, []) ↔ Unsigned numeral text := by
  rw [split?_eq]
  constructor
  · intro read
    split at read
    · cases read
    · next given =>
      obtain ⟨⟨power, after⟩, exponent, same⟩ := Option.map_eq_some_iff.mp read
      obtain ⟨rfl, rfl⟩ := Prod.mk.inj same
      obtain ⟨point, pointed, after⟩ := exists_fractionText (text.dropWhile Char.isDigit)
      have unsigned := Unsigned.mk (fun c => List.mem_takeWhile_imp)
        (by rwa [Bool.and_eq_true, List.isEmpty_iff, List.isEmpty_iff, not_and_or] at given)
        pointed (exponentPart?_eq_some_iff.mp exponent)
      rwa [← after, List.takeWhile_append_dropWhile] at unsigned
  · rintro ⟨all, some, pointed, raised⟩
    have ends := pointed.noDigit_of_head raised
    rw [takeWhile_digits all ends, dropWhile_digits all ends, fractionPart_append pointed raised,
      exponentPart?_eq_some_iff.mpr raised, if_neg]
    · rfl
    · rw [Bool.and_eq_true, List.isEmpty_iff, List.isEmpty_iff, not_and_or]
      exact some

/-- A numeral begins with a digit or with a point. -/
theorem Unsigned.exists_cons (unsigned : Unsigned numeral text) :
    ∃ c others, (c.isDigit = true ∨ c = '.') ∧ text = c :: others := by
  obtain ⟨all, some, pointed, raised⟩ := unsigned
  rename_i whole fraction point exponent power
  cases whole with
  | cons c others => exact ⟨c, _, .inl (all c List.mem_cons_self), rfl⟩
  | nil =>
      cases pointed with
      | none => exact absurd rfl (some.resolve_left (fun given => given rfl))
      | point _ => exact ⟨'.', _, .inr rfl, rfl⟩

theorem Unsigned.noSign (unsigned : Unsigned numeral text) : NoSign text := by
  obtain ⟨c, others, head, rfl⟩ := unsigned.exists_cons
  exact noSign_cons head others

theorem spelled_iff : Spelled negative numeral text ↔
    (unsign text).1 = negative ∧ Unsigned numeral (unsign text).2 := by
  constructor
  · rintro ⟨signed, unsigned⟩
    rw [unsign_append signed unsigned.noSign]
    exact ⟨rfl, unsigned⟩
  · rintro ⟨rfl, unsigned⟩
    obtain ⟨sign, signed, spelled⟩ := exists_signText text
    have numeral := Spelled.mk signed unsigned
    rwa [← spelled] at numeral

/-- A text is one numeral at most. -/
theorem Spelled.unique {otherNegative : Bool} (spelled : Spelled negative numeral text)
    (otherwise : Spelled otherNegative other text) :
    negative = otherNegative ∧ numeral = other := by
  obtain ⟨rfl, unsigned⟩ := spelled_iff.mp spelled
  obtain ⟨rfl, otherUnsigned⟩ := spelled_iff.mp otherwise
  have same := (split?_eq_some_iff.mpr unsigned).symm.trans (split?_eq_some_iff.mpr otherUnsigned)
  exact ⟨rfl, (Prod.mk.inj (Option.some.inj same)).1⟩

/-! ## What a numeral denotes -/

/-- The rational of a numeral with a sign. -/
def value (negative : Bool) (numeral : Numeral) : ℚ :=
  Binary64.signed negative
    (natOfDigits (numeral.whole ++ numeral.fraction) *
      10 ^ (numeral.power - numeral.fraction.length))

/-- A text is a numeral of a rational. -/
def Denotes (text : List Char) (q : ℚ) : Prop :=
  ∃ negative numeral, Spelled negative numeral text ∧ q = value negative numeral

theorem Denotes.unique {q r : ℚ} (left : Denotes text q) (right : Denotes text r) : q = r := by
  obtain ⟨negative, numeral, spelled, rfl⟩ := left
  obtain ⟨otherNegative, other, otherwise, rfl⟩ := right
  obtain ⟨rfl, rfl⟩ := spelled.unique otherwise
  rfl

/-! ## Integers -/

/-- A text is an integer: decimal digits with an optional sign, neither point nor exponent. -/
inductive IntegerText : Int → List Char → Prop
  | mk {sign digits : List Char} {negative : Bool} (signed : SignText negative sign)
    (isDigits : Digits digits) :
    IntegerText (Binary64.signedUnits negative (natOfDigits digits)) (sign ++ digits)

theorem unsigned_digits (digits : Digits text) : Unsigned ⟨text, [], 0⟩ text := by
  have unsigned := Unsigned.mk digits.all (.inl digits.nonempty) .none .none
  rwa [List.nil_append, List.append_nil] at unsigned

theorem value_digits (negative : Bool) (digits : List Char) : value negative ⟨digits, [], 0⟩ =
    (Binary64.signedUnits negative (natOfDigits digits) : Int) := by
  unfold value
  dsimp only
  rw [List.append_nil, ← Binary64.signed_natCast]
  exact congrArg (Binary64.signed negative) (mul_one _)

theorem toBinary64_digits (negative : Bool) (digits : List Char) :
    toBinary64 negative ⟨digits, [], 0⟩ = .ofRatio negative (natOfDigits digits) 1 := by
  unfold toBinary64
  dsimp only
  rw [List.append_nil]
  exact Binary64.ofDecimal_zero negative _

/-- An integer is a numeral of itself. -/
theorem IntegerText.denotes (integer : IntegerText i text) : Denotes text i := by
  obtain ⟨signed, digits⟩ := integer
  exact ⟨_, _, .mk signed (unsigned_digits digits), (value_digits _ _).symm⟩

end Numeral

namespace Binary64

open Numeral

variable {text : List Char} {numeral : Numeral} {negative : Bool} {number : Binary64} {i j : Int}

theorem ofUnsignedText?_of_unsigned (unsigned : Unsigned numeral text) :
    ofUnsignedText? negative text = some (numeral.toBinary64 negative) := by
  have whole := split?_eq_some_iff.mpr unsigned
  obtain ⟨c, others, digit | rfl, rfl⟩ := unsigned.exists_cons
  · rw [ofUnsignedText?_of_isDigit digit, whole, Option.bind_some, if_pos rfl]
  · rw [ofUnsignedText?_of_head (by decide) (by decide), whole, Option.bind_some, if_pos rfl]

theorem exists_unsigned_of_ofUnsignedText? (finite : number.isFinite = true)
    (read : ofUnsignedText? negative text = some number) :
    ∃ numeral, Unsigned numeral text ∧ number = numeral.toBinary64 negative := by
  unfold ofUnsignedText? at read
  dsimp only at read
  split at read
  · cases read
    cases finite
  · split at read
    · cases read
      cases finite
    · split at read
      · next numeral whole =>
          exact ⟨numeral, split?_eq_some_iff.mp whole, (Option.some.inj read).symm⟩
      · cases read

/-- **A numeral is read as the number nearest to it.** -/
theorem ofText?_of_spelled (spelled : Spelled negative numeral text) :
    ofText? text = some (numeral.toBinary64 negative) := by
  obtain ⟨rfl, unsigned⟩ := spelled_iff.mp spelled
  rw [ofText?_eq, ofUnsignedText?_of_unsigned unsigned]

/-- **A text that is read as a finite number is a numeral.** -/
theorem exists_spelled_of_ofText? (finite : number.isFinite = true)
    (read : ofText? text = some number) :
    ∃ negative numeral, Spelled negative numeral text ∧ number = numeral.toBinary64 negative := by
  rw [ofText?_eq] at read
  obtain ⟨numeral, unsigned, same⟩ := exists_unsigned_of_ofUnsignedText? finite read
  exact ⟨_, numeral, spelled_iff.mpr ⟨rfl, unsigned⟩, same⟩

/-- A numeral whose rational is that of some number is read without loss. -/
theorem exists_ofText?_of_denotes {q : ℚ} (denotes : Denotes text q)
    (held : number.value? = some q) : ∃ read, ofText? text = some read ∧ read.value? = some q := by
  obtain ⟨negative, numeral, spelled, rfl⟩ := denotes
  exact ⟨_, ofText?_of_spelled spelled, value?_ofDecimal held⟩

/-- An integer that does not fit into 64 bits is read as a number that does not either. -/
theorem integerBound_le_natAbs (integer : IntegerText i text)
    (large : integerBound ≤ i.natAbs) (read : ofText? text = some number)
    (whole : number.toInt? = some j) : integerBound ≤ j.natAbs := by
  obtain ⟨signed, digits⟩ := integer
  rw [natAbs_signedUnits] at large
  rw [ofText?_of_spelled (.mk signed (unsigned_digits digits)), Option.some_inj] at read
  rw [← read, toBinary64_digits] at whole
  exact le_natAbs_of_toInt?_ofRatio large whole

end Binary64

theorem natOfText?_eq_some_iff {text : List Char} {n : Nat} :
    natOfText? text = some n ↔ Digits text ∧ n = natOfDigits text := by
  have same : (!text.isEmpty && text.all Char.isDigit) = true ↔ Digits text := by
    rw [Bool.and_eq_true, Bool.not_eq_true', List.isEmpty_eq_false_iff, List.all_eq_true]
    exact ⟨fun held => ⟨held.1, held.2⟩, fun digits => ⟨digits.nonempty, digits.all⟩⟩
  unfold natOfText?
  rw [Option.ite_none_right_eq_some, Option.some_inj, same, eq_comm]

theorem integerOfText?_eq (text : List Char) : integerOfText? text =
    ((natOfText? (Numeral.unsign text).2).map
      (Binary64.signedUnits (Numeral.unsign text).1)).filter fun i =>
        -(integerBound : Int) ≤ i && i < integerBound := by
  have minus (magnitude : Option Nat) :
      Option.map Neg.neg (do return (← magnitude : Int)) =
        magnitude.map (Binary64.signedUnits true) := by
    cases magnitude <;> rfl
  have plus (magnitude : Option Nat) :
      Option.map id (do return (← magnitude : Int)) =
        magnitude.map (Binary64.signedUnits false) := by
    cases magnitude <;> rfl
  unfold integerOfText?
  dsimp only
  congr 1
  fun_cases Numeral.unsign text with
  | case1 rest => exact minus _
  | case2 rest => exact plus _
  | case3 text noMinus noPlus =>
    split
    · exact absurd rfl (noMinus _)
    · exact absurd rfl (noPlus _)
    · exact plus _

/-- **A text is read as an integer exactly if it is an integer of 64 bits.** -/
theorem integerOfText?_eq_some_iff {text : List Char} {i : Int} : integerOfText? text = some i ↔
    Numeral.IntegerText i text ∧ -(integerBound : Int) ≤ i ∧ i < integerBound := by
  rw [integerOfText?_eq, Option.filter_eq_some_iff, Option.map_eq_some_iff, Bool.and_eq_true,
    decide_eq_true_iff, decide_eq_true_iff]
  apply and_congr_left'
  constructor
  · rintro ⟨n, read, rfl⟩
    obtain ⟨digits, rfl⟩ := natOfText?_eq_some_iff.mp read
    obtain ⟨sign, signed, spelled⟩ := Numeral.exists_signText text
    have integer := Numeral.IntegerText.mk signed digits
    rwa [← spelled] at integer
  · rintro ⟨signed, digits⟩
    rw [Numeral.unsign_append signed (Numeral.noSign_of_digits digits)]
    exact ⟨_, natOfText?_eq_some_iff.mpr ⟨digits, rfl⟩, rfl⟩

/-- An integer that is not read as one has more than 64 bits. -/
theorem integerBound_le_of_not_read {text : List Char} {i : Int}
    (integer : Numeral.IntegerText i text) (unread : integerOfText? text = none) :
    integerBound ≤ i.natAbs := by
  by_contra inside
  have read := integerOfText?_eq_some_iff.mpr ⟨integer, by omega, by omega⟩
  cases unread.symm.trans read

end Reconciliation
