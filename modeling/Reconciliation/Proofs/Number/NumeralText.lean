import Reconciliation.Number.Numeral
import Reconciliation.Proofs.Calendar.DateText
import Reconciliation.Proofs.Number.WholeNumber

/-! # Texts of numerals

Decimal digits denote the whole number that they are (`ofText?_digits`), digits on both sides of a
point denote some number (`isSome_ofUnsignedText?_point`), and digits before a character that
belongs to no numeral denote none (`ofText?_eq_none_of_mark`).
-/

namespace Reconciliation

-- Powers stay those of the core library, whatever else is imported beside this module.
attribute [local instance (high)] instPowNat

/-- A text of one or more decimal digits and nothing else. -/
structure Digits (cs : List Char) : Prop where
  nonempty : cs ≠ []
  all : ∀ c ∈ cs, c.isDigit = true

namespace Digits

variable {cs rest : List Char}

theorem append (digits : Digits cs) (more : ∀ c ∈ rest, c.isDigit = true) :
    Digits (cs ++ rest) where
  nonempty := List.append_ne_nil_of_left_ne_nil digits.nonempty rest
  all := by
    intro c member
    exact (List.mem_append.mp member).elim (digits.all c) (more c)

theorem exists_cons (digits : Digits cs) :
    ∃ c others, c.isDigit = true ∧ cs = c :: others := by
  obtain ⟨c, others, rfl⟩ := List.exists_cons_of_ne_nil digits.nonempty
  exact ⟨c, others, digits.all c List.mem_cons_self, rfl⟩

/-- A text that begins with digits does not begin with another character. -/
theorem not_head_noDigit (digits : Digits cs) :
    ¬∀ c ∈ (cs ++ rest).head?, c.isDigit = false := by
  intro ends
  obtain ⟨c, others, digit, rfl⟩ := digits.exists_cons
  rw [ends c rfl] at digit
  cases digit

theorem length_pos (digits : Digits cs) : 0 < cs.length :=
  List.length_pos_iff.mpr digits.nonempty

end Digits

theorem digits_digitsOf (n : Nat) : Digits (digitsOf n) :=
  ⟨digitsOf_ne_nil n, fun _ => isDigit_of_mem_digitsOf⟩

theorem digits_paddedDigits (width n : Nat) : Digits (paddedDigits width n) where
  nonempty := List.append_ne_nil_of_right_ne_nil _ (digitsOf_ne_nil n)
  all := fun _ => isDigit_of_mem_paddedDigits

variable {negative : Bool} {whole fraction rest : List Char} {c mark : Char}

theorem toLower_of_isDigit (digit : c.isDigit = true) : c.toLower = c := by
  unfold Char.toLower
  rw [dif_neg]
  simp only [Char.isDigit, Bool.and_eq_true, decide_eq_true_eq] at digit
  intro upper
  exact absurd (UInt32.le_trans upper.1 digit.2) (by decide)

namespace Numeral

theorem takeWhile_digits (all : ∀ c ∈ whole, c.isDigit = true)
    (ends : ∀ c ∈ rest.head?, c.isDigit = false) :
    (whole ++ rest).takeWhile Char.isDigit = whole := by
  rw [List.takeWhile_append_of_pos all]
  cases rest with
  | nil => exact List.append_nil whole
  | cons c rest =>
      rw [List.takeWhile_cons_of_neg (Bool.eq_false_iff.mp (ends c rfl)), List.append_nil]

theorem dropWhile_digits (all : ∀ c ∈ whole, c.isDigit = true)
    (ends : ∀ c ∈ rest.head?, c.isDigit = false) :
    (whole ++ rest).dropWhile Char.isDigit = rest := by
  rw [List.dropWhile_append_of_pos all]
  cases rest with
  | nil => rfl
  | cons c rest => exact List.dropWhile_cons_of_neg (Bool.eq_false_iff.mp (ends c rfl))

/-- Whether the sign of a text is a minus, and what follows the sign. -/
def unsign : List Char → Bool × List Char
  | '-' :: rest => (true, rest)
  | '+' :: rest => (false, rest)
  | text => (false, text)

/-- A text does not begin with a sign. -/
def NoSign (text : List Char) : Prop :=
  ∀ c ∈ text.head?, c ≠ '-' ∧ c ≠ '+'

theorem unsign_of_noSign (noSign : NoSign rest) : unsign rest = (false, rest) := by
  unfold unsign
  split
  · exact absurd rfl (noSign '-' rfl).1
  · exact absurd rfl (noSign '+' rfl).2
  · rfl

theorem noSign_cons (head : c.isDigit = true ∨ c = '.') (rest : List Char) :
    NoSign (c :: rest) := by
  rintro c ⟨⟩
  constructor
  all_goals
    rintro rfl
    revert head
    decide

theorem noSign_append (digits : Digits whole) (rest : List Char) : NoSign (whole ++ rest) := by
  obtain ⟨c, others, digit, rfl⟩ := digits.exists_cons
  exact noSign_cons (.inl digit) _

/-- A character that belongs to no numeral ends one. -/
def Ends (c : Char) : Prop :=
  c.isDigit = false ∧ c ≠ '.' ∧ c ≠ 'e' ∧ c ≠ 'E'

instance (c : Char) : Decidable (Ends c) :=
  inferInstanceAs (Decidable (_ ∧ _))

/-- Digits before the end of a text or before a character of no numeral are a numeral. -/
theorem split?_digits (digits : Digits whole) (ends : ∀ c ∈ rest.head?, Ends c) :
    split? (whole ++ rest) = some (⟨whole, [], 0⟩, rest) := by
  unfold split?
  dsimp only
  rw [takeWhile_digits digits.all fun c member => (ends c member).1,
    dropWhile_digits digits.all fun c member => (ends c member).1]
  cases rest with
  | nil => simp [exponentPart?, digits.nonempty]
  | cons c rest =>
      obtain ⟨-, point, lower, upper⟩ := ends c rfl
      simp [exponentPart?, digits.nonempty, point, lower, upper]

/-- Digits on both sides of a point are a numeral. -/
theorem split?_point (digits : Digits whole) (all : ∀ c ∈ fraction, c.isDigit = true) :
    split? (whole ++ '.' :: fraction) = some (⟨whole, fraction, 0⟩, []) := by
  have kept : (fraction ++ []).takeWhile Char.isDigit = fraction := takeWhile_digits all nofun
  have dropped : (fraction ++ []).dropWhile Char.isDigit = [] := dropWhile_digits all nofun
  rw [List.append_nil] at kept dropped
  have ends : ∀ c ∈ ('.' :: fraction).head?, c.isDigit = false := by
    rintro c ⟨⟩
    rfl
  unfold split?
  dsimp only
  rw [takeWhile_digits digits.all ends, dropWhile_digits digits.all ends]
  simp [exponentPart?, digits.nonempty, kept, dropped]

end Numeral

namespace Binary64

theorem ofText?_eq (text : List Char) :
    ofText? text = ofUnsignedText? (Numeral.unsign text).1 (Numeral.unsign text).2 := by
  fun_cases Numeral.unsign text with
  | case1 => rfl
  | case2 => rfl
  | case3 text noMinus noPlus =>
    unfold ofText?
    split
    · exact absurd rfl (noMinus _)
    · exact absurd rfl (noPlus _)
    · rfl

/-- A text whose first character begins no name is read as a numeral. -/
theorem ofUnsignedText?_of_head (noInfinity : c.toLower ≠ 'i') (noNan : c.toLower ≠ 'n') :
    ofUnsignedText? negative (c :: rest) =
      (Numeral.split? (c :: rest)).bind fun result =>
        if result.2 = [] then some (result.1.toBinary64 negative) else none := by
  have noName {name : String} {letter : Char} {letters : List Char}
      (spelled : name.toList = letter :: letters) (other : c.toLower ≠ letter) :
      String.ofList ((c :: rest).map Char.toLower) ≠ name := by
    intro same
    have lists := congrArg String.toList same
    rw [String.toList_ofList, spelled, List.map_cons] at lists
    exact other (List.cons.inj lists).1
  unfold ofUnsignedText?
  dsimp only
  rw [if_neg (not_or.mpr ⟨noName rfl noInfinity, noName rfl noInfinity⟩),
    if_neg (noName rfl noNan)]
  rcases Numeral.split? (c :: rest) with _ | ⟨numeral, _ | ⟨next, after⟩⟩ <;> rfl

/-- A text that starts with a digit names no special number. -/
theorem ofUnsignedText?_of_isDigit (digit : c.isDigit = true) :
    ofUnsignedText? negative (c :: rest) =
      (Numeral.split? (c :: rest)).bind fun result =>
        if result.2 = [] then some (result.1.toBinary64 negative) else none := by
  apply ofUnsignedText?_of_head
  all_goals
    rw [toLower_of_isDigit digit]
    rintro rfl
    cases digit

variable (digits : Digits whole)
include digits

/-- A text that starts with digits is read as a numeral. -/
theorem ofUnsignedText?_append : ofUnsignedText? negative (whole ++ rest) =
    (Numeral.split? (whole ++ rest)).bind fun result =>
      if result.2 = [] then some (result.1.toBinary64 negative) else none := by
  obtain ⟨c, others, digit, rfl⟩ := digits.exists_cons
  exact ofUnsignedText?_of_isDigit digit

/-- Digits have no sign before them. -/
theorem ofText?_append : ofText? (whole ++ rest) = ofUnsignedText? false (whole ++ rest) := by
  rw [ofText?_eq, Numeral.unsign_of_noSign (Numeral.noSign_append digits rest)]

/-- Digits denote the whole number that they are. -/
theorem ofUnsignedText?_digits :
    ofUnsignedText? negative whole = some (.ofRatio negative (natOfDigits whole) 1) := by
  have read : Numeral.split? (whole ++ []) = some (⟨whole, [], 0⟩, []) :=
    Numeral.split?_digits digits nofun
  rw [← List.append_nil whole, ofUnsignedText?_append digits, read, List.append_nil]
  simp only [Option.bind_some, if_true, Numeral.toBinary64, List.append_nil, List.length_nil]
  exact congrArg some (ofDecimal_zero _ _)

theorem isSome_ofUnsignedText?_point (all : ∀ c ∈ fraction, c.isDigit = true) :
    (ofUnsignedText? negative (whole ++ '.' :: fraction)).isSome := by
  rw [ofUnsignedText?_append digits, Numeral.split?_point digits all]
  rfl

/-- Digits before a character that belongs to no numeral denote no number. -/
theorem ofUnsignedText?_eq_none_of_mark (ends : Numeral.Ends mark) :
    ofUnsignedText? negative (whole ++ mark :: rest) = none := by
  rw [ofUnsignedText?_append digits, Numeral.split?_digits digits]
  · rfl
  · rintro c ⟨⟩
    exact ends

theorem ofText?_digits : ofText? whole = some (.ofNat (natOfDigits whole)) := by
  rw [← List.append_nil whole, ofText?_append digits, List.append_nil,
    ofUnsignedText?_digits digits]
  rfl

theorem ofText?_eq_none_of_mark (ends : Numeral.Ends mark) :
    ofText? (whole ++ mark :: rest) = none := by
  rw [ofText?_append digits, ofUnsignedText?_eq_none_of_mark digits ends]

end Binary64

end Reconciliation
