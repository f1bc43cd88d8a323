import Reconciliation.Number.Binary64

/-! # Numerals

Reading numbers from text: natural numbers, 64-bit integers with an optional sign, and decimal
numerals with an optional point and exponent.
-/

namespace Reconciliation

-- Powers stay those of the core library, whatever else is imported beside this module.
attribute [local instance (high)] instPowNat

/-- The number that a run of decimal digits denotes. -/
def natOfDigits (digits : List Char) : Nat :=
  digits.foldl (fun n digit => 10 * n + (digit.toNat - '0'.toNat)) 0

/-- The number that a text denotes, if it consists of one or more decimal digits. -/
def natOfText? (text : List Char) : Option Nat :=
  if !text.isEmpty && text.all Char.isDigit then some (natOfDigits text) else none

/-- The value of a digit in a base of at most sixteen. -/
def digitValue? (base : Nat) (c : Char) : Option Nat :=
  let value :=
    if c.isDigit then some (c.toNat - '0'.toNat)
    else if 'a' ≤ c ∧ c ≤ 'f' then some (c.toNat - 'a'.toNat + 10)
    else if 'A' ≤ c ∧ c ≤ 'F' then some (c.toNat - 'A'.toNat + 10)
    else none
  value.filter (· < base)

/-- The number that one or more digits in a base denote. -/
def natInBase? (base : Nat) (digits : List Char) : Option Nat :=
  if digits.isEmpty then none
  else (digits.mapM (digitValue? base)).map (·.foldl (fun n digit => base * n + digit) 0)

def countBound : Nat := 2 ^ (64 : Nat)

/-- Integer scalars lie between the negation of this bound and the bound itself, exclusive. -/
def integerBound : Nat := 2 ^ (63 : Nat)

/-- A count: decimal digits, after an optional plus. -/
def countOfText? (text : List Char) : Option Nat :=
  let digits :=
    match text with
    | '+' :: rest => rest
    | _ => text
  (natOfText? digits).filter (· < countBound)

/-- An integer scalar: decimal digits, after an optional sign. -/
def integerOfText? (text : List Char) : Option Int :=
  let signed : Option Int :=
    match text with
    | '-' :: rest => (natOfText? rest).map fun n => -(n : Int)
    | '+' :: rest => (natOfText? rest).map fun n => (n : Int)
    | _ => (natOfText? text).map fun n => (n : Int)
  signed.filter fun i => -(integerBound : Int) ≤ i && i < integerBound

/-- A decimal numeral without its sign. -/
structure Numeral where
  whole : List Char
  fraction : List Char
  power : Int

namespace Numeral

/-- The power of ten that stands after an exponent mark, and what follows it. -/
def power? : List Char → Option (Int × List Char)
  | '+' :: rest => unsigned? rest
  | '-' :: rest => (unsigned? rest).map fun (power, after) => (-power, after)
  | rest => unsigned? rest
where
  /-- One or more digits, and what follows them. -/
  unsigned? (cs : List Char) : Option (Int × List Char) :=
    let digits := cs.takeWhile Char.isDigit
    if digits.isEmpty then none
    else some (natOfDigits digits, cs.dropWhile Char.isDigit)

/-- The exponent at the head of a text, zero where there is no exponent mark. -/
def exponentPart? : List Char → Option (Int × List Char)
  | mark :: rest => if mark = 'e' ∨ mark = 'E' then power? rest else some (0, mark :: rest)
  | [] => some (0, [])

/-- The longest numeral at the head of a text, and what follows it. Digits may lack on one side
of the point, but not on both. -/
def split? (cs : List Char) : Option (Numeral × List Char) := do
  let whole := cs.takeWhile Char.isDigit
  let afterWhole := cs.dropWhile Char.isDigit
  let (fraction, afterFraction) :=
    match afterWhole with
    | '.' :: rest => (rest.takeWhile Char.isDigit, rest.dropWhile Char.isDigit)
    | rest => ([], rest)
  if whole.isEmpty && fraction.isEmpty then none
  let (power, rest) ← exponentPart? afterFraction
  return (⟨whole, fraction, power⟩, rest)

/-- The number nearest to a numeral with a sign. -/
def toBinary64 (negative : Bool) (numeral : Numeral) : Binary64 :=
  Binary64.ofDecimal negative (natOfDigits (numeral.whole ++ numeral.fraction))
    (numeral.power - numeral.fraction.length)

end Numeral

namespace Binary64

/-- The number that a text without a sign denotes: a numeral, or the name of infinity or of no
number in any case. -/
def ofUnsignedText? (negative : Bool) (text : List Char) : Option Binary64 :=
  let name := String.ofList (text.map Char.toLower)
  if name = "inf" ∨ name = "infinity" then some (.infinite negative)
  else if name = "nan" then some .nan
  else
    match Numeral.split? text with
    | some (numeral, []) => some (numeral.toBinary64 negative)
    | _ => none

/-- The number that a text denotes, after an optional sign. -/
def ofText? : List Char → Option Binary64
  | '-' :: rest => ofUnsignedText? true rest
  | '+' :: rest => ofUnsignedText? false rest
  | text => ofUnsignedText? false text

end Binary64

end Reconciliation
