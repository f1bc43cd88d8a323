import Reconciliation.Number.Shortest

/-! # Decimals as text

Two spellings of a binary64 number share its shortest digits. The plain one never uses an
exponent and writes a whole number without a point. The record spelling, used in documents,
always shows that the number is no integer: it has a point, or an exponent where the first digit
stands more than five places after the point or more than sixteen before it.
-/

namespace Reconciliation

/-- The decimal digits of a natural number. -/
def digitsOf (n : Nat) : List Char :=
  Nat.toDigits 10 n

/-- The digits of a natural number, with zeros before them up to a width. -/
def paddedDigits (width n : Nat) : List Char :=
  let digits := digitsOf n
  List.replicate (width - digits.length) '0' ++ digits

/-- The decimal digits of an integer, after a minus where it is negative. -/
def signedDigits (i : Int) : List Char :=
  if i < 0 then '-' :: digitsOf i.natAbs else digitsOf i.natAbs

namespace Decimal

/-- The place of the point, counted from before the first digit. -/
def pointPlace (digits : List Char) (exponent : Int) : Int :=
  digits.length + exponent

/-- A decimal written with a point only if it has a fraction. -/
def plainText (decimal : Decimal) : List Char :=
  let digits := digitsOf decimal.digits
  let place := pointPlace digits decimal.exponent
  if 0 ≤ decimal.exponent then digits ++ List.replicate decimal.exponent.toNat '0'
  else if 0 < place then digits.take place.toNat ++ '.' :: digits.drop place.toNat
  else '0' :: '.' :: List.replicate (-place).toNat '0' ++ digits

/-- A decimal written with a point or an exponent. -/
def recordText (decimal : Decimal) : List Char :=
  let digits := digitsOf decimal.digits
  let place := pointPlace digits decimal.exponent
  if -5 < place ∧ place ≤ 16 then
    if 0 ≤ decimal.exponent then decimal.plainText ++ ['.', '0'] else decimal.plainText
  else
    let mantissa :=
      match digits with
      | first :: second :: rest => first :: '.' :: second :: rest
      | short => short
    let power := place - 1
    mantissa ++ 'e' :: (if power < 0 then '-' else '+') :: digitsOf power.natAbs

end Decimal

namespace Binary64

/-- A text after a minus where it is needed. -/
def withSign (negative : Bool) (text : List Char) : List Char :=
  if negative then '-' :: text else text

/-- The plain spelling: the fewest digits that read back, never an exponent. -/
def plainText : Binary64 → List Char
  | .nan => "NaN".toList
  | .infinite negative => withSign negative "inf".toList
  | .finite negative units _ =>
    withSign negative (if units = 0 then ['0'] else (shortest .up units).plainText)

/-- The record spelling of a finite number; the others have none. -/
def recordText? : Binary64 → Option (List Char)
  | .finite negative units _ =>
    some (withSign negative
      (if units = 0 then "0.0".toList else (shortest .even units).recordText))
  | _ => none

end Binary64

end Reconciliation
