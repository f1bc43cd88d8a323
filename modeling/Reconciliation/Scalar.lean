import Reconciliation.Number.DecimalText
import Reconciliation.Number.Numeral
import Reconciliation.Text.Blank

/-! # Scalars

A single value as a database returns it: an integer, a binary64 number or text. Databases differ
in which of these they choose for one and the same number, so a scalar has a numeric view, and
counts are coerced to integers.
-/

namespace Reconciliation

/-- A value of a result. -/
inductive Scalar where
  | integer (value : Int64)
  | float (value : Binary64)
  | text (value : String)
  deriving DecidableEq

namespace Scalar

/-- The numeric view. A text has one if it denotes a finite number, blanks around it aside. -/
def number? : Scalar → Option Binary64
  | .integer value => some (.ofInt value.toInt)
  | .float value => some value
  | .text value => (Binary64.ofText? (Text.trimBoth value.toList)).filter Binary64.isFinite

/-- Whether the numeric view is zero. -/
def isZero (scalar : Scalar) : Bool :=
  scalar.number?.any (Binary64.eq · .zero)

/-- Whether a scalar is a number rather than text. -/
def isNumber : Scalar → Bool
  | .text _ => false
  | _ => true

/-- The integer that a number is, if it is one of fewer than 64 bits. -/
def integerOf? (number : Binary64) : Option Int64 :=
  (number.toInt?.filter fun value => value.natAbs < integerBound).map Int64.ofInt

/-- A scalar that denotes an integer, as that integer. -/
def coerceInteger : Scalar → Scalar
  | .integer value => .integer value
  | .float value => ((integerOf? value).map Scalar.integer).getD (.float value)
  | .text value =>
    let trimmed := Text.trimBoth value.toList
    match integerOfText? trimmed with
    | some read => .integer (.ofInt read)
    | none =>
      (((Binary64.ofText? trimmed).bind integerOf?).map Scalar.integer).getD (.text value)

/-- Whether two scalars are the same number or the same text. -/
def exactlyEqual : Scalar → Scalar → Bool
  | .integer a, .integer b => a == b
  | .text a, .text b => a == b
  | .integer a, .float b => (Binary64.ofInt a.toInt).eq b
  | .float a, .integer b => a.eq (.ofInt b.toInt)
  | .float a, .float b => a.eq b
  | _, _ => false

def display : Scalar → String
  | .integer value => String.ofList (signedDigits value.toInt)
  | .float value => String.ofList value.plainText
  | .text value => value

end Scalar

end Reconciliation
