import Reconciliation.Calendar.Layout
import Reconciliation.Scalar
import Reconciliation.Statistic.Frequency

/-! # Kinds of comparison

When two values of a statistic count as equal: exactly, within a tolerance, as dates, or entry by
entry of a frequency list.
-/

namespace Reconciliation

/-- How far apart two equal numbers may be. -/
structure Tolerance where
  /-- The part that is the same for all numbers. -/
  absolute : Binary64
  /-- The part that grows with the second number. -/
  relative : Binary64
  deriving DecidableEq

namespace Tolerance

def millionth : Binary64 := .ofDecimal false 1 (-6)

/-- The tolerance unless another is set. -/
def standard : Tolerance := ⟨millionth, millionth⟩

/-- Whether `a` is no further from `b` than `absolute + relative * |b|`. -/
def accepts (tolerance : Tolerance) (a b : Binary64) : Bool :=
  (a.sub b).abs.le (tolerance.absolute.add (tolerance.relative.mul b.abs))

end Tolerance

/-- When two values of a statistic count as equal. -/
inductive ComparisonKind where
  /-- The same number or text. -/
  | exact
  /-- The same number or text, or zero against NULL. -/
  | exactWithZeroAsNull
  /-- Numbers within a tolerance. -/
  | numericTolerance (tolerance : Tolerance)
  /-- The same day, or numbers within a tolerance, or the same text. -/
  | flexibleString (tryDate tryNumeric : Bool) (tolerance : Tolerance)
  /-- Frequency lists that agree entry by entry. -/
  | frequencyList (tolerance : Tolerance)
  deriving DecidableEq

/-- A statistic as a comparison meets it. -/
inductive StatValue where
  | scalar (value : Option Scalar)
  | frequency (entries : Option (List FrequencyEntry))
  deriving DecidableEq

namespace StatValue

def scalar? : StatValue → Option Scalar
  | .scalar value => value
  | .frequency entries => entries.map fun entries => .text (FrequencyEntry.listText entries)

/-- A statistic as a frequency list. -/
def frequency? : StatValue → Option (List FrequencyEntry)
  | .scalar value => value.map fun value => FrequencyEntry.ofText value.display
  | .frequency entries => entries

def display? (value : StatValue) : Option String :=
  value.scalar?.map Scalar.display

end StatValue

namespace ComparisonKind

def numeric : ComparisonKind := .numericTolerance .standard

/-- Anything that looks alike, within the standard tolerance. -/
def flexible : ComparisonKind := .flexibleString true true .standard

/-- Frequency lists within the standard tolerance. -/
def frequencies : ComparisonKind := .frequencyList .standard

def name : ComparisonKind → String
  | .exact => "exact"
  | .exactWithZeroAsNull => "exact_with_zero_as_null"
  | .numericTolerance _ => "numeric_tolerance"
  | .flexibleString _ _ _ => "flexible_string"
  | .frequencyList _ => "frequency_list"

/-- The tolerance of a kind that has one. -/
def tolerance? : ComparisonKind → Option Tolerance
  | .numericTolerance tolerance => some tolerance
  | .flexibleString _ _ tolerance => some tolerance
  | .frequencyList tolerance => some tolerance
  | _ => none

/-- A kind with another tolerance, if it has one. -/
def withTolerance (tolerance : Tolerance) : ComparisonKind → ComparisonKind
  | .numericTolerance _ => .numericTolerance tolerance
  | .flexibleString tryDate tryNumeric _ => .flexibleString tryDate tryNumeric tolerance
  | .frequencyList _ => .frequencyList tolerance
  | kind => kind

/-- Whether a kind reads its values as numbers. -/
def isNumeric : ComparisonKind → Bool
  | .exactWithZeroAsNull => true
  | .numericTolerance _ => true
  | _ => false

/-- Whether one of two optional values is NULL and the other zero. -/
def isZeroAgainstNull : Option Scalar → Option Scalar → Bool
  | some value, none => value.isZero
  | none, some value => value.isZero
  | _, _ => false

/-- Whether two optional values are both NULL, or both there and related. -/
def relateOptional (relate : Scalar → Scalar → Bool) : Option Scalar → Option Scalar → Bool
  | none, none => true
  | some left, some right => relate left right
  | _, _ => false

/-- Whether the numeric views of two values are within a tolerance. -/
def numericallyEqual (tolerance : Tolerance) (left right : Scalar) : Bool :=
  match left.number?, right.number? with
  | some a, some b => tolerance.accepts a b
  | _, _ => false

/-- Whether two values look alike: as days if both denote one, else as numbers if both denote
one, else as text. -/
def flexiblyEqual (tryDate tryNumeric : Bool) (tolerance : Tolerance) (left right : Scalar) :
    Bool :=
  let days := if tryDate then
      (Date.recognise? left.display).bind fun a => (Date.recognise? right.display).map (a, ·)
    else none
  let numbers := if tryNumeric then left.number?.bind fun a => right.number?.map (a, ·) else none
  match days, numbers with
  | some (a, b), _ => a = b
  | none, some (a, b) => tolerance.accepts a b
  | none, none => left.display == right.display

/-- Whether two entries look alike and have counts within a tolerance. -/
def entriesEqual (tolerance : Tolerance) (left right : FrequencyEntry) : Bool :=
  flexiblyEqual true true tolerance (.text left.value) (.text right.value) &&
    match left.count, right.count with
    | some a, some b => tolerance.accepts (.ofNat a) (.ofNat b)
    | _, _ => false

/-- Whether two lists of the same length are related entry by entry. -/
def relateLists {α : Type} (relate : α → α → Bool) : List α → List α → Bool
  | [], [] => true
  | a :: as, b :: bs => relate a b && relateLists relate as bs
  | _, _ => false

/-- Whether two values of a statistic are equal under a kind. A lacking list is an empty one. -/
def accepts (kind : ComparisonKind) (left right : StatValue) : Bool :=
  match kind with
  | .exact => relateOptional Scalar.exactlyEqual left.scalar? right.scalar?
  | .exactWithZeroAsNull =>
    isZeroAgainstNull left.scalar? right.scalar? ||
      relateOptional Scalar.exactlyEqual left.scalar? right.scalar?
  | .numericTolerance tolerance =>
    relateOptional (numericallyEqual tolerance) left.scalar? right.scalar?
  | .flexibleString tryDate tryNumeric tolerance =>
    relateOptional (flexiblyEqual tryDate tryNumeric tolerance) left.scalar? right.scalar?
  | .frequencyList tolerance =>
    relateLists (entriesEqual tolerance) (left.frequency?.getD []) (right.frequency?.getD [])

end ComparisonKind

end Reconciliation
