import Reconciliation.Statistic.ComparisonKind

/-! # Statistics of a column

The statistics that are compared, in the order in which they are reported.
-/

namespace Reconciliation

/-- A statistic of a column. -/
inductive StatField where
  | count
  | distinct
  | min
  | max
  | mean
  | std
  | sum
  | sumSq
  | missing
  | frequency
  deriving DecidableEq, Repr

namespace StatField

def all : List StatField :=
  [.count, .distinct, .min, .max, .mean, .std, .sum, .sumSq, .missing, .frequency]

/-- The place of a statistic in reporting order. -/
def place : StatField → Nat
  | .count => 0
  | .distinct => 1
  | .min => 2
  | .max => 3
  | .mean => 4
  | .std => 5
  | .sum => 6
  | .sumSq => 7
  | .missing => 8
  | .frequency => 9

theorem place_injective {a b : StatField} (same : a.place = b.place) : a = b := by
  cases a <;> cases b <;> first | rfl | cases same

instance : LE StatField := ⟨fun a b => a.place ≤ b.place⟩

instance : LT StatField := ⟨fun a b => a.place < b.place⟩

instance : DecidableLE StatField := fun a b => inferInstanceAs (Decidable (a.place ≤ b.place))

instance : DecidableLT StatField := fun a b => inferInstanceAs (Decidable (a.place < b.place))

instance : Std.IsLinearOrder StatField where
  le_refl a := Nat.le_refl a.place
  le_trans a b c := Nat.le_trans (n := a.place) (m := b.place) (k := c.place)
  le_antisymm _ _ below above := place_injective (Nat.le_antisymm below above)
  le_total a b := Nat.le_total a.place b.place

instance : Std.LawfulOrderLT StatField where
  lt_iff a b := Nat.lt_iff_le_and_not_ge (m := a.place) (n := b.place)

def name : StatField → String
  | .count => "count"
  | .distinct => "distinct"
  | .min => "min"
  | .max => "max"
  | .mean => "mean"
  | .std => "std"
  | .sum => "sum"
  | .sumSq => "sum_sq"
  | .missing => "missing"
  | .frequency => "frequency"

/-- The name under which statistics queries project a statistic. -/
def projectedName : StatField → String
  | .count => "col_count"
  | .distinct => "col_distinct"
  | .min => "col_min"
  | .max => "col_max"
  | .mean => "col_avg"
  | .std => "col_std"
  | .sum => "col_sum"
  | .sumSq => "col_sum_sq"
  | .missing => "col_missing"
  | .frequency => "col_freq"

/-- Whether a statistic is the frequency list. -/
def isFrequency (field : StatField) : Bool :=
  field = .frequency

/-- How a statistic is compared unless a schema says otherwise. -/
def defaultKind : StatField → ComparisonKind
  | .count => .exactWithZeroAsNull
  | .distinct => .exactWithZeroAsNull
  | .missing => .exactWithZeroAsNull
  | .min => .flexible
  | .max => .flexible
  | .mean => .numeric
  | .std => .numeric
  | .sum => .numeric
  | .sumSq => .numeric
  | .frequency => .frequencies

end StatField

end Reconciliation
