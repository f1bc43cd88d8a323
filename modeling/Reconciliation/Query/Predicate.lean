import Reconciliation.Text.Blank

/-! # Predicates and literals

A filter is the text of an SQL predicate. Blank filters and the predicate that always holds
restrict nothing, so composing filters drops them. A text literal doubles the quotes within it.
-/

namespace Reconciliation

/-- The predicate that holds for every row. -/
def alwaysTrue : String := "1=1"

/-- The predicate of an optional filter. -/
def wherePredicate (filter : Option String) : String :=
  match filter.map Text.trim with
  | some predicate => if predicate.isEmpty then alwaysTrue else predicate
  | none => alwaysTrue

/-- The predicate that holds where all the given ones do. -/
def allOf (predicates : List String) : String :=
  let restricting := (predicates.map Text.trim).filter fun predicate =>
    !predicate.isEmpty && predicate != alwaysTrue
  if restricting.isEmpty then alwaysTrue
  else " AND ".intercalate (restricting.map fun predicate => s!"({predicate})")

/-- The mark at both ends of a text literal. -/
def quoteMark : Char := '\x27'

/-- One character within a text literal. -/
def quotedChar (c : Char) : List Char :=
  if c = quoteMark then [quoteMark, quoteMark] else [c]

def quoteLiteral (text : String) : String :=
  String.ofList (quoteMark :: text.toList.flatMap quotedChar ++ [quoteMark])

end Reconciliation
