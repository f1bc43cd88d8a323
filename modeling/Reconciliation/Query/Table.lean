import Reconciliation.Failure
import Reconciliation.Text.Search

/-! # Table references

A table is named by the schema that holds it and its own name, neither of them blank.
-/

namespace Reconciliation

/-- The name of a table with the schema that holds it. -/
structure TableRef where
  qualifier : String
  table : String
  deriving DecidableEq, Repr

namespace TableRef

/-- The reference of two names, without the blanks around them. -/
def of? (qualifier table : String) : Except CompilationFault TableRef :=
  let qualifier := Text.trim qualifier
  let table := Text.trim table
  if qualifier.isEmpty || table.isEmpty then .error (.incompleteReference qualifier table)
  else .ok ⟨qualifier, table⟩

/-- The reference that a text denotes: both names with a point between them. Further points
belong to the name of the table. -/
def ofText? (text : String) : Except CompilationFault TableRef :=
  match Text.splitFirst? ['.'] (Text.trimBoth text.toList) with
  | some (qualifier, table) => of? (String.ofList qualifier) (String.ofList table)
  | none => .error (.missingQualifier text)

/-- The reference as its user wrote it. -/
def text (reference : TableRef) : String :=
  s!"{reference.qualifier}.{reference.table}"

/-- The reference in the case that a platform folds it to. -/
def render (reference : TableRef) (platform : Platform) : String :=
  s!"{platform.identifier reference.qualifier}.{platform.identifier reference.table}"

end TableRef

end Reconciliation
