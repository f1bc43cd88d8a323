import Reconciliation.Failure
import Reconciliation.Query.Result
import Reconciliation.Text.Search

/-! # Databases

A database answers a statement with a result, or fails. A scripted database takes its answers from
a list of patterns.
-/

namespace Reconciliation

/-- What a database says to a statement. -/
abbrev Answer := Except Failure QueryResult

/-- A database. It answers equal statements alike. -/
structure Database where
  platform : Platform
  answer : String → Answer

/-- What a scripted database says. -/
inductive Reply where
  | rows (result : QueryResult)
  | failure (message : String)
  deriving DecidableEq

/-- A pattern with the reply to the statements that hold it. -/
structure ScriptLine where
  pattern : String
  reply : Reply
  deriving DecidableEq

namespace ScriptLine

/-- The reply of a line as the answer of a platform. A failure names the pattern that it stands
for. -/
def answer (platform : Platform) (line : ScriptLine) : Answer :=
  match line.reply with
  | .rows result => .ok result
  | .failure message => .error (.execution platform line.pattern message)

end ScriptLine

namespace Database

/-- The database that answers by a script: the first line whose pattern a statement holds replies,
and a statement without such a line gives no rows. -/
def scripted (platform : Platform) (script : List ScriptLine) : Database :=
  { platform
    answer := fun statement =>
      match script.find? fun line => Text.contains statement line.pattern with
      | some line => line.answer platform
      | none => .ok {} }

end Database

end Reconciliation
