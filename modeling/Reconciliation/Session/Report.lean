import Reconciliation.RowHash.Comparison
import Reconciliation.Statistic.Outcome

/-! # Reports

What a run over one vintage hands on: the outcomes, and the units of work that failed.
-/

namespace Reconciliation

/-- A unit of work that failed on one platform. -/
structure UnitFailure where
  platform : Platform
  unit : String
  message : String
  deriving DecidableEq, Repr

/-- The statistics of a vintage compared. -/
structure StatsReport where
  vintage : String
  outcomes : List ColumnOutcome
  failures : List UnitFailure

/-- The rows of a vintage compared. -/
structure HashReport where
  vintage : String
  outcome : HashOutcome
  failures : List UnitFailure
  deriving DecidableEq

end Reconciliation
