import Reconciliation.Handoff.RowHash
import Reconciliation.Handoff.Statistic
import Reconciliation.Session.Report

/-! # Hand-off of reports

Query results and reports as documents, and back.
-/

namespace Reconciliation

/-- A query result as a document. -/
def QueryResult.toDocument (result : QueryResult) : Document :=
  .record
    [ ("columns", .ofList .text result.columns),
      ("rows", .ofList (.ofList (.ofOption .ofScalar)) result.rows) ]

/-- The query result that a document denotes. -/
def QueryResult.ofDocument? (document : Document) : Option QueryResult := do
  let slots ← document.slots? ["columns", "rows"]
  return {
    columns := ← (slots "columns").required (Document.list? Document.text?)
    rows := ← (slots "rows").required
      (Document.list? (Document.list? (Document.nullable? Document.scalar?))) }

def Record.toDocument (record : Record) : Document :=
  .ofMap id (.ofOption .ofScalar) record

/-- The record that a document denotes. -/
def Record.ofDocument? : Document → Option Record :=
  Document.map? some (Document.nullable? Document.scalar?)

/-- A failed unit as a document. -/
def UnitFailure.toDocument (failure : UnitFailure) : Document :=
  .record
    [ ("platform", failure.platform.toDocument),
      ("unit", .text failure.unit),
      ("message", .text failure.message) ]

/-- The failed unit that a document denotes. -/
def UnitFailure.ofDocument? (document : Document) : Option UnitFailure := do
  let slots ← document.slots? ["platform", "unit", "message"]
  return {
    platform := ← (slots "platform").required Platform.ofDocument?
    unit := ← (slots "unit").required Document.text?
    message := ← (slots "message").required Document.text? }

/-- A report on statistics as a document. -/
def StatsReport.toDocument (report : StatsReport) : Document :=
  .record
    [ ("vintage", .text report.vintage),
      ("outcomes", .ofList ColumnOutcome.toDocument report.outcomes),
      ("failures", .ofList UnitFailure.toDocument report.failures) ]

/-- The report on statistics that a document denotes. -/
def StatsReport.ofDocument? (document : Document) : Option StatsReport := do
  let slots ← document.slots? ["vintage", "outcomes", "failures"]
  return {
    vintage := ← (slots "vintage").required Document.text?
    outcomes := ← (slots "outcomes").required (Document.list? ColumnOutcome.ofDocument?)
    failures := ← (slots "failures").required (Document.list? UnitFailure.ofDocument?) }

/-- A report on rows as a document. -/
def HashReport.toDocument (report : HashReport) : Document :=
  .record
    [ ("vintage", .text report.vintage),
      ("outcome", report.outcome.toDocument),
      ("failures", .ofList UnitFailure.toDocument report.failures) ]

/-- The report on rows that a document denotes. -/
def HashReport.ofDocument? (document : Document) : Option HashReport := do
  let slots ← document.slots? ["vintage", "outcome", "failures"]
  return {
    vintage := ← (slots "vintage").required Document.text?
    outcome := ← (slots "outcome").required HashOutcome.ofDocument?
    failures := ← (slots "failures").required (Document.list? UnitFailure.ofDocument?) }

end Reconciliation
