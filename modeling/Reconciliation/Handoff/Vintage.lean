import Reconciliation.Handoff.Catalog
import Reconciliation.Vintage.Validation

/-! # Hand-off of vintages

Windows, row counts, table sides and validated vintages as documents, and back.
-/

namespace Reconciliation

def Window.toDocument (window : Window) : Document :=
  .record
    [ ("label", .text window.label),
      ("start", .ofOption .ofDate window.start),
      ("end", .ofOption .ofDate window.stop) ]

/-- The window that a document denotes. -/
def Window.ofDocument? (document : Document) : Option Window := do
  let slots ← document.slots? ["label", "start", "end"]
  return {
    label := ← (slots "label").required Document.text?
    start := ← (slots "start").nullable Document.date?
    stop := ← (slots "end").nullable Document.date? }

/-- The members that tell the window of a vintage. -/
def Window.vintageMembers (window : Window) : List (String × Document) :=
  [ ("label", .text window.label),
    ("start_date", .ofOption .ofDate window.start),
    ("end_date", .ofOption .ofDate window.stop) ]

/-- The window of a vintage among the members of a record. -/
def Window.ofVintageSlots? (slots : String → Slot) : Option Window := do
  return {
    label := ← (slots "label").required Document.text?
    start := ← (slots "start_date").nullable Document.date?
    stop := ← (slots "end_date").nullable Document.date? }

def Vintage.toDocument (vintage : Vintage) : Document :=
  .record <| vintage.window.vintageMembers ++
    [ ("legacy_predicate", .text vintage.predicates.legacy),
      ("cloud_predicate", .text vintage.predicates.cloud) ]

/-- The vintage that a document denotes. -/
def Vintage.ofDocument? (document : Document) : Option Vintage := do
  let slots ← document.slots?
    ["label", "start_date", "end_date", "legacy_predicate", "cloud_predicate"]
  return {
    window := ← Window.ofVintageSlots? slots
    predicates :=
      ⟨← (slots "legacy_predicate").required Document.text?,
        ← (slots "cloud_predicate").required Document.text?⟩ }

/-- A mismatch of a day as a document. -/
def DateMismatch.toDocument (mismatch : DateMismatch) : Document :=
  .record
    [ ("date", .ofDate mismatch.date),
      ("legacy_count", .ofCount mismatch.counts.legacy),
      ("cloud_count", .ofCount mismatch.counts.cloud) ]

/-- The mismatch of a day that a document denotes. -/
def DateMismatch.ofDocument? (document : Document) : Option DateMismatch := do
  let slots ← document.slots? ["date", "legacy_count", "cloud_count"]
  return {
    date := ← (slots "date").required Document.date?
    counts :=
      ⟨← (slots "legacy_count").required Document.count?,
        ← (slots "cloud_count").required Document.count?⟩ }

/-- A comparison of row counts as a document. -/
def RowCountComparison.toDocument (comparison : RowCountComparison) : Document :=
  .record
    [ ("total_days", .ofCount comparison.totalDays),
      ("matched_days", .ofCount comparison.matchedDays),
      ("legacy_total", .ofCount comparison.totals.legacy),
      ("cloud_total", .ofCount comparison.totals.cloud),
      ("mismatches", .ofList DateMismatch.toDocument comparison.mismatches),
      ("row_match_all", .boolean comparison.matchesAll) ]

/-- The comparison of row counts that a document denotes. -/
def RowCountComparison.ofDocument? (document : Document) : Option RowCountComparison := do
  let slots ← document.slots?
    ["total_days", "matched_days", "legacy_total", "cloud_total", "mismatches", "row_match_all"]
  return {
    totalDays := ← (slots "total_days").required Document.count?
    matchedDays := ← (slots "matched_days").required Document.count?
    totals :=
      ⟨← (slots "legacy_total").required Document.count?,
        ← (slots "cloud_total").required Document.count?⟩
    mismatches := ← (slots "mismatches").required (Document.list? DateMismatch.ofDocument?)
    matchesAll := ← (slots "row_match_all").required Document.boolean? }

def RowCounts.toDocument (counts : RowCounts) : Document :=
  .ofMap Date.text .ofCount counts

/-- The row counts that a document denotes. -/
def RowCounts.ofDocument? : Document → Option RowCounts :=
  Document.map? Date.ofText? Document.count?

/-- A table side as a document. -/
def TableSide.toDocument (side : TableSide) : Document :=
  .record
    [ ("accessible", .boolean side.accessible),
      ("partition", .ofOption PartitionColumn.toDocument side.partition),
      ("base_filter", .ofOption .text side.baseFilter),
      ("row_counts", RowCounts.toDocument side.rowCounts),
      ("total_rows", .ofOption .ofCount side.totalRows) ]

/-- The table side that a document denotes. -/
def TableSide.ofDocument? (document : Document) : Option TableSide := do
  let slots ← document.slots?
    ["accessible", "partition", "base_filter", "row_counts", "total_rows"]
  return {
    accessible := ← (slots "accessible").required Document.boolean?
    partition := ← (slots "partition").nullable PartitionColumn.ofDocument?
    baseFilter := ← (slots "base_filter").nullable Document.text?
    rowCounts := ← (slots "row_counts").orDefault .empty RowCounts.ofDocument?
    totalRows := ← (slots "total_rows").orDefault none (Document.nullable? Document.count?) }

/-- A validated vintage as a document. -/
def ValidatedVintage.toDocument (vintage : ValidatedVintage) : Document :=
  .record <| vintage.window.vintageMembers ++
    [ ("legacy_filter", .text vintage.filters.legacy),
      ("cloud_filter", .text vintage.filters.cloud),
      ("excluded_dates", .ofList .ofDate vintage.excludedDates),
      ("fingerprint", .text vintage.fingerprint) ]

/-- The validated vintage that a document denotes. -/
def ValidatedVintage.ofDocument? (document : Document) : Option ValidatedVintage := do
  let slots ← document.slots?
    ["label", "start_date", "end_date", "legacy_filter", "cloud_filter", "excluded_dates",
      "fingerprint"]
  return {
    window := ← Window.ofVintageSlots? slots
    filters :=
      ⟨← (slots "legacy_filter").required Document.text?,
        ← (slots "cloud_filter").required Document.text?⟩
    excludedDates := ← (slots "excluded_dates").required (Document.list? Document.date?)
    fingerprint := ← (slots "fingerprint").required Document.text? }

def ExclusionReason.toDocument : ExclusionReason → Document
  | .notAccessible platform =>
    .record [("kind", .text "not_accessible"), ("platform", platform.toDocument)]
  | .noOverlap => .record [("kind", .text "no_overlap")]
  | .outOfRange => .record [("kind", .text "out_of_range")]

/-- The reason that a document denotes. -/
def ExclusionReason.ofDocument? (document : Document) : Option ExclusionReason := do
  let (kind, rest) ← document.tagged? "kind"
  match kind with
  | "not_accessible" =>
    let slots ← rest.slots? ["platform"]
    return .notAccessible (← (slots "platform").required Platform.ofDocument?)
  | "no_overlap" => return .noOverlap
  | "out_of_range" => return .outOfRange
  | _ => none

/-- A table with its vintages as a document. -/
def TableValidation.toDocument (validation : TableValidation) : Document :=
  .record
    [ ("table", .text validation.table),
      ("granularity", validation.granularity.toDocument),
      ("row_counts", validation.rowCounts.toDocument),
      ("vintages", .ofList ValidatedVintage.toDocument validation.vintages) ]

/-- The table with its vintages that a document denotes. -/
def TableValidation.ofDocument? (document : Document) : Option TableValidation := do
  let slots ← document.slots? ["table", "granularity", "row_counts", "vintages"]
  return {
    table := ← (slots "table").required Document.text?
    granularity := ← (slots "granularity").required Granularity.ofDocument?
    rowCounts := ← (slots "row_counts").required RowCountComparison.ofDocument?
    vintages := ← (slots "vintages").required (Document.list? ValidatedVintage.ofDocument?) }

/-- What validation says of a table, as a document. -/
def TableOutcome.toDocument : TableOutcome → Document
  | .validated validation => Document.withTag "status" "validated" validation.toDocument
  | .excluded table reason =>
    Document.withTag "status" "excluded" <| .record
      [("table", .text table), ("reason", reason.toDocument)]

/-- What a document says of a table. -/
def TableOutcome.ofDocument? (document : Document) : Option TableOutcome := do
  let (status, rest) ← document.tagged? "status"
  match status with
  | "validated" => return .validated (← TableValidation.ofDocument? rest)
  | "excluded" =>
    let slots ← rest.slots? ["table", "reason"]
    let table ← (slots "table").required Document.text?
    return .excluded table (← (slots "reason").required ExclusionReason.ofDocument?)
  | _ => none

end Reconciliation
