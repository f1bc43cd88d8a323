import Reconciliation.Handoff.Catalog
import Reconciliation.Statistic.Quality

/-! # Hand-off of statistics

Statistics, schemas, comparisons and column quality as documents, and back.
-/

namespace Reconciliation

/-- A frequency entry as a document. -/
def FrequencyEntry.toDocument (entry : FrequencyEntry) : Document :=
  .record [("value", .text entry.value), ("count", .ofOption .ofCount entry.count)]

/-- The frequency entry that a document denotes. -/
def FrequencyEntry.ofDocument? (document : Document) : Option FrequencyEntry := do
  let slots ← document.slots? ["value", "count"]
  return {
    value := ← (slots "value").required Document.text?
    count := ← (slots "count").nullable Document.count? }

def StatField.ofName? (name : String) : Option StatField :=
  StatField.all.find? (·.name == name)

def StatField.toDocument (field : StatField) : Document :=
  .text field.name

/-- The statistic that a document denotes. -/
def StatField.ofDocument? : Document → Option StatField :=
  Document.choice? (StatField.all.map fun field => (field.name, field))

def Tolerance.members (tolerance : Tolerance) : List (String × Document) :=
  [("atol", .float tolerance.absolute), ("rtol", .float tolerance.relative)]

/-- The tolerance among the members of a record; what lacks is standard. -/
def Tolerance.ofSlots? (slots : String → Slot) : Option Tolerance := do
  return {
    absolute := ← (slots "atol").orDefault Tolerance.standard.absolute Document.float?
    relative := ← (slots "rtol").orDefault Tolerance.standard.relative Document.float? }

/-- A kind of comparison as a document. -/
def ComparisonKind.toDocument (kind : ComparisonKind) : Document :=
  Document.withTag "kind" kind.name <| .record <|
    match kind with
    | .exact => []
    | .exactWithZeroAsNull => []
    | .numericTolerance tolerance => tolerance.members
    | .flexibleString tryDate tryNumeric tolerance =>
      ("try_date", .boolean tryDate) :: ("try_numeric", .boolean tryNumeric) :: tolerance.members
    | .frequencyList tolerance => tolerance.members

/-- The kind of comparison that a document denotes. -/
def ComparisonKind.ofDocument? (document : Document) : Option ComparisonKind := do
  let (kind, rest) ← document.tagged? "kind"
  match kind with
  | "exact" => return .exact
  | "exact_with_zero_as_null" => return .exactWithZeroAsNull
  | "numeric_tolerance" => return .numericTolerance (← Tolerance.ofSlots? (← rest.slots? ["atol", "rtol"]))
  | "flexible_string" =>
    let slots ← rest.slots? ["try_date", "try_numeric", "atol", "rtol"]
    let tryDate ← (slots "try_date").orDefault true Document.boolean?
    let tryNumeric ← (slots "try_numeric").orDefault true Document.boolean?
    return .flexibleString tryDate tryNumeric (← Tolerance.ofSlots? slots)
  | "frequency_list" => return .frequencyList (← Tolerance.ofSlots? (← rest.slots? ["atol", "rtol"]))
  | _ => none

def StatSchema.toDocument (schema : StatSchema) : Document :=
  .record
    [ ("fields", .ofMap StatField.name ComparisonKind.toDocument schema.kinds),
      ("zero_as_null_numeric", .boolean schema.zeroAsNull) ]

/-- The schema that a document denotes; what lacks is standard. -/
def StatSchema.ofDocument? (document : Document) : Option StatSchema := do
  let slots ← document.slots? ["fields", "zero_as_null_numeric"]
  return {
    kinds := ← (slots "fields").orDefault StatSchema.standard.kinds
      (Document.map? StatField.ofName? ComparisonKind.ofDocument?)
    zeroAsNull := ← (slots "zero_as_null_numeric").orDefault StatSchema.standard.zeroAsNull
      Document.boolean? }

/-- A row of statistics as a document. -/
def StatRow.toDocument (row : StatRow) : Document :=
  let scalar := Document.ofOption Document.ofScalar
  .record
    [ ("col_type", .ofOption .text row.columnType),
      ("count", scalar row.count),
      ("distinct", scalar row.distinct),
      ("min", scalar row.min),
      ("max", scalar row.max),
      ("mean", scalar row.mean),
      ("std", scalar row.std),
      ("sum", scalar row.sum),
      ("sum_sq", scalar row.sumSq),
      ("missing", scalar row.missing),
      ("frequency", .ofOption (.ofList FrequencyEntry.toDocument) row.frequency) ]

/-- The row of statistics that a document denotes. -/
def StatRow.ofDocument? (document : Document) : Option StatRow := do
  let slots ← document.slots?
    ["col_type", "count", "distinct", "min", "max", "mean", "std", "sum", "sum_sq", "missing",
      "frequency"]
  return {
    columnType := ← (slots "col_type").nullable Document.text?
    count := ← (slots "count").nullable Document.scalar?
    distinct := ← (slots "distinct").nullable Document.scalar?
    min := ← (slots "min").nullable Document.scalar?
    max := ← (slots "max").nullable Document.scalar?
    mean := ← (slots "mean").nullable Document.scalar?
    std := ← (slots "std").nullable Document.scalar?
    sum := ← (slots "sum").nullable Document.scalar?
    sumSq := ← (slots "sum_sq").nullable Document.scalar?
    missing := ← (slots "missing").nullable Document.scalar?
    frequency := ← (slots "frequency").nullable (Document.list? FrequencyEntry.ofDocument?) }

def Verdict.toDocument (verdict : Verdict) : Document :=
  .text verdict.name

/-- The verdict that a document denotes. -/
def Verdict.ofDocument? : Document → Option Verdict :=
  Document.choice? ([.pass, .partialPass, .fail].map fun verdict => (verdict.name, verdict))

/-- A mismatch of a statistic as a document. -/
def StatMismatch.toDocument (mismatch : StatMismatch) : Document :=
  .record
    [ ("statistic", mismatch.statistic.toDocument),
      ("left", .ofOption .text mismatch.values.legacy),
      ("right", .ofOption .text mismatch.values.cloud) ]

/-- The mismatch of a statistic that a document denotes. -/
def StatMismatch.ofDocument? (document : Document) : Option StatMismatch := do
  let slots ← document.slots? ["statistic", "left", "right"]
  return {
    statistic := ← (slots "statistic").required StatField.ofDocument?
    values :=
      ⟨← (slots "left").nullable Document.text?, ← (slots "right").nullable Document.text?⟩ }

/-- A comparison of a column as a document. -/
def ComparisonResult.toDocument (result : ComparisonResult) : Document :=
  .record
    [ ("column", .text result.column),
      ("per_statistic_match", .ofMap StatField.name .boolean result.agreement),
      ("mismatches", .ofList StatMismatch.toDocument result.mismatches),
      ("verdict", result.verdict.toDocument),
      ("left_type", .ofOption .text result.types.legacy),
      ("right_type", .ofOption .text result.types.cloud),
      ("left_stats", result.rows.legacy.toDocument),
      ("right_stats", result.rows.cloud.toDocument) ]

/-- The comparison of a column that a document denotes. -/
def ComparisonResult.ofDocument? (document : Document) : Option ComparisonResult := do
  let slots ← document.slots?
    ["column", "per_statistic_match", "mismatches", "verdict", "left_type", "right_type",
      "left_stats", "right_stats"]
  return {
    column := ← (slots "column").required Document.text?
    agreement := ← (slots "per_statistic_match").required
      (Document.map? StatField.ofName? Document.boolean?)
    mismatches := ← (slots "mismatches").required (Document.list? StatMismatch.ofDocument?)
    verdict := ← (slots "verdict").required Verdict.ofDocument?
    types :=
      ⟨← (slots "left_type").nullable Document.text?,
        ← (slots "right_type").nullable Document.text?⟩
    rows :=
      ⟨← (slots "left_stats").required StatRow.ofDocument?,
        ← (slots "right_stats").required StatRow.ofDocument?⟩ }

/-- What is said of a column, as a document. -/
def ColumnOutcome.toDocument : ColumnOutcome → Document
  | .compared result => Document.withTag "outcome" "compared" result.toDocument
  | .notComparable column missingOn =>
    Document.withTag "outcome" "not_comparable" <| .record
      [("column", .text column), ("missing_on", .ofList Platform.toDocument missingOn)]

/-- What a document says of a column. -/
def ColumnOutcome.ofDocument? (document : Document) : Option ColumnOutcome := do
  let (outcome, rest) ← document.tagged? "outcome"
  match outcome with
  | "compared" => return .compared (← ComparisonResult.ofDocument? rest)
  | "not_comparable" =>
    let slots ← rest.slots? ["column", "missing_on"]
    let column ← (slots "column").required Document.text?
    return .notComparable column
      (← (slots "missing_on").required (Document.list? Platform.ofDocument?))
  | _ => none

/-- A summary of a column as a document. -/
def ColumnSummary.toDocument (summary : ColumnSummary) : Document :=
  .record
    [ ("vintages", .ofCount summary.vintages),
      ("passed", .ofCount summary.passed),
      ("partial", .ofCount summary.passedPartly),
      ("failed", .ofCount summary.failed),
      ("not_comparable", .ofCount summary.notComparable),
      ("max_distinct", .ofOption .float summary.maxDistinct) ]

/-- The summary of a column that a document denotes. -/
def ColumnSummary.ofDocument? (document : Document) : Option ColumnSummary := do
  let slots ← document.slots?
    ["vintages", "passed", "partial", "failed", "not_comparable", "max_distinct"]
  return {
    vintages := ← (slots "vintages").required Document.count?
    passed := ← (slots "passed").required Document.count?
    passedPartly := ← (slots "partial").required Document.count?
    failed := ← (slots "failed").required Document.count?
    notComparable := ← (slots "not_comparable").required Document.count?
    maxDistinct := ← (slots "max_distinct").nullable Document.float? }

/-- The quality of columns as a document. -/
def ColumnQuality.toDocument (quality : ColumnQuality) : Document :=
  .record
    [ ("total_vintages", .ofCount quality.totalVintages),
      ("clean_columns", .ofList .text quality.cleanColumns),
      ("mismatched_columns", .ofList .text quality.mismatchedColumns),
      ("key_columns", .ofList .text quality.keyColumns),
      ("columns", .ofMap id ColumnSummary.toDocument quality.columns) ]

/-- The quality of columns that a document denotes. -/
def ColumnQuality.ofDocument? (document : Document) : Option ColumnQuality := do
  let slots ← document.slots?
    ["total_vintages", "clean_columns", "mismatched_columns", "key_columns", "columns"]
  let texts := Document.list? Document.text?
  return {
    totalVintages := ← (slots "total_vintages").required Document.count?
    cleanColumns := ← (slots "clean_columns").required texts
    mismatchedColumns := ← (slots "mismatched_columns").required texts
    keyColumns := ← (slots "key_columns").required texts
    columns := ← (slots "columns").required (Document.map? some ColumnSummary.ofDocument?) }

end Reconciliation
