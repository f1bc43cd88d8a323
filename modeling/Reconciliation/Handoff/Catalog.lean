import Reconciliation.Crosswalk
import Reconciliation.Document.Members
import Reconciliation.Partition
import Reconciliation.Query.Table

/-! # Hand-off of catalogs

Platforms, columns, partition columns, tables and crosswalks as documents, and back.
-/

namespace Reconciliation

def Platform.toDocument (platform : Platform) : Document :=
  .text platform.name

/-- The platform that a document denotes. -/
def Platform.ofDocument? : Document → Option Platform :=
  Document.choice? (Platform.all.map fun platform => (platform.name, platform))

def ColumnCategory.name : ColumnCategory → String
  | .continuous => "continuous"
  | .categorical => "categorical"

def ColumnCategory.toDocument (category : ColumnCategory) : Document :=
  .text category.name

/-- The category that a document denotes. -/
def ColumnCategory.ofDocument? : Document → Option ColumnCategory :=
  Document.choice? ([.continuous, .categorical].map fun category => (category.name, category))

def TypeFamily.name : TypeFamily → String
  | .numeric => "numeric"
  | .text => "text"
  | .date => "date"
  | .timestamp => "timestamp"
  | .other => "other"

def TypeFamily.toDocument (family : TypeFamily) : Document :=
  .text family.name

/-- The family that a document denotes. -/
def TypeFamily.ofDocument? : Document → Option TypeFamily :=
  Document.choice?
    ([.numeric, .text, .date, .timestamp, .other].map fun family => (family.name, family))

def Granularity.toDocument (granularity : Granularity) : Document :=
  .text granularity.name

/-- The granularity that a document denotes. -/
def Granularity.ofDocument? : Document → Option Granularity :=
  Document.choice?
    ([.day, .week, .month, .whole, .snapshot].map fun granularity =>
      (granularity.name, granularity))

def TextLayout.toDocument (layout : TextLayout) : Document :=
  .text layout.name

/-- The layout that a document denotes. -/
def TextLayout.ofDocument? : Document → Option TextLayout :=
  Document.choice? ([.compact, .dashed, .slashed].map fun layout => (layout.name, layout))

def DateStorage.toDocument : DateStorage → Document
  | .date => .record [("kind", .text "date")]
  | .timestamp => .record [("kind", .text "timestamp")]
  | .text layout => .record [("kind", .text "text"), ("format", layout.toDocument)]

/-- The storage that a document denotes. Only text has a layout. -/
def DateStorage.ofDocument? (document : Document) : Option DateStorage := do
  let (kind, rest) ← document.tagged? "kind"
  let slots ← rest.slots? ["format"]
  let bare : Option Unit :=
    match slots "format" with
    | .omitted => some ()
    | .written .null => some ()
    | _ => none
  match kind with
  | "date" => bare.map fun _ => .date
  | "timestamp" => bare.map fun _ => .timestamp
  | "text" => ((slots "format").required TextLayout.ofDocument?).map .text
  | _ => none

/-- A partition column as a document. -/
def PartitionColumn.toDocument (column : PartitionColumn) : Document :=
  .record [("name", .text column.name), ("storage", column.storage.toDocument)]

/-- The partition column that a document denotes. -/
def PartitionColumn.ofDocument? (document : Document) : Option PartitionColumn := do
  let slots ← document.slots? ["name", "storage"]
  return {
    name := ← (slots "name").required Document.text?
    storage := ← (slots "storage").required DateStorage.ofDocument? }

def Column.toDocument (column : Column) : Document :=
  .record
    [ ("name", .text column.name),
      ("data_type", .text column.dataType),
      ("platform", column.platform.toDocument),
      ("category", column.category.toDocument) ]

/-- The column that a document denotes. -/
def Column.ofDocument? (document : Document) : Option Column := do
  let slots ← document.slots? ["name", "data_type", "platform", "category"]
  return {
    name := ← (slots "name").required Document.text?
    dataType := ← (slots "data_type").required Document.text?
    platform := ← (slots "platform").required Platform.ofDocument?
    category := ← (slots "category").required ColumnCategory.ofDocument? }

/-- A pair of values as a document. -/
def Both.toDocument {α : Type} (write : α → Document) (both : Both α) : Document :=
  .record [("legacy", write both.legacy), ("cloud", write both.cloud)]

/-- The pair of values that a document denotes. -/
def Both.ofDocument? {α : Type} (read? : Document → Option α) (document : Document) :
    Option (Both α) := do
  let slots ← document.slots? ["legacy", "cloud"]
  return ⟨← (slots "legacy").required read?, ← (slots "cloud").required read?⟩

/-- A pair of columns as a document. -/
def ColumnPair.toDocument (pair : ColumnPair) : Document :=
  Both.toDocument Column.toDocument pair

/-- The pair of columns that a document denotes. -/
def ColumnPair.ofDocument? : Document → Option ColumnPair :=
  Both.ofDocument? Column.ofDocument?

def ColumnMapping.toDocument (mapping : ColumnMapping) : Document :=
  .record
    [ ("source_column", .text mapping.source),
      ("target_column", .text mapping.target),
      ("excluded", .boolean mapping.excluded) ]

/-- The mapping that a document denotes. -/
def ColumnMapping.ofDocument? (document : Document) : Option ColumnMapping := do
  let slots ← document.slots? ["source_column", "target_column", "excluded"]
  return {
    source := ← (slots "source_column").required Document.text?
    target := ← (slots "target_column").required Document.text?
    excluded := ← (slots "excluded").orDefault false Document.boolean? }

/-- A type mismatch as a document. -/
def TypeMismatch.toDocument (mismatch : TypeMismatch) : Document :=
  .record
    [ ("legacy_column", .text mismatch.columns.legacy),
      ("cloud_column", .text mismatch.columns.cloud),
      ("legacy_type", .text mismatch.types.legacy),
      ("cloud_type", .text mismatch.types.cloud) ]

/-- The type mismatch that a document denotes. -/
def TypeMismatch.ofDocument? (document : Document) : Option TypeMismatch := do
  let slots ← document.slots? ["legacy_column", "cloud_column", "legacy_type", "cloud_type"]
  return {
    columns :=
      ⟨← (slots "legacy_column").required Document.text?,
        ← (slots "cloud_column").required Document.text?⟩
    types :=
      ⟨← (slots "legacy_type").required Document.text?,
        ← (slots "cloud_type").required Document.text?⟩ }

def Crosswalk.toDocument (crosswalk : Crosswalk) : Document :=
  .record
    [ ("comparable", .ofList ColumnPair.toDocument crosswalk.comparable),
      ("tokenized", .ofList .text crosswalk.tokenized),
      ("legacy_only", .ofList .text crosswalk.legacyOnly),
      ("cloud_only", .ofList .text crosswalk.cloudOnly),
      ("dangling", .ofList ColumnMapping.toDocument crosswalk.dangling),
      ("type_mismatches", .ofList TypeMismatch.toDocument crosswalk.typeMismatches) ]

/-- The crosswalk that a document denotes. -/
def Crosswalk.ofDocument? (document : Document) : Option Crosswalk := do
  let slots ← document.slots?
    ["comparable", "tokenized", "legacy_only", "cloud_only", "dangling", "type_mismatches"]
  let texts := Document.list? Document.text?
  return {
    comparable := ← (slots "comparable").required (Document.list? ColumnPair.ofDocument?)
    tokenized := ← (slots "tokenized").required texts
    legacyOnly := ← (slots "legacy_only").required texts
    cloudOnly := ← (slots "cloud_only").required texts
    dangling := ← (slots "dangling").required (Document.list? ColumnMapping.ofDocument?)
    typeMismatches :=
      ← (slots "type_mismatches").required (Document.list? TypeMismatch.ofDocument?) }

/-- A table reference as a document. -/
def TableRef.toDocument (reference : TableRef) : Document :=
  .record [("qualifier", .text reference.qualifier), ("table", .text reference.table)]

/-- The table reference that a document denotes. -/
def TableRef.ofDocument? (document : Document) : Option TableRef := do
  let slots ← document.slots? ["qualifier", "table"]
  return {
    qualifier := ← (slots "qualifier").required Document.text?
    table := ← (slots "table").required Document.text? }

end Reconciliation
