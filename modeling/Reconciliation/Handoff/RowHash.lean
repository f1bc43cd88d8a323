import Reconciliation.Handoff.Catalog
import Reconciliation.RowHash.Comparison

/-! # Hand-off of hashed rows

Hashed rows, their comparison and the options of hashing as documents, and back.
-/

namespace Reconciliation

-- Powers stay those of the core library, whatever else is imported beside this module.
attribute [local instance (high)] instPowNat

def RowKey.toDocument (key : RowKey) : Document :=
  .ofList (.ofOption .text) key.values

/-- The key that a document denotes. -/
def RowKey.ofDocument? (document : Document) : Option RowKey :=
  (document.list? (Document.nullable? Document.text?)).map RowKey.mk

def HashRow.toDocument (row : HashRow) : Document :=
  .record [("key", row.key.toDocument), ("hash", .text row.hash)]

/-- The row that a document denotes. -/
def HashRow.ofDocument? (document : Document) : Option HashRow := do
  let slots ← document.slots? ["key", "hash"]
  return {
    key := ← (slots "key").required RowKey.ofDocument?
    hash := ← (slots "hash").required Document.text? }

/-- A pair of rows that differ as a document. -/
def HashMismatch.toDocument (mismatch : HashMismatch) : Document :=
  .record
    [ ("key", mismatch.key.toDocument),
      ("left_hash", .text mismatch.hashes.legacy),
      ("right_hash", .text mismatch.hashes.cloud) ]

/-- The pair of rows that differ that a document denotes. -/
def HashMismatch.ofDocument? (document : Document) : Option HashMismatch := do
  let slots ← document.slots? ["key", "left_hash", "right_hash"]
  return {
    key := ← (slots "key").required RowKey.ofDocument?
    hashes :=
      ⟨← (slots "left_hash").required Document.text?,
        ← (slots "right_hash").required Document.text?⟩ }

/-- A comparison of rows as a document. -/
def RowHashComparison.toDocument (comparison : RowHashComparison) : Document :=
  .record
    [ ("left_rows", .ofCount comparison.rows.legacy),
      ("right_rows", .ofCount comparison.rows.cloud),
      ("matched", .ofCount comparison.matched),
      ("hash_mismatch", .ofCount comparison.hashMismatch),
      ("left_only", .ofCount comparison.only.legacy),
      ("right_only", .ofCount comparison.only.cloud),
      ("duplicate_keys", .ofCount comparison.duplicateKeys),
      ("sample_mismatches", .ofList HashMismatch.toDocument comparison.sampleMismatches),
      ("sample_left_only", .ofList RowKey.toDocument comparison.sampleOnly.legacy),
      ("sample_right_only", .ofList RowKey.toDocument comparison.sampleOnly.cloud) ]

/-- The comparison of rows that a document denotes. -/
def RowHashComparison.ofDocument? (document : Document) : Option RowHashComparison := do
  let slots ← document.slots?
    ["left_rows", "right_rows", "matched", "hash_mismatch", "left_only", "right_only",
      "duplicate_keys", "sample_mismatches", "sample_left_only", "sample_right_only"]
  let keys := Document.list? RowKey.ofDocument?
  return {
    rows :=
      ⟨← (slots "left_rows").required Document.count?,
        ← (slots "right_rows").required Document.count?⟩
    matched := ← (slots "matched").required Document.count?
    hashMismatch := ← (slots "hash_mismatch").required Document.count?
    only :=
      ⟨← (slots "left_only").required Document.count?,
        ← (slots "right_only").required Document.count?⟩
    duplicateKeys := ← (slots "duplicate_keys").required Document.count?
    sampleMismatches :=
      ← (slots "sample_mismatches").required (Document.list? HashMismatch.ofDocument?)
    sampleOnly :=
      ⟨← (slots "sample_left_only").required keys, ← (slots "sample_right_only").required keys⟩ }

/-- What is said of rows, as a document. -/
def HashOutcome.toDocument : HashOutcome → Document
  | .compared comparison => Document.withTag "outcome" "compared" comparison.toDocument
  | .notComparable missingOn =>
    Document.withTag "outcome" "not_comparable" <| .record
      [("missing_on", .ofList Platform.toDocument missingOn)]

/-- What a document says of rows. -/
def HashOutcome.ofDocument? (document : Document) : Option HashOutcome := do
  let (outcome, rest) ← document.tagged? "outcome"
  match outcome with
  | "compared" => return .compared (← RowHashComparison.ofDocument? rest)
  | "not_comparable" =>
    let slots ← rest.slots? ["missing_on"]
    return .notComparable (← (slots "missing_on").required (Document.list? Platform.ofDocument?))
  | _ => none

def Normalization.members (normalization : Normalization) : List (String × Document) :=
  [ ("decimals", .ofCount normalization.decimals),
    ("pseudo_nulls", .ofList .text normalization.pseudoNulls) ]

/-- The normalisation among the members of a record; what lacks is standard. -/
def Normalization.ofSlots? (slots : String → Slot) : Option Normalization := do
  let standard : Normalization := {}
  return {
    decimals := ← (slots "decimals").orDefault standard.decimals (Document.natural? (2 ^ (32 : Nat)))
    pseudoNulls :=
      ← (slots "pseudo_nulls").orDefault standard.pseudoNulls (Document.list? Document.text?) }

def Normalization.toDocument (normalization : Normalization) : Document :=
  .record normalization.members

/-- The normalisation that a document denotes. -/
def Normalization.ofDocument? (document : Document) : Option Normalization := do
  Normalization.ofSlots? (← document.slots? ["decimals", "pseudo_nulls"])

def HashOptions.members (options : HashOptions) : List (String × Document) :=
  ("separator", .text options.separator) :: options.normalization.members

/-- The names of the members of hash options. -/
def HashOptions.memberNames : List String :=
  ["separator", "decimals", "pseudo_nulls"]

/-- The hash options among the members of a record; what lacks is standard. -/
def HashOptions.ofSlots? (slots : String → Slot) : Option HashOptions := do
  let standard : HashOptions := {}
  return {
    separator := ← (slots "separator").orDefault standard.separator Document.text?
    normalization := ← Normalization.ofSlots? slots }

def HashOptions.toDocument (options : HashOptions) : Document :=
  .record options.members

/-- The hash options that a document denotes. -/
def HashOptions.ofDocument? (document : Document) : Option HashOptions := do
  HashOptions.ofSlots? (← document.namedSlots? HashOptions.memberNames)

end Reconciliation
