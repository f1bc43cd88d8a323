import Reconciliation.Query.Normalization
import Reconciliation.Query.Table

/-! # Row hash queries

A row hash query projects, for each row, its keys and a digest of its normalised values. Both
platforms join the values in one order with one separator, so equal rows have equal digests.
-/

namespace Reconciliation

def hashName : String := "hash_value"

/-- The name of the text that is digested. -/
def hashInputName : String := "hash_input"

/-- How rows are hashed. -/
structure HashOptions where
  separator : String := "|"
  normalization : Normalization := {}
  deriving DecidableEq, Repr

/-- The name under which a key is projected on both platforms. -/
def ColumnPair.keyName (pair : ColumnPair) : String :=
  Text.lower pair.name

/-- What makes columns and keys unfit for a row hash, if anything does. -/
def rowHashFault? (columns keys : List ColumnPair) : Option CompilationFault :=
  if columns.isEmpty then some .noHashedColumn
  else if keys.isEmpty then some .noKeyColumn
  else
    (keys.find? fun key => key.keyName == hashName || key.keyName == hashInputName).map fun key =>
      .keyCollision key.name

/-- The normalised value of one side of a pair, under the family of both. -/
def ColumnPair.normalized (pair : ColumnPair) (platform : Platform)
    (normalization : Normalization) : String :=
  normalization.expression (pair.on platform) (.shared pair.legacy.family pair.cloud.family)

/-- The values of a row joined. The legacy platform joins NULL as an empty text by itself. -/
def joinedValues (platform : Platform) (columns : List ColumnPair) (options : HashOptions) :
    String :=
  let value (pair : ColumnPair) : String :=
    let expression := ColumnPair.normalized pair platform options.normalization
    match platform with
    | .legacy => expression
    | .cloud => platform.coalesce expression "''"
  s!" || {quoteLiteral options.separator} || ".intercalate (columns.map value)

def digestExpression (platform : Platform) (expression : String) : String :=
  match platform with
  | .legacy => s!"LOWER(RAWTOHEX(STANDARD_HASH({expression}, 'SHA256')))"
  | .cloud => s!"lower(to_hex(sha256(to_utf8({expression}))))"

/-- A projected expression with its name. -/
structure Projection where
  expression : String
  name : String
  deriving DecidableEq, Repr

/-- A projection as the statement writes it. -/
def Projection.text (projection : Projection) : String :=
  s!"{projection.expression} AS {projection.name}"

/-- The keys that a row hash query projects. -/
def keyProjections (platform : Platform) (keys : List ColumnPair) (options : HashOptions) :
    List Projection :=
  keys.map fun key =>
    ⟨ColumnPair.normalized key platform options.normalization, key.keyName⟩

/-- What a row hash query projects: the keys and the digest. -/
def hashProjections (platform : Platform) (columns keys : List ColumnPair)
    (options : HashOptions) : List Projection :=
  keyProjections platform keys options ++
    [⟨digestExpression platform (joinedValues platform columns options), hashName⟩]

/-- What a row hash query projects for a closer look: also every normalised value and the text
that is digested. -/
def hashDetailProjections (platform : Platform) (columns keys : List ColumnPair)
    (options : HashOptions) : List Projection :=
  let joined := joinedValues platform columns options
  keyProjections platform keys options ++
    columns.map (fun column =>
      ⟨ColumnPair.normalized column platform options.normalization, s!"n_{column.keyName}"⟩) ++
    [⟨joined, hashInputName⟩, ⟨digestExpression platform joined, hashName⟩]

/-- A query for some projections of the rows of a table. -/
def projectionQuery (platform : Platform) (table : TableRef) (projections : List Projection)
    (filter : Option String) : String :=
  "\n".intercalate
    [ "SELECT",
      "    " ++ ",\n    ".intercalate (projections.map Projection.text),
      s!"FROM {table.render platform}",
      s!"WHERE {wherePredicate filter}" ]

/-- The row hash query of one platform, in the order of the keys. -/
def rowHashQuery (platform : Platform) (table : TableRef) (columns keys : List ColumnPair)
    (filter : Option String) (options : HashOptions) : Except CompilationFault String :=
  match rowHashFault? columns keys with
  | some fault => .error fault
  | none =>
    let query := projectionQuery platform table (hashProjections platform columns keys options)
      filter
    let order := ", ".intercalate (keys.map ColumnPair.keyName)
    .ok s!"{query}\nORDER BY {order}"

/-- The row hash query of one platform for a closer look. -/
def rowHashDetailQuery (platform : Platform) (table : TableRef) (columns keys : List ColumnPair)
    (filter : Option String) (options : HashOptions) : Except CompilationFault String :=
  match rowHashFault? columns keys with
  | some fault => .error fault
  | none =>
    .ok (projectionQuery platform table (hashDetailProjections platform columns keys options)
      filter)

/-- The row hash queries of both platforms. -/
def rowHashQueries (tables : Both TableRef) (columns keys : List ColumnPair)
    (filters : Both (Option String)) (options : HashOptions) :
    Except CompilationFault (Both String) := do
  let legacy ← rowHashQuery .legacy tables.legacy columns keys filters.legacy options
  let cloud ← rowHashQuery .cloud tables.cloud columns keys filters.cloud options
  return ⟨legacy, cloud⟩

end Reconciliation
