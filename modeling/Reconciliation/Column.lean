import Reconciliation.Platform
import Reconciliation.Text.Search

/-! # Columns and their types

A column is classified by the words of its declared type. The category decides which statistics
are taken of it, the family how its values are normalised before hashing, and the compatibility
of two types whether a column kept its meaning on the way.
-/

namespace Reconciliation

/-- Which statistics are taken of a column. -/
inductive ColumnCategory where
  /-- The values are numbers and are aggregated as such. -/
  | continuous
  /-- The values are labels and are counted. -/
  | categorical
  deriving DecidableEq, Repr

/-- What kind of values a type has, as far as normalisation tells them apart. -/
inductive TypeFamily where
  | numeric
  | text
  | date
  | timestamp
  | other
  deriving DecidableEq, Repr

/-- Whether the values of a family lie in time. -/
def TypeFamily.isTemporal : TypeFamily → Bool
  | .date => true
  | .timestamp => true
  | _ => false

/-- The family under which both sides of a pair are normalised: a day and a point in time meet as
days, and families that differ otherwise meet as text. -/
def TypeFamily.shared (legacy cloud : TypeFamily) : TypeFamily :=
  if legacy = cloud then legacy
  else if legacy.isTemporal && cloud.isTemporal then .date
  else .text

/-- A character of a word of a type. -/
def isWordChar (c : Char) : Bool :=
  c.isAlphanum || c == '_'

/-- A word without the size that may follow it (`VARCHAR2`). -/
def withoutSize (word : List Char) : List Char :=
  (word.reverse.dropWhile Char.isDigit).reverse

/-- Whether a word is a keyword, up to a size after it and a national-character mark before it
(`NVARCHAR2`). -/
def isKeyword (keyword : String) (word : List Char) : Bool :=
  let base := withoutSize word
  base == keyword.toList ||
    match base with
    | mark :: rest => (mark == 'N' || mark == 'n') && rest == keyword.toList
    | [] => false

/-- Whether some word of a type is one of the keywords. -/
def namesAny (keywords : List String) (dataType : String) : Bool :=
  (Text.runsOf isWordChar dataType.toList).any fun word => keywords.any (isKeyword · word)

/-- Type words of the columns that are aggregated as numbers. -/
def continuousKeywords : Platform → List String
  | .legacy => ["NUMBER", "FLOAT", "BINARY_FLOAT", "BINARY_DOUBLE"]
  | .cloud =>
    ["int", "integer", "double", "decimal", "float", "bigint", "tinyint", "smallint", "real"]

/-- Type words of the numeric family. -/
def numericKeywords : Platform → List String
  | .legacy =>
    ["NUMBER", "NUMERIC", "INTEGER", "INT", "FLOAT", "DOUBLE", "DECIMAL", "BINARY_FLOAT",
      "BINARY_DOUBLE"]
  | .cloud => ["bigint", "int", "integer", "double", "float", "decimal", "real"]

/-- Type words of the text family. -/
def textKeywords : Platform → List String
  | .legacy => ["VARCHAR", "CHAR", "RAW", "CLOB"]
  | .cloud => ["string", "varchar", "char"]

/-- The category of a type; a type without a known word is categorical. -/
def ColumnCategory.ofType (platform : Platform) (dataType : String) : ColumnCategory :=
  let folded :=
    match platform with
    | .legacy => Text.upper dataType
    | .cloud => Text.lower dataType
  if namesAny (continuousKeywords platform) folded then .continuous else .categorical

/-- The family of a type. Temporal words come first, and points in time before days; on the cloud
platform only the bare word names a day. -/
def TypeFamily.ofType (platform : Platform) (dataType : String) : TypeFamily :=
  let folded :=
    match platform with
    | .legacy => Text.upper dataType
    | .cloud => Text.lower (Text.trim dataType)
  let (isTimestamp, isDate) :=
    match platform with
    | .legacy => (Text.contains folded "TIMESTAMP", Text.contains folded "DATE")
    | .cloud => (Text.contains folded "timestamp", folded == "date")
  if isTimestamp then .timestamp
  else if isDate then .date
  else if namesAny (numericKeywords platform) folded then .numeric
  else if namesAny (textKeywords platform) folded then .text
  else .other

/-- Whether a legacy type has a plausible counterpart in a cloud type. -/
def typesCompatible (legacyType cloudType : String) : Bool :=
  let legacy := Text.upper legacyType
  let cloud := Text.lower cloudType
  if Text.contains legacy "NUMBER" then
    namesAny ["double", "decimal", "bigint", "int", "integer", "smallint", "tinyint"] cloud
  else if namesAny ["VARCHAR", "CHAR"] legacy then namesAny ["string", "varchar", "char"] cloud
  else if Text.contains legacy "TIMESTAMP" then Text.contains cloud "timestamp"
  else if Text.contains legacy "DATE" then namesAny ["date", "timestamp"] cloud
  else false

/-- A column as declared on one platform. -/
structure Column where
  name : String
  dataType : String
  platform : Platform
  category : ColumnCategory
  deriving DecidableEq, Repr

namespace Column

/-- A column whose category follows from its type. -/
def declare (platform : Platform) (name dataType : String) : Column :=
  ⟨name, dataType, platform, .ofType platform dataType⟩

/-- Whether the values are aggregated as numbers. -/
def isContinuous (column : Column) : Bool :=
  column.category = .continuous

def family (column : Column) : TypeFamily :=
  .ofType column.platform column.dataType

/-- The name as its platform folds it. -/
def identifier (column : Column) : String :=
  column.platform.identifier column.name

end Column

/-- Two columns that hold the same values, one on each platform. -/
abbrev ColumnPair := Both Column

/-- The name under which results of a pair are kept. -/
def ColumnPair.name (pair : ColumnPair) : String :=
  pair.legacy.name

end Reconciliation
