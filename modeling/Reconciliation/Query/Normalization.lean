import Reconciliation.Column
import Reconciliation.Number.DecimalText
import Reconciliation.Query.Predicate

/-! # Normalised values

Before a row is hashed, each of its values becomes a text that is equal on both platforms if the
values are: numbers are rounded to a number of decimals, with NULL and zero alike; text is
upper-cased, trimmed, freed of control characters and of repeated spaces, and the words that stand
for no value become NULL; days and points in time have one layout.
-/

namespace Reconciliation

/-- How values are normalised. -/
structure Normalization where
  decimals : Nat := 3
  pseudoNulls : List String := ["", "NULL", "NUL", "NONE", "N/A", "<NA>", "EMPTY", "NIL", "."]
  deriving DecidableEq, Repr

namespace Normalization

/-- The literals of the texts that stand for no value. -/
def tokenList (normalization : Normalization) : String :=
  ", ".intercalate (normalization.pseudoNulls.map quoteLiteral)

/-- The mask in which the legacy platform writes numbers. -/
def numberMask (normalization : Normalization) : String :=
  if normalization.decimals = 0 then "FM9999999999999999990"
  else "FM9999999999999990." ++ String.ofList (List.replicate normalization.decimals '0')

/-- A number, where NULL and zero are alike. -/
def numeric (normalization : Normalization) (platform : Platform) (c : String) : String :=
  let places := String.ofList (digitsOf normalization.decimals)
  match platform with
  | .legacy =>
    s!"CASE WHEN {c} IS NULL OR {c} = 0 THEN '0' " ++
    s!"ELSE REPLACE(TO_CHAR(ROUND({c}, {places}), '{normalization.numberMask}', " ++
    "'NLS_NUMERIC_CHARACTERS=''.,'''), ',', '') END"
  | .cloud =>
    s!"CASE WHEN {c} IS NULL OR CAST({c} AS DOUBLE) = 0 THEN '0' " ++
    s!"ELSE replace(format('%.{places}f', round(CAST({c} AS DOUBLE), {places}) + 0.0), ',', '') END"

/-- A text, where the texts that stand for no value are NULL. -/
def text (normalization : Normalization) (platform : Platform) (source : String) : String :=
  let cleaned :=
    match platform with
    | .legacy =>
      s!"TRIM(REGEXP_REPLACE(REGEXP_REPLACE(UPPER(TRIM({source})), '[[:cntrl:]]', ''), " ++
      "'[[:space:]]+', ' '))"
    | .cloud =>
      s!"trim(regexp_replace(regexp_replace(upper(trim({source})), '\\p\x7bCntrl\x7d', ''), " ++
      "'\\s+', ' '))"
  s!"CASE WHEN {cleaned} IN ({normalization.tokenList}) THEN NULL ELSE {cleaned} END"

/-- A value that may be NULL, in the given layout. -/
def unlessNull (c layout : String) : String :=
  s!"CASE WHEN {c} IS NULL THEN NULL ELSE {layout} END"

def day (platform : Platform) (c : String) : String :=
  unlessNull c (platform.formatDay c)

def moment (platform : Platform) (c : String) : String :=
  unlessNull c
    (match platform with
    | .legacy => s!"TO_CHAR({c}, 'YYYY-MM-DD HH24:MI:SS.FF3')"
    | .cloud => s!"format_datetime({c}, 'yyyy-MM-dd HH:mm:ss.SSS')")

/-- A column as text, where it holds text already. -/
def textSource (column : Column) : String :=
  if column.family = .text then
    match column.platform with
    | .legacy => column.identifier
    | .cloud => s!"CAST({column.identifier} AS VARCHAR)"
  else column.platform.toText column.identifier

/-- The normalised value of a column under a family, which may be another than its own. -/
def expression (normalization : Normalization) (column : Column) (family : TypeFamily) : String :=
  match family with
  | .numeric => normalization.numeric column.platform column.identifier
  | .date => day column.platform column.identifier
  | .timestamp => moment column.platform column.identifier
  | .text => normalization.text column.platform (textSource column)
  | .other => normalization.text column.platform (textSource column)

end Normalization

end Reconciliation
