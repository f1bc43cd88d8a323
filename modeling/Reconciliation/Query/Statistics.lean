import Reconciliation.Column
import Reconciliation.Number.DecimalText
import Reconciliation.Query.Predicate
import Reconciliation.Query.Table

/-! # Statistics queries

One row of statistics for a column. The values of a continuous column are aggregated; of a
categorical column the frequencies of its values are, and the most frequent values are listed.
Every statistics query projects the same names in the same order.
-/

namespace Reconciliation

/-- The place for frequent values unless another is set. -/
def defaultFrequencyPlaces : Nat := 20

/-- What a statistics query reads: the column, its table and the rows. -/
structure StatisticsScope where
  column : String
  typeLiteral : String
  table : String
  predicate : String

/-- Statistics of the values of a column. -/
def valueStatistics (platform : Platform) (scope : StatisticsScope) : String :=
  let c := scope.column
  let aggregates : List String :=
    match platform with
    | .legacy =>
      [ s!"    TO_CHAR(MIN({c})) AS col_min,",
        s!"    TO_CHAR(MAX({c})) AS col_max,",
        s!"    TO_CHAR(AVG({c})) AS col_avg,",
        s!"    TO_CHAR(STDDEV_SAMP({c})) AS col_std,",
        s!"    TO_CHAR(SUM({c})) AS col_sum,",
        s!"    TO_CHAR(SUM({c} * {c})) AS col_sum_sq,",
        s!"    COUNT(*) - COUNT({c}) AS col_missing,",
        "    CAST(NULL AS VARCHAR2(1)) AS col_freq" ]
    | .cloud =>
      let number := s!"CAST({c} AS DOUBLE)"
      [ s!"    CAST(MIN({c}) AS VARCHAR) AS col_min,",
        s!"    CAST(MAX({c}) AS VARCHAR) AS col_max,",
        s!"    CAST(AVG({number}) AS VARCHAR) AS col_avg,",
        s!"    CAST(STDDEV_SAMP({number}) AS VARCHAR) AS col_std,",
        s!"    CAST(SUM({number}) AS VARCHAR) AS col_sum,",
        s!"    CAST(SUM({number} * {number}) AS VARCHAR) AS col_sum_sq,",
        s!"    COUNT(*) - COUNT({c}) AS col_missing,",
        "    CAST(NULL AS VARCHAR) AS col_freq" ]
  "\n".intercalate <|
    [ "SELECT",
      s!"    {scope.typeLiteral} AS col_type,",
      s!"    COUNT({c}) AS col_count,",
      s!"    COUNT(DISTINCT {c}) AS col_distinct," ] ++
    aggregates ++
    [ s!"FROM {scope.table}",
      s!"WHERE {scope.predicate}" ]

/-- The column by whose values rows are counted. Points in time count by their day; a date of the
legacy platform has a time of day, too. -/
def groupedColumn (platform : Platform) (column : Column) : String :=
  let byDay : Bool :=
    match platform with
    | .legacy => column.family.isTemporal
    | .cloud => column.family = .timestamp
  if byDay then platform.truncateToDay column.identifier else column.identifier

def valueLabel (platform : Platform) (column : Column) : String :=
  let text :=
    if column.family.isTemporal then platform.formatDay "p_col" else platform.toText "p_col"
  platform.coalesce text "''"

/-- Statistics of the frequencies of the values of a column, with the most frequent ones. -/
def frequencyStatistics (platform : Platform) (column : Column) (scope : StatisticsScope)
    (places : Nat) : String :=
  let grouped := groupedColumn platform column
  let label := valueLabel platform column
  let limit := String.ofList (digitsOf places)
  let aggregates : List String :=
    match platform with
    | .legacy =>
      [ "        TO_CHAR(MIN(value_freq)) AS col_min,",
        "        TO_CHAR(MAX(value_freq)) AS col_max,",
        "        TO_CHAR(AVG(value_freq)) AS col_avg,",
        "        TO_CHAR(STDDEV_SAMP(value_freq)) AS col_std,",
        "        TO_CHAR(SUM(value_freq)) AS col_sum,",
        "        TO_CHAR(SUM(value_freq * value_freq)) AS col_sum_sq" ]
    | .cloud =>
      [ "        CAST(MIN(value_freq) AS VARCHAR) AS col_min,",
        "        CAST(MAX(value_freq) AS VARCHAR) AS col_max,",
        "        CAST(AVG(CAST(value_freq AS DOUBLE)) AS VARCHAR) AS col_avg,",
        "        CAST(STDDEV_SAMP(CAST(value_freq AS DOUBLE)) AS VARCHAR) AS col_std,",
        "        CAST(SUM(CAST(value_freq AS DOUBLE)) AS VARCHAR) AS col_sum,",
        "        CAST(SUM(CAST(value_freq AS DOUBLE) * CAST(value_freq AS DOUBLE)) AS VARCHAR) AS col_sum_sq" ]
  let missing := platform.coalesce "(SELECT value_freq FROM freq_table WHERE p_col IS NULL)" "0"
  let listed : List String :=
    match platform with
    | .legacy =>
      [ s!"    (SELECT LISTAGG({label} || '::' || value_freq, '||')",
        "            WITHIN GROUP (ORDER BY value_freq DESC, p_col ASC NULLS LAST)" ]
    | .cloud =>
      [ "    (SELECT array_join(",
        s!"                array_agg({label} || '::' || CAST(value_freq AS VARCHAR)",
        "                          ORDER BY value_freq DESC, p_col ASC NULLS LAST),",
        "                '||')" ]
  "\n".intercalate <|
    [ "WITH freq_raw AS (",
      s!"    SELECT {grouped} AS p_col, COUNT(*) AS value_freq",
      s!"    FROM {scope.table}",
      s!"    WHERE {scope.predicate}",
      s!"    GROUP BY {grouped}",
      "),",
      "freq_table AS (",
      "    SELECT p_col, value_freq,",
      "           ROW_NUMBER() OVER (ORDER BY value_freq DESC, p_col ASC NULLS LAST) AS rn",
      "    FROM freq_raw",
      "),",
      "agg_stats AS (",
      "    SELECT",
      "        SUM(value_freq) AS col_count,",
      "        COUNT(value_freq) AS col_distinct," ] ++
    aggregates ++
    [ "    FROM freq_table",
      ")",
      "SELECT",
      s!"    {scope.typeLiteral} AS col_type,",
      "    a.col_count, a.col_distinct, a.col_min, a.col_max,",
      "    a.col_avg, a.col_std, a.col_sum, a.col_sum_sq,",
      s!"    {missing} AS col_missing," ] ++
    listed ++
    [ "       FROM freq_table",
      s!"      WHERE rn <= {limit}) AS col_freq",
      "FROM agg_stats a" ]

/-- The statistics query of a column. -/
def statisticsQuery (platform : Platform) (table : TableRef) (column : Column)
    (filter : Option String) (places : Nat) : Except CompilationFault String :=
  if column.platform ≠ platform then
    .error (.foreignColumn column.name column.platform platform)
  else if Text.isBlankText column.name then .error (.emptyColumnName table.text)
  else if places = 0 then .error .emptyFrequencyList
  else
    let scope : StatisticsScope :=
      ⟨column.identifier, quoteLiteral column.dataType, table.render platform,
        wherePredicate filter⟩
    .ok
      (if column.isContinuous then valueStatistics platform scope
      else frequencyStatistics platform column scope places)

end Reconciliation
