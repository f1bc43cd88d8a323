import Reconciliation.Failure
import Reconciliation.Text.Digit
import Reconciliation.Text.Search

/-! # Partition columns

A table is partitioned on a column of days. The column may hold dates, points in time or text in
one of three layouts, whose texts sort as their dates do.
-/

namespace Reconciliation

/-- How finely the range of partition dates is cut into vintages. -/
inductive Granularity where
  | day
  | week
  | month
  | whole
  | snapshot
  deriving DecidableEq, Repr

namespace Granularity

def name : Granularity → String
  | .day => "day"
  | .week => "week"
  | .month => "month"
  | .whole => "whole"
  | .snapshot => "snapshot"

/-- The words by which users call each granularity. -/
def ofName? (text : String) : Except String Granularity :=
  let folded := Text.lower (Text.trim text)
  if folded = "day" ∨ folded = "daily" then .ok .day
  else if folded = "week" ∨ folded = "weekly" then .ok .week
  else if folded = "month" ∨ folded = "monthly" then .ok .month
  else if folded = "whole" ∨ folded = "all" then .ok .whole
  else if folded = "snapshot" ∨ folded = "none" then .ok .snapshot
  else .error s!"Unknown granularity: {folded}"

end Granularity

/-- The layout of dates kept as text. -/
inductive TextLayout where
  | compact
  | dashed
  | slashed
  deriving DecidableEq, Repr

namespace TextLayout

def name : TextLayout → String
  | .compact => "compact"
  | .dashed => "dashed"
  | .slashed => "slashed"

/-- The pattern by which databases know a layout. -/
def pattern : TextLayout → String
  | .compact => "%Y%m%d"
  | .dashed => "%Y-%m-%d"
  | .slashed => "%Y/%m/%d"

def layout : TextLayout → Layout
  | .compact => Date.dayLayout []
  | .dashed => Date.dayLayout [.mark '-']
  | .slashed => Date.dayLayout [.mark '/']

def render (layout : TextLayout) (date : Date) : String :=
  String.ofList (layout.layout.write date)

/-- The characters that take exactly `size` bytes at the head of a text. -/
def headOfBytes? : (size : Nat) → List Char → Option (List Char)
  | 0, _ => some []
  | _ + 1, [] => none
  | size + 1, c :: cs =>
    if c.utf8Size ≤ size + 1 then
      (headOfBytes? (size + 1 - c.utf8Size) cs).map (c :: ·)
    else none
termination_by _ cs => cs.length

/-- The date that a stored value denotes. A time after a dashed date is cut off. -/
def parse? (layout : TextLayout) (value : String) : Option Date :=
  let trimmed := Text.trimBoth value.toList
  let dated :=
    match layout with
    | .dashed => (headOfBytes? 10 trimmed).getD trimmed
    | _ => trimmed
  layout.layout.parse? dated

/-- A value with every decimal digit, of whatever script, replaced by zero. -/
def shape (value : List Char) : String :=
  String.ofList (value.map fun c => if Text.isDecimalDigit c then '0' else c)

/-- The layout of the first sample that is not blank. -/
def detect? (samples : List String) : Option TextLayout := do
  let first ← (samples.map fun sample => Text.trimBoth sample.toList).find? (!·.isEmpty)
  let shape := shape first
  if shape = "00000000" then some .compact
  else if shape = "0000-00-00" ∨ shape = "0000-00-00 00:00:00" then some .dashed
  else if shape = "0000/00/00" then some .slashed
  else none

end TextLayout

/-- How a partition column holds its dates. -/
inductive DateStorage where
  | date
  | timestamp
  | text (layout : TextLayout)
  deriving DecidableEq, Repr

/-- The storage that a declared type tells or, for text, that samples show. -/
def DateStorage.infer (dataType : String) (samples : List String) :
    Except DateFault DateStorage :=
  let folded := Text.lower dataType
  if Text.contains folded "timestamp" then .ok .timestamp
  else if Text.startsWith folded "date" then .ok .date
  else
    match TextLayout.detect? samples with
    | some layout => .ok (.text layout)
    | none => .error (.unknownLayout dataType)

/-- The column that a table is partitioned on. -/
structure PartitionColumn where
  name : String
  storage : DateStorage
  deriving DecidableEq, Repr

namespace PartitionColumn

/-- The name as a platform folds it. -/
def identifier (column : PartitionColumn) (platform : Platform) : String :=
  platform.identifier column.name

/-- The literal of a date as the column holds it. -/
def literal (column : PartitionColumn) (platform : Platform) (date : Date) : String :=
  match column.storage with
  | .text layout => s!"'{layout.render date}'"
  | _ => platform.dateLiteral date

/-- The day of the column, as `literal` writes it. A date of the legacy platform has a time of
day, which is cut off. -/
def dayExpression (column : PartitionColumn) (platform : Platform) : String :=
  let identifier := column.identifier platform
  match column.storage, platform with
  | .timestamp, _ => platform.truncateToDay identifier
  | .date, .legacy => platform.truncateToDay identifier
  | _, _ => identifier

/-- The day of the column as the text `YYYY-MM-DD`. -/
def standardExpression (column : PartitionColumn) (platform : Platform) : String :=
  let c := column.identifier platform
  match column.storage with
  | .text .dashed => c
  | .text .compact => s!"SUBSTR({c}, 1, 4) || '-' || SUBSTR({c}, 5, 2) || '-' || SUBSTR({c}, 7, 2)"
  | .text .slashed => s!"REPLACE({c}, '/', '-')"
  | _ => platform.formatDay c

/-- The date that a value of the column denotes. -/
def parse? (column : PartitionColumn) (value : String) : Option Date :=
  match column.storage with
  | .text layout => layout.parse? value
  | _ => TextLayout.dashed.parse? value

end PartitionColumn

end Reconciliation
