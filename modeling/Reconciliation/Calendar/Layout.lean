import Reconciliation.Calendar.Date
import Reconciliation.Number.DecimalText
import Reconciliation.Number.Numeral
import Reconciliation.Text.Blank

/-! # Date layouts

A layout is a sequence of items, each of which writes one part of a date and reads it back from
the head of a text. Written numbers have a fixed width; reading is lenient about it, and skips
blanks before every number.
-/

namespace Reconciliation

/-- One part of a written date. -/
inductive LayoutItem where
  /-- The year in four digits; with a sign and at least four digits outside `0` to `9999`. -/
  | year
  /-- The last two digits of a year from 1970 to 2069. -/
  | shortYear
  /-- The month in two digits. -/
  | month
  /-- The English name of the month, cut to three letters. -/
  | monthName
  /-- The day of the month in two digits. -/
  | day
  /-- The hour of the day in two digits. -/
  | hour
  /-- The minute of the hour in two digits. -/
  | minute
  /-- The second of the minute in two digits; a leap second is the sixtieth. -/
  | second
  /-- A fraction of a second after a point, or nothing. -/
  | fraction
  /-- Any number of blanks. -/
  | blank
  /-- One character as it stands. -/
  | mark (c : Char)
  deriving DecidableEq

/-- The parts of a written date, in order. -/
abbrev Layout := List LayoutItem

/-- The names of the months, cut to three letters. -/
def monthNames : List String :=
  ["Jan", "Feb", "Mar", "Apr", "May", "Jun", "Jul", "Aug", "Sep", "Oct", "Nov", "Dec"]

def yearText (year : Int) : List Char :=
  if 0 ≤ year ∧ year ≤ 9999 then paddedDigits 4 year.toNat
  else (if year < 0 then '-' else '+') :: paddedDigits 4 year.natAbs

/-- The text of one item for a date, at midnight. -/
def LayoutItem.write (date : Date) : LayoutItem → List Char
  | .year => yearText date.year
  | .shortYear => paddedDigits 2 (date.year % 100).toNat
  | .month => paddedDigits 2 date.month
  | .monthName => (monthNames.getD (date.month - 1) "").toList
  | .day => paddedDigits 2 date.day
  | .hour => ['0', '0']
  | .minute => ['0', '0']
  | .second => ['0', '0']
  | .fraction => []
  | .blank => [' ']
  | .mark c => [c]

/-- The text of a date in a layout, at midnight. -/
def Layout.write (layout : Layout) (date : Date) : List Char :=
  layout.flatMap (·.write date)

/-- The parts of a date read so far. -/
structure DateParts where
  year : Option Int := none
  month : Option Nat := none
  day : Option Nat := none

/-- The date that the parts make, if they are complete and the calendar has it. -/
def DateParts.date? (parts : DateParts) : Option Date := do
  Date.of? (← parts.year) (← parts.month) (← parts.day)

/-- A number of one to `width` digits at the head of a text, and what follows it. -/
def readDigits? (width : Nat) (cs : List Char) : Option (Nat × List Char) :=
  let digits := (cs.take width).takeWhile Char.isDigit
  if digits.isEmpty then none else some (natOfDigits digits, cs.drop digits.length)

/-- A number of one or two digits between two bounds, after blanks. -/
def readField? (low high : Nat) (cs : List Char) : Option (Nat × List Char) :=
  (readDigits? 2 (Text.trimStart cs)).filter fun field => low ≤ field.1 && field.1 ≤ high

/-- A year, after blanks: up to four digits, or a sign and any number of digits. -/
def readYear? (cs : List Char) : Option (Int × List Char) :=
  match Text.trimStart cs with
  | '-' :: rest => (readDigits? rest.length rest).map fun (year, after) => (-(year : Int), after)
  | '+' :: rest => (readDigits? rest.length rest).map fun (year, after) => ((year : Int), after)
  | rest => (readDigits? 4 rest).map fun (year, after) => ((year : Int), after)

/-- The number of the month whose short name, in any case, stands at the head of a text. -/
def readMonthName? (cs : List Char) : Option (Nat × List Char) :=
  let name := (cs.take 3).map Char.toLower
  match monthNames.findIdx? fun month => month.toList.map Char.toLower == name with
  | some index => some (index + 1, cs.drop 3)
  | none => none

/-- The part of a date that an item reads from the head of a text, and what follows it. -/
def LayoutItem.read? (item : LayoutItem) (parts : DateParts) (cs : List Char) :
    Option (DateParts × List Char) :=
  match item with
  | .year => (readYear? cs).map fun (value, rest) => ({ parts with year := some value }, rest)
  | .shortYear =>
    (readField? 0 99 cs).map fun (value, rest) =>
      ({ parts with year := some (if value < 70 then 2000 + value else 1900 + value) }, rest)
  | .month =>
    (readField? 1 12 cs).map fun (value, rest) => ({ parts with month := some value }, rest)
  | .monthName =>
    (readMonthName? cs).map fun (value, rest) => ({ parts with month := some value }, rest)
  | .day => (readField? 1 31 cs).map fun (value, rest) => ({ parts with day := some value }, rest)
  | .hour => (readField? 0 23 cs).map fun (_, rest) => (parts, rest)
  | .minute => (readField? 0 59 cs).map fun (_, rest) => (parts, rest)
  | .second => (readField? 0 60 cs).map fun (_, rest) => (parts, rest)
  | .fraction =>
    match cs with
    | '.' :: rest => (readDigits? rest.length rest).map fun (_, after) => (parts, after)
    | _ => some (parts, cs)
  | .blank => some (parts, Text.trimStart cs)
  | .mark c =>
    match cs with
    | d :: rest => if c = d then some (parts, rest) else none
    | [] => none

/-- The parts that a layout reads from a text, all of which it must use up. -/
def Layout.read? : Layout → DateParts → List Char → Option DateParts
  | [], parts, [] => some parts
  | [], _, _ :: _ => none
  | item :: layout, parts, cs =>
    match item.read? parts cs with
    | some (more, rest) => Layout.read? layout more rest
    | none => none

/-- The date that a text denotes under a layout. -/
def Layout.parse? (layout : Layout) (cs : List Char) : Option Date :=
  (layout.read? {} cs).bind DateParts.date?

namespace Date

/-- Year, month and day with a mark between them. -/
def dayLayout (separator : List LayoutItem) : Layout :=
  [.year] ++ separator ++ [.month] ++ separator ++ [.day]

/-- The standard text of a date: `YYYY-MM-DD`. -/
def text (date : Date) : String :=
  String.ofList ((dayLayout [.mark '-']).write date)

/-- Reading the standard text, with blanks allowed around its numbers and dashes. -/
def ofText? (text : String) : Option Date :=
  (dayLayout [.blank, .mark '-'] ++ [LayoutItem.blank]).parse? text.toList

/-- The layouts in which values are recognised as dates, the more common first. The last one is
how the legacy platform writes dates when not told otherwise. -/
def recognisedLayouts : List Layout :=
  let dashed := dayLayout [.mark '-']
  let slashed := dayLayout [.mark '/']
  let time : Layout := [.blank, .hour, .mark ':', .minute, .mark ':', .second]
  [ dashed,
    slashed,
    [.day, .mark '-', .month, .mark '-', .year],
    [.day, .mark '/', .month, .mark '/', .year],
    dayLayout [],
    dashed ++ time,
    dashed ++ time ++ [.fraction],
    slashed ++ time,
    [.day, .mark '-', .monthName, .mark '-', .shortYear] ]

/-- The date that a value denotes in the first recognised layout that reads it. -/
def recognise? (value : String) : Option Date :=
  let cs := Text.trimBoth value.toList
  recognisedLayouts.findSome? (·.parse? cs)

end Date

end Reconciliation
