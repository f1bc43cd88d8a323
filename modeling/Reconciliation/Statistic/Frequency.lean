import Reconciliation.Number.DecimalText
import Reconciliation.Number.Numeral
import Reconciliation.Text.Blank
import Reconciliation.Text.Search

/-! # Frequency lists

The most frequent values of a column with their counts. Databases return the list as one text
`v1::c1||v2::c2`; a count stands after the last delimiter of its entry, so values may hold the
delimiter themselves.
-/

namespace Reconciliation

/-- A value with the number of its occurrences. -/
structure FrequencyEntry where
  value : String
  count : Option Nat
  deriving DecidableEq, Repr

namespace FrequencyEntry

def entryDelimiter : List Char := ['|', '|']

def countDelimiter : List Char := [':', ':']

/-- The entry that an item of a list denotes. -/
def ofItem (item : List Char) : FrequencyEntry :=
  match Text.splitLast? countDelimiter item with
  | some (value, count) => ⟨String.ofList value, countOfText? (Text.trimBoth count)⟩
  | none => ⟨String.ofList item, none⟩

/-- The list that a text denotes; a blank text denotes the empty list. -/
def ofText (text : String) : List FrequencyEntry :=
  if Text.isBlankText text then []
  else (Text.splitAll entryDelimiter text.toList).map ofItem

/-- An entry as an item of a list. -/
def item (entry : FrequencyEntry) : List Char :=
  match entry.count with
  | some count => entry.value.toList ++ countDelimiter ++ digitsOf count
  | none => entry.value.toList

def listText (entries : List FrequencyEntry) : String :=
  String.ofList (entryDelimiter.intercalate (entries.map item))

end FrequencyEntry

end Reconciliation
