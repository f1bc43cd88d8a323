import Reconciliation.RowHash.Row
import Reconciliation.Text.VisibleTable

/-! # Keys for people

The key of a row on one line. Values stand in quotes, and characters that could not be told apart
by eye are written by their numbers.
-/

namespace Reconciliation.RowKey

def numbered (c : Char) : List Char :=
  "\\u\x7b".toList ++ Nat.toDigits 16 c.toNat ++ ['\x7d']

/-- One character of a quoted value. -/
def shownChar (c : Char) : List Char :=
  if c = '\x00' then ['\\', '0']
  else if c = '\t' then ['\\', 't']
  else if c = '\r' then ['\\', 'r']
  else if c = '\n' then ['\\', 'n']
  else if c = '\x22' ∨ c = '\\' then ['\\', c]
  else if Text.inRanges Text.extendingRanges c.toNat then numbered c
  else if Text.inRanges Text.invisibleRanges c.toNat then numbered c
  else [c]

def shownValue : Option String → String
  | none => "None"
  | some value =>
    "Some(" ++ String.ofList ('\x22' :: value.toList.flatMap shownChar ++ ['\x22']) ++ ")"

def shown (key : RowKey) : String :=
  "[" ++ ", ".intercalate (key.values.map shownValue) ++ "]"

end Reconciliation.RowKey
