import Reconciliation.Text.Case
import Reconciliation.Text.WidthTable

/-! # Display width

How many columns of a terminal a text takes.
-/

namespace Reconciliation.Text

-- Sums start from the literal zero, whatever else is imported beside this module.
attribute [local instance (high)] Zero.ofOfNat0

def charWidth (c : Char) : Nat :=
  if c.toNat < 0x80 then 1
  else if inRanges zeroWidthRanges c.toNat then 0
  else if inRanges wideRanges c.toNat then 2
  else 1

/-- The columns a line of text takes. -/
def displayWidth (line : String) : Nat :=
  (line.toList.map charWidth).sum

end Reconciliation.Text
