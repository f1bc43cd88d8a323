/-! # White space

Names, types and filters arrive with white space around them. A blank is a character of the
Unicode property `White_Space`; trimming removes blanks from both ends and none from within.
-/

namespace Reconciliation.Text

/-- A character of the property `White_Space`. -/
def isBlank (c : Char) : Bool :=
  let code := c.toNat
  (0x9 ≤ code && code ≤ 0xD) || code == 0x20 || code == 0x85 || code == 0xA0 || code == 0x1680 ||
    (0x2000 ≤ code && code ≤ 0x200A) || code == 0x2028 || code == 0x2029 || code == 0x202F ||
    code == 0x205F || code == 0x3000

/-- The characters without the blanks before them. -/
def trimStart (cs : List Char) : List Char :=
  cs.dropWhile isBlank

/-- The characters without the blanks after them. -/
def trimEnd (cs : List Char) : List Char :=
  (cs.reverse.dropWhile isBlank).reverse

/-- The characters without the blanks around them. -/
def trimBoth (cs : List Char) : List Char :=
  trimEnd (trimStart cs)

/-- A text without the blanks around it. -/
def trim (text : String) : String :=
  String.ofList (trimBoth text.toList)

@[simp]
theorem toList_trim (text : String) : (trim text).toList = trimBoth text.toList :=
  String.toList_ofList

/-- Whether a text is empty or all blanks. -/
def isBlankText (text : String) : Bool :=
  text.toList.all isBlank

end Reconciliation.Text
