import Reconciliation.Text.CaseTable

/-! # Upper and lower case

Full case conversion of Unicode, independent of language: one character may become several
(`ß` becomes `SS`), and a capital sigma that ends a word becomes the final small sigma.
-/

namespace Reconciliation.Text

/-- Whether a code point lies in one of the ranges, ends included. -/
def inRanges (ranges : List (Nat × Nat)) (code : Nat) : Bool :=
  ranges.any fun range => range.1 ≤ code && code ≤ range.2

/-- The upper case of one character. -/
def upperChar (c : Char) : List Char :=
  if c.toNat < 0x80 then [c.toUpper]
  else
    match upperExpansions.lookup c.toNat with
    | some codes => codes.map Char.ofNat
    | none =>
      match upperRuns.findSome? (·.convert? c.toNat) with
      | some code => [Char.ofNat code]
      | none => [c]

/-- The lower case of one character, wherever it stands. -/
def lowerChar (c : Char) : List Char :=
  if c.toNat < 0x80 then [c.toLower]
  else
    match lowerExpansions.lookup c.toNat with
    | some codes => codes.map Char.ofNat
    | none =>
      match lowerRuns.findSome? (·.convert? c.toNat) with
      | some code => [Char.ofNat code]
      | none => [c]

/-- Whether the first character that case ignores not, if there is one, has case. -/
def meetsCased (cs : List Char) : Bool :=
  match cs.dropWhile fun c => inRanges caseIgnorableRanges c.toNat with
  | c :: _ => inRanges casedRanges c.toNat
  | [] => false

/-- Lower case of the rest of a text, given the characters before it, nearest first. A capital
sigma is final after a letter with case and before none. -/
def lowerFrom : (before : List Char) → List Char → List Char
  | _, [] => []
  | before, c :: rest =>
    let lowered :=
      if c = 'Σ' then [if meetsCased before && !meetsCased rest then 'ς' else 'σ']
      else lowerChar c
    lowered ++ lowerFrom (c :: before) rest

def upper (text : String) : String :=
  String.ofList (text.toList.flatMap upperChar)

def lower (text : String) : String :=
  String.ofList (lowerFrom [] text.toList)

@[simp]
theorem toList_upper (text : String) : (upper text).toList = text.toList.flatMap upperChar :=
  String.toList_ofList

@[simp]
theorem toList_lower (text : String) : (lower text).toList = lowerFrom [] text.toList :=
  String.toList_ofList

end Reconciliation.Text
