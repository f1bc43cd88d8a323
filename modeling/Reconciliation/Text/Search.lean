/-! # Searching and splitting text

Finding a part in a text, and cutting a text at its first, its last or every occurrence of a
part. All work on lists of characters.
-/

namespace Reconciliation.Text

/-- The characters after `part`, where `cs` starts with it. -/
def afterPrefix? : (part cs : List Char) → Option (List Char)
  | [], cs => some cs
  | _ :: _, [] => none
  | p :: part, c :: cs => if p = c then afterPrefix? part cs else none

/-- What stands before and after the first occurrence of `part`. -/
def splitFirst? (part : List Char) : List Char → Option (List Char × List Char)
  | [] => if part.isEmpty then some ([], []) else none
  | c :: cs =>
    match afterPrefix? part (c :: cs) with
    | some rest => some ([], rest)
    | none => (splitFirst? part cs).map fun (before, after) => (c :: before, after)

/-- What stands before and after the last occurrence of `part`. -/
def splitLast? (part : List Char) : List Char → Option (List Char × List Char)
  | [] => if part.isEmpty then some ([], []) else none
  | c :: cs =>
    match splitLast? part cs with
    | some (before, after) => some (c :: before, after)
    | none => (afterPrefix? part (c :: cs)).map fun rest => ([], rest)

/-- Whether `part` occurs in the characters. -/
def occursIn (part cs : List Char) : Bool :=
  (splitFirst? part cs).isSome

/-- Whether `part` occurs in a text. -/
def contains (text part : String) : Bool :=
  occursIn part.toList text.toList

/-- Whether a text begins with `start`. -/
def startsWith (text start : String) : Bool :=
  (afterPrefix? start.toList text.toList).isSome

/-- The pieces between the occurrences of `part`, looked for from the left. The piece at hand is
collected in reverse, and `skip` characters of an occurrence are still to be passed over. -/
def splitPieces (part : List Char) : (skip : Nat) → (piece : List Char) → List Char →
    List (List Char)
  | _, piece, [] => [piece.reverse]
  | skip + 1, piece, _ :: cs => splitPieces part skip piece cs
  | 0, piece, c :: cs =>
    if (afterPrefix? part (c :: cs)).isSome then
      piece.reverse :: splitPieces part (part.length - 1) [] cs
    else splitPieces part 0 (c :: piece) cs

/-- The pieces of a text between the occurrences of a non-empty `part`. -/
def splitAll (part cs : List Char) : List (List Char) :=
  splitPieces part 0 [] cs

/-- The longest runs of characters that satisfy `p`, in order. -/
def runsOf (p : Char → Bool) (cs : List Char) : List (List Char) :=
  (cs.splitBy fun a b => p a == p b).filter fun run => run.head?.any p

end Reconciliation.Text
