import Reconciliation.Document.Value
import Reconciliation.Number.Numeral

/-! # Reading JSON

The document that a JSON text denotes. A string with half of a surrogate pair and a number beyond
all numbers are well formed but have no value; a record with such a name has none either.
-/

namespace Reconciliation.Document.Json

def isSpace (c : Char) : Bool :=
  c == ' ' || c == '\n' || c == '\t' || c == '\r'

/-- A text without the blanks before it. -/
def skipSpace (cs : List Char) : List Char :=
  cs.dropWhile isSpace

/-- A piece of a string: a character, or a code unit that is to be paired. -/
inductive Piece where
  /-- A character written as it is or by a short escape. -/
  | plain (c : Char)
  /-- A code unit written by its number. -/
  | unit (code : Nat)

/-- The character of a short escape. -/
def shortEscape? (c : Char) : Option Char :=
  if c = '\x22' ∨ c = '\\' ∨ c = '/' then some c
  else if c = 'b' then some '\x08'
  else if c = 'f' then some '\x0c'
  else if c = 'n' then some '\n'
  else if c = 'r' then some '\r'
  else if c = 't' then some '\t'
  else none

/-- The pieces of a string up to its closing quote, and what follows it. -/
def pieces? : List Char → Option (List Piece × List Char)
  | [] => none
  | '\x22' :: rest => some ([], rest)
  | '\\' :: 'u' :: a :: b :: c :: d :: rest => do
    let code ← natInBase? 16 [a, b, c, d]
    let (pieces, after) ← pieces? rest
    return (.unit code :: pieces, after)
  | '\\' :: e :: rest => do
    let c ← shortEscape? e
    let (pieces, after) ← pieces? rest
    return (.plain c :: pieces, after)
  | c :: rest =>
    if c.toNat < 0x20 ∨ c = '\\' then none
    else (pieces? rest).map fun (pieces, after) => (.plain c :: pieces, after)

/-- The first half of a surrogate pair. -/
def isHighSurrogate (code : Nat) : Bool :=
  0xD800 ≤ code && code ≤ 0xDBFF

/-- The second half of a surrogate pair. -/
def isLowSurrogate (code : Nat) : Bool :=
  0xDC00 ≤ code && code ≤ 0xDFFF

/-- The characters that pieces denote, if every surrogate has its other half. -/
def characters? : List Piece → Option (List Char)
  | [] => some []
  | .plain c :: rest => (characters? rest).map (c :: ·)
  | .unit high :: .unit low :: rest =>
    if isHighSurrogate high then
      if isLowSurrogate low then
        (characters? rest).map
          (Char.ofNat (0x10000 + (high - 0xD800) * 0x400 + (low - 0xDC00)) :: ·)
      else none
    else if isLowSurrogate high then none
    else (characters? (.unit low :: rest)).map (Char.ofNat high :: ·)
  | .unit code :: rest =>
    if isHighSurrogate code || isLowSurrogate code then none
    else (characters? rest).map (Char.ofNat code :: ·)

def pieceText? (pieces : List Piece) : Option String :=
  (characters? pieces).map String.ofList

/-- The value of a text that pieces denote. -/
def stringValue (pieces : List Piece) : Document :=
  ((pieceText? pieces).map Document.text).getD .unreadable

/-- The value of a numeral written without point and exponent. A negative zero is no integer. -/
def wholeValue (negative : Bool) (digits : List Char) : Document :=
  let magnitude := natOfDigits digits
  let value : Int := if negative then -(magnitude : Int) else magnitude
  if holdsInteger value && !(negative && magnitude == 0) then .integer value
  else
    match Binary64.ofDecimal negative magnitude 0 with
    | .infinite _ => .unreadable
    | number => .float number

/-- The value of a numeral with a point or an exponent: the nearest number. A reader that rounds
the digits first and then scales them rounds twice, and so may differ in the last place, as it does
on `31.245270191439438`. -/
def realValue (negative : Bool) (numeral : Numeral) : Document :=
  match numeral.toBinary64 negative with
  | .infinite _ => .unreadable
  | number => .float number

/-- The digits before the point: one zero, or digits that begin with another one. -/
def wholeDigits? (cs : List Char) : Option (List Char × List Char) :=
  match cs with
  | '0' :: rest => some (['0'], rest)
  | _ =>
    let digits := cs.takeWhile Char.isDigit
    if digits.isEmpty then none else some (digits, cs.dropWhile Char.isDigit)

/-- The digits after the point, if there is a point. -/
def fractionDigits? (cs : List Char) : Option (Option (List Char) × List Char) :=
  match cs with
  | '.' :: rest =>
    let digits := rest.takeWhile Char.isDigit
    if digits.isEmpty then none else some (some digits, rest.dropWhile Char.isDigit)
  | _ => some (none, cs)

/-- The power of ten, if there is an exponent mark. -/
def exponent? (cs : List Char) : Option (Option Int × List Char) :=
  match cs with
  | mark :: rest =>
    if mark = 'e' ∨ mark = 'E' then
      (Numeral.power? rest).map fun (power, after) => (some power, after)
    else some (none, cs)
  | [] => some (none, [])

/-- The number at the head of a text, after its sign, and what follows it. -/
def number? (negative : Bool) (cs : List Char) : Option (Document × List Char) := do
  let (whole, afterWhole) ← wholeDigits? cs
  let (fraction, afterFraction) ← fractionDigits? afterWhole
  let (power, rest) ← exponent? afterFraction
  if fraction.isNone && power.isNone then return (wholeValue negative whole, rest)
  return (realValue negative ⟨whole, fraction.getD [], power.getD 0⟩, rest)

/-- What is read next within a list or record. -/
inductive Progress where
  | more (rest : List Char)
  | done (rest : List Char)

/-- What follows a part: a comma, or the closing bracket. -/
def progress? (closing : Char) (cs : List Char) : Option Progress :=
  match skipSpace cs with
  | c :: rest => if c = ',' then some (.more rest) else if c = closing then some (.done rest) else none
  | [] => none

/-- What follows an opening bracket, unless the closing one comes next. -/
def opened (closing : Char) (cs : List Char) : Progress :=
  match skipSpace cs with
  | c :: rest => if c = closing then .done rest else .more (c :: rest)
  | [] => .more []

/-- The name of a member and what follows its colon. The name lacks if it has no value. -/
def name? (cs : List Char) : Option (Option String × List Char) :=
  match skipSpace cs with
  | '\x22' :: rest => do
    let (pieces, afterName) ← pieces? rest
    match skipSpace afterName with
    | ':' :: after => return (pieceText? pieces, after)
    | _ => none
  | _ => none

/-- The record of some members, if all of their names have values. -/
def recordOf (members : List (Option String × Document)) : Document :=
  match members.mapM fun (name, value) => name.map (·, value) with
  | some members => .record members
  | none => .unreadable

mutual

/-- The value at the head of a text and what follows it, in at most so many steps. -/
def value? : (steps : Nat) → List Char → Option (Document × List Char)
  | 0, _ => none
  | steps + 1, cs =>
    match skipSpace cs with
    | 'n' :: 'u' :: 'l' :: 'l' :: rest => some (.null, rest)
    | 't' :: 'r' :: 'u' :: 'e' :: rest => some (.boolean true, rest)
    | 'f' :: 'a' :: 'l' :: 's' :: 'e' :: rest => some (.boolean false, rest)
    | '\x22' :: rest => (pieces? rest).map fun (pieces, after) => (stringValue pieces, after)
    | '[' :: rest =>
      match opened ']' rest with
      | .done after => some (.list [], after)
      | .more inner => (items? steps inner).map fun (items, after) => (.list items, after)
    | '\x7b' :: rest =>
      match opened '\x7d' rest with
      | .done after => some (.record [], after)
      | .more inner => (members? steps inner).map fun (members, after) => (recordOf members, after)
    | '-' :: rest => number? true rest
    | other => number? false other

/-- The items of a list up to its closing bracket. -/
def items? : (steps : Nat) → List Char → Option (List Document × List Char)
  | 0, _ => none
  | steps + 1, cs =>
    match value? steps cs with
    | none => none
    | some (item, afterItem) =>
      match progress? ']' afterItem with
      | none => none
      | some (.done rest) => some ([item], rest)
      | some (.more rest) => (items? steps rest).map fun (items, after) => (item :: items, after)

/-- The members of a record up to its closing bracket. -/
def members? : (steps : Nat) → List Char → Option (List (Option String × Document) × List Char)
  | 0, _ => none
  | steps + 1, cs =>
    match name? cs with
    | none => none
    | some (name, afterName) =>
      match value? steps afterName with
      | none => none
      | some (value, afterValue) =>
        match progress? '\x7d' afterValue with
        | none => none
        | some (.done rest) => some ([(name, value)], rest)
        | some (.more rest) =>
          (members? steps rest).map fun (members, after) => ((name, value) :: members, after)

end

/-- The document that a JSON text denotes. A text has fewer values and parts than characters, so
twice its length is more steps than it takes. -/
def read? (text : String) : Option Document := do
  let cs := text.toList
  let (document, rest) ← value? (2 * cs.length + 2) cs
  if (skipSpace rest).isEmpty then some document else none

end Reconciliation.Document.Json
