import Reconciliation.Document.Value
import Reconciliation.Number.DecimalText

/-! # Writing JSON

A document as JSON text, on one line or with every member on a line of its own. Numbers without
a JSON spelling are written as null.
-/

namespace Reconciliation.Document.Json

/-- A digit of a hexadecimal escape. -/
def hexDigit (n : Nat) : Char :=
  Nat.digitChar (n % 16)

/-- One character within a JSON string. -/
def escaped (c : Char) : List Char :=
  if c = '\x22' then ['\\', '\x22']
  else if c = '\\' then ['\\', '\\']
  else if c = '\n' then ['\\', 'n']
  else if c = '\r' then ['\\', 'r']
  else if c = '\t' then ['\\', 't']
  else if c = '\x08' then ['\\', 'b']
  else if c = '\x0c' then ['\\', 'f']
  else if c.toNat < 0x20 then ['\\', 'u', '0', '0', hexDigit (c.toNat / 16), hexDigit c.toNat]
  else [c]

/-- A text as a JSON string. -/
def quoted (text : String) : List Char :=
  '\x22' :: text.toList.flatMap escaped ++ ['\x22']

def leafText : Document → List Char
  | .boolean true => "true".toList
  | .boolean false => "false".toList
  | .integer value => signedDigits value
  | .float value => value.recordText?.getD "null".toList
  | .text value => quoted value
  | _ => "null".toList

mutual

def compact : Document → List Char
  | .list items => '[' :: [','].intercalate (compactItems items) ++ [']']
  | .record members => '\x7b' :: [','].intercalate (compactMembers members) ++ ['\x7d']
  | leaf => leafText leaf

/-- The items of a list on one line. -/
def compactItems : List Document → List (List Char)
  | [] => []
  | item :: items => compact item :: compactItems items

/-- The members of a record on one line. -/
def compactMembers : List (String × Document) → List (List Char)
  | [] => []
  | (name, value) :: members => (quoted name ++ ':' :: compact value) :: compactMembers members

end

/-- A new line with the indentation of a depth. -/
def newLine (depth : Nat) : List Char :=
  '\n' :: List.replicate (2 * depth) ' '

/-- Parts between two brackets, each on its own line one step deeper than the brackets. -/
def bracketed (depth : Nat) (opening closing : Char) (parts : List (List Char)) : List Char :=
  if parts.isEmpty then [opening, closing]
  else
    let lines := parts.map (newLine (depth + 1) ++ ·)
    opening :: [','].intercalate lines ++ newLine depth ++ [closing]

mutual

/-- A document with its parts on lines of their own. -/
def indented (depth : Nat) : Document → List Char
  | .list items => bracketed depth '[' ']' (indentedItems (depth + 1) items)
  | .record members => bracketed depth '\x7b' '\x7d' (indentedMembers (depth + 1) members)
  | leaf => leafText leaf

def indentedItems (depth : Nat) : List Document → List (List Char)
  | [] => []
  | item :: items => indented depth item :: indentedItems depth items

def indentedMembers (depth : Nat) : List (String × Document) → List (List Char)
  | [] => []
  | (name, value) :: members =>
    (quoted name ++ ':' :: ' ' :: indented depth value) :: indentedMembers depth members

end

/-- A document as JSON text on one line. -/
def line (document : Document) : String :=
  String.ofList (compact document)

/-- A document as JSON text for people. -/
def pretty (document : Document) : String :=
  String.ofList (indented 0 document)

end Reconciliation.Document.Json
