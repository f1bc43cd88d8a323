import Reconciliation.Document.Yaml.Scalar
import Reconciliation.Document.Yaml.Token

/-! # Reading YAML

The document that a YAML text denotes, where the text keeps to lists, records and scalars of one
line. Parts are told by their columns or stand in brackets. A name without a value has a vacant
one, and so has a text that says nothing.
-/

namespace Reconciliation.Document.Yaml

/-- The text of a token that is a scalar. -/
def scalarText? (token : Token) : Option String :=
  match token.mark with
  | .plain word => some (String.ofList word)
  | .quoted word => some (String.ofList word)
  | _ => none

/-- The name at the head of some tokens, the line it stands in, and what follows its colon. -/
def name? : List Token → Option (String × Token × List Token)
  | name :: colon :: rest =>
    if colon.mark = .colon ∧ colon.line = name.line then
      (scalarText? name).map fun word => (word, name, rest)
    else none
  | _ => none

/-- Whether some tokens begin with a token in a line. -/
def continuesLine (line : Nat) : List Token → Bool
  | token :: _ => token.line == line
  | [] => false

/-- Whether some tokens begin with a list whose dashes stand in a column. -/
def beginsList (column : Nat) : List Token → Bool
  | token :: _ => token.mark == .entry && token.column == column
  | [] => false

mutual

/-- A scalar or a part in brackets. -/
def leaf? : (steps : Nat) → List Token → Option (Document × List Token)
  | 0, _ => none
  | _ + 1, [] => none
  | steps + 1, token :: rest =>
    match token.mark with
    | .plain word => some (plainValue word, rest)
    | .quoted word => some (.text (String.ofList word), rest)
    | .listOpen => (bracketItems? steps rest).map fun (items, after) => (.list items, after)
    | .recordOpen =>
      (bracketMembers? steps rest).map fun (members, after) => (.record members, after)
    | _ => none

/-- The value after a colon within brackets, which may lack. -/
def bracketValue? : (steps : Nat) → List Token → Option (Document × List Token)
  | 0, _ => none
  | _ + 1, [] => none
  | steps + 1, token :: rest =>
    if token.mark ∈ [.comma, .listClose, .recordClose] then some (.vacant, token :: rest)
    else leaf? steps (token :: rest)

/-- The items of a list in brackets up to its closing bracket. -/
def bracketItems? : (steps : Nat) → List Token → Option (List Document × List Token)
  | 0, _ => none
  | _ + 1, [] => none
  | steps + 1, token :: rest =>
    if token.mark = .listClose then some ([], rest)
    else do
      let (item, after) ← bracketItem? steps (token :: rest)
      match after with
      | next :: following =>
        if next.mark = .comma then
          (bracketItems? steps following).map fun (items, remaining) => (item :: items, remaining)
        else if next.mark = .listClose then some ([item], following)
        else none
      | [] => none

/-- An item of a list in brackets, which may be a single named value. -/
def bracketItem? : (steps : Nat) → List Token → Option (Document × List Token)
  | 0, _ => none
  | steps + 1, tokens =>
    match name? tokens with
    | some (name, _, rest) =>
      (bracketValue? steps rest).map fun (value, after) => (.record [(name, value)], after)
    | none => leaf? steps tokens

/-- The members of a record in brackets up to its closing bracket. -/
def bracketMembers? : (steps : Nat) → List Token → Option (List (String × Document) × List Token)
  | 0, _ => none
  | _ + 1, [] => none
  | steps + 1, token :: rest =>
    if token.mark = .recordClose then some ([], rest)
    else do
      let name ← scalarText? token
      let (value, after) ←
        match rest with
        | colon :: valueTokens =>
          if colon.mark = .colon then bracketValue? steps valueTokens else some (.vacant, rest)
        | [] => none
      match after with
      | next :: following =>
        if next.mark = .comma then
          (bracketMembers? steps following).map fun (members, remaining) =>
            ((name, value) :: members, remaining)
        else if next.mark = .recordClose then some ([(name, value)], following)
        else none
      | [] => none

end

mutual

/-- The part whose columns lie beyond an indentation, or nothing. -/
def block? : (steps : Nat) → (indentation : Int) → List Token → Option (Document × List Token)
  | 0, _, _ => none
  | _ + 1, _, [] => some (.vacant, [])
  | steps + 1, indentation, token :: rest =>
    if token.column ≤ indentation then some (.vacant, token :: rest)
    else if token.mark = .entry then
      (entries? steps token.column (token :: rest)).map fun (items, after) => (.list items, after)
    else if (name? (token :: rest)).isSome then
      (members? steps token.column (token :: rest)).map fun (members, after) =>
        (.record members, after)
    else leaf? (2 * (rest.length + 2)) (token :: rest)

/-- The entries of a list whose dashes stand in a column. -/
def entries? : (steps : Nat) → (column : Nat) → List Token → Option (List Document × List Token)
  | 0, _, _ => none
  | _ + 1, _, [] => some ([], [])
  | steps + 1, column, token :: rest =>
    if token.mark = .entry ∧ token.column = column then do
      let (item, after) ← block? steps column rest
      let (items, remaining) ← entries? steps column after
      return (item :: items, remaining)
    else some ([], token :: rest)

/-- The members of a record whose names stand in a column. A value may stand in the line of its
name, if it has no name itself; a list may have its dashes in the column of the name. -/
def members? : (steps : Nat) → (column : Nat) → List Token →
    Option (List (String × Document) × List Token)
  | 0, _, _ => none
  | steps + 1, column, tokens =>
    match name? tokens with
    | none => some ([], tokens)
    | some (name, token, rest) =>
      if token.column ≠ column then some ([], tokens)
      else do
        let (value, after) ←
          if continuesLine token.line rest then
            if (name? rest).isSome then none else leaf? (2 * (rest.length + 1)) rest
          else if beginsList column rest then
            (entries? steps column rest).map fun (items, after) => (.list items, after)
          else block? steps column rest
        if continuesLine token.line after then none
        let (members, remaining) ← members? steps column after
        return ((name, value) :: members, remaining)

end

/-- The document that a YAML text denotes. -/
def read? (text : String) : Option Document := do
  let cs := text.toList
  let tokens ← tokens? (cs.length + 1) {} cs
  let content :=
    match tokens with
    | first :: rest => if first.mark = .documentStart then rest else tokens
    | [] => []
  let (document, rest) ← block? (2 * content.length + 2) (-1) content
  if rest.isEmpty then some document else none

end Reconciliation.Document.Yaml
