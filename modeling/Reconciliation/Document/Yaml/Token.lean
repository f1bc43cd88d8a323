import Reconciliation.Document.Value
import Reconciliation.Number.Numeral

/-! # Tokens of YAML

The marks and scalars of a YAML text with the places where they stand. Blocks are recognised by
columns and lines, so every token keeps both. A scalar ends with its line.
-/

namespace Reconciliation.Document.Yaml

/-- What a token says. -/
inductive Mark where
  | entry
  | colon
  | comma
  | listOpen
  | listClose
  | recordOpen
  | recordClose
  | plain (text : List Char)
  | quoted (text : List Char)
  | documentStart
  deriving DecidableEq

/-- A mark at its place. -/
structure Token where
  line : Nat
  column : Nat
  mark : Mark

/-- Where the reading of tokens stands. -/
structure Place where
  /-- The line. -/
  line : Nat := 0
  /-- The column. -/
  column : Nat := 0
  /-- The brackets that are open. -/
  depth : Nat := 0
  /-- Whether a name may begin here, so that no tab may stand here outside of brackets. -/
  fresh : Bool := true

def Place.advance (place : Place) (characters : Nat) : Place :=
  { place with column := place.column + characters }

def isSpace (c : Char) : Bool :=
  c == ' ' || c == '\t' || c == '\r'

/-- Whether a text begins with a space or ends. -/
def blankNext : List Char → Bool
  | [] => true
  | c :: _ => isSpace c || c == '\n'

/-- A character that ends a scalar within brackets. -/
def isBracketMark (c : Char) : Bool :=
  c == ',' || c == '[' || c == ']' || c == '\x7b' || c == '\x7d'

/-- A character that no scalar without quotes begins with. -/
def isReserved (c : Char) : Bool :=
  isBracketMark c || "&*!|>%@#\x60\x22\x27".toList.contains c

/-- Splits a text after a scalar without quotes, which may be followed by spaces. Within brackets
no mark follows a colon at once. -/
def splitPlain? (inBrackets : Bool) : List Char → Option (List Char × List Char)
  | [] => some ([], [])
  | c :: rest =>
    if inBrackets && c == ':' && rest.head?.any (fun d => d == '?' || isBracketMark d) then none
    else if c == '\n' || (c == ':' && blankNext rest) || (inBrackets && isBracketMark c) ||
        (isSpace c && rest.head? == some '#') then
      some ([], c :: rest)
    else (splitPlain? inBrackets rest).map fun (taken, after) => (c :: taken, after)

/-- The text within single quotes, where a doubled quote stands for one, and what follows. -/
def splitSingle? : List Char → Option (List Char × List Char)
  | '\x27' :: '\x27' :: rest => (splitSingle? rest).map fun (word, after) => ('\x27' :: word, after)
  | '\x27' :: rest => some ([], rest)
  | c :: rest =>
    if c = '\n' then none else (splitSingle? rest).map fun (word, after) => (c :: word, after)
  | [] => none

/-- The character of a short escape within double quotes. -/
def escapedChar? (c : Char) : Option Char :=
  [('0', '\x00'), ('a', '\x07'), ('b', '\x08'), ('t', '\t'), ('\t', '\t'), ('n', '\n'),
    ('v', '\x0b'), ('f', '\x0c'), ('r', '\r'), ('e', '\x1b'), (' ', ' '), ('\x22', '\x22'),
    ('/', '/'), ('\\', '\\'), ('N', '\u0085'), ('_', '\u00a0'), ('L', '\u2028'),
    ('P', '\u2029')].lookup c

/-- The digits of an escape by number. -/
def escapeLength? (c : Char) : Option Nat :=
  [('x', 2), ('u', 4), ('U', 8)].lookup c

/-- The character that hexadecimal digits denote. -/
def numberedChar? (digits : List Char) : Option Char := do
  let code ← natInBase? 16 digits
  if code.isValidChar then some (Char.ofNat code) else none

/-- The text within double quotes and what follows, in at most so many steps. -/
def splitDouble? : (steps : Nat) → List Char → Option (List Char × List Char)
  | 0, _ => none
  | _ + 1, [] => none
  | steps + 1, c :: rest =>
    if c = '\x22' then some ([], rest)
    else if c = '\n' then none
    else if c = '\\' then
      match rest with
      | [] => none
      | e :: after =>
        match escapeLength? e with
        | some length => do
          let digits := after.take length
          if digits.length < length then none
          let char ← numberedChar? digits
          let (word, remaining) ← splitDouble? steps (after.drop length)
          return (char :: word, remaining)
        | none => do
          let char ← escapedChar? e
          let (word, remaining) ← splitDouble? steps after
          return (char :: word, remaining)
    else (splitDouble? steps rest).map fun (word, after) => (c :: word, after)

/-- A text without the spaces at its end. -/
def trimEnd (cs : List Char) : List Char :=
  (cs.reverse.dropWhile isSpace).reverse

/-- The token at the head of a text that begins with no space, what follows it and the place
after it. -/
def token? (place : Place) (cs : List Char) : Option (Token × List Char × Place) :=
  let take (mark : Mark) (length depth : Nat) (fresh : Bool) (rest : List Char) :=
    some (Token.mk place.line place.column mark, rest,
      { place.advance length with depth := depth, fresh := fresh })
  match cs with
  | '-' :: '-' :: '-' :: rest =>
    if place.column = 0 && blankNext rest then take .documentStart 3 place.depth true rest
    else scalar cs
  | '-' :: rest =>
    if blankNext rest then
      if place.depth = 0 then take .entry 1 0 true rest else none
    else scalar cs
  | '?' :: rest => if place.depth ≠ 0 || blankNext rest then none else scalar cs
  | ':' :: rest =>
    if place.depth ≠ 0 || blankNext rest then take .colon 1 place.depth false rest else scalar cs
  | ',' :: rest => if place.depth = 0 then none else take .comma 1 place.depth false rest
  | '[' :: rest => take .listOpen 1 (place.depth + 1) false rest
  | ']' :: rest => if place.depth = 0 then none else take .listClose 1 (place.depth - 1) false rest
  | '\x7b' :: rest => take .recordOpen 1 (place.depth + 1) false rest
  | '\x7d' :: rest =>
    if place.depth = 0 then none else take .recordClose 1 (place.depth - 1) false rest
  | '\x27' :: rest => do
    let (word, after) ← splitSingle? rest
    take (.quoted word) (cs.length - after.length) place.depth false after
  | '\x22' :: rest => do
    let (word, after) ← splitDouble? (rest.length + 1) rest
    take (.quoted word) (cs.length - after.length) place.depth false after
  | _ => scalar cs
where
  /-- A scalar without quotes. -/
  scalar (cs : List Char) : Option (Token × List Char × Place) :=
    if cs.head?.all isReserved then none
    else
      (splitPlain? (place.depth ≠ 0) cs).map fun (taken, after) =>
        (⟨place.line, place.column, .plain (trimEnd taken)⟩, after,
          { place.advance taken.length with fresh := false })

/-- The tokens of a text from a place on, in at most so many steps. -/
def tokens? : (steps : Nat) → Place → List Char → Option (List Token)
  | 0, _, _ => none
  | _ + 1, _, [] => some []
  | steps + 1, place, c :: rest =>
    if c = '\n' then
      tokens? steps { place with line := place.line + 1, column := 0, fresh := true } rest
    else if c = '\t' && place.fresh && place.depth = 0 then none
    else if isSpace c then tokens? steps (place.advance 1) rest
    else if c = '#' then tokens? steps place (rest.dropWhile (· ≠ '\n'))
    else
      match token? place (c :: rest) with
      | some (token, after, next) => (tokens? steps next after).map (token :: ·)
      | none => none

end Reconciliation.Document.Yaml
