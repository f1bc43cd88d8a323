/-! # Options of a command line

A command line is a list of words. Options have a long name, `--name`, and some also a letter,
`-n`. A value follows as the next word, unless that looks like an option itself, or in the same
word: `--name=value`, `-n=value`, `-nvalue`. Options end at the first other word.
-/

namespace Reconciliation.CommandLine

/-- An option that a command knows. -/
structure OptionShape where
  name : String
  letter : Option Char := none
  takesValue : Bool := true
  repeats : Bool := false
  deriving DecidableEq, Repr

namespace OptionShape

def valued (name : String) : OptionShape := { name }

/-- An option with a value that may be given more than once. -/
def listed (name : String) : OptionShape := { name, repeats := true }

def switch (name : String) : OptionShape := { name, takesValue := false }

end OptionShape

/-- An option with its value, which is empty where none follows. -/
structure OptionUse where
  name : String
  value : String
  deriving DecidableEq, Repr

/-- A word by its form. -/
inductive Word where
  | long (name : String) (value : Option String)
  | short (letter : Char) (rest : List Char)
  | stop
  | plain
  deriving DecidableEq, Repr

namespace Word

/-- The form of a long option without its dashes. -/
def ofLong (cs : List Char) : Word :=
  let value := (cs.dropWhile (· != '=')).drop 1
  .long (String.ofList (cs.takeWhile (· != '=')))
    (if cs.contains '=' then some (String.ofList value) else none)

/-- The form of a word. A dash alone is no option. -/
def ofText (text : String) : Word :=
  match text.toList with
  | ['-', '-'] => .stop
  | '-' :: '-' :: cs => ofLong cs
  | '-' :: letter :: rest => .short letter rest
  | _ => .plain

/-- The value that stands in the same word as a letter. -/
def attached : List Char → Option String
  | [] => none
  | '=' :: cs => some (String.ofList cs)
  | cs => some (String.ofList cs)

end Word

/-- The option that a word names, with the value that stands in the same word. -/
def named? (shapes : List OptionShape) (word : Word) : Option (OptionShape × Option String) :=
  match word with
  | .long name value => (shapes.find? (·.name == name)).map (·, value)
  | .short letter rest => (shapes.find? (·.letter == some letter)).map (·, Word.attached rest)
  | .stop => none
  | .plain => none

/-- The options at the head of some words, and the words after them. Two dashes may stand at the
end, and say nothing there. -/
def readOptions? (shapes : List OptionShape) : List String →
    Option (List OptionUse × List String)
  | [] => some ([], [])
  | word :: words =>
    if Word.ofText word = .plain then some ([], word :: words)
    else if Word.ofText word = .stop ∧ words = [] then some ([], [])
    else
      match named? shapes (Word.ofText word), words with
      | none, _ => none
      | some (shape, some value), words =>
        if shape.takesValue then
          (readOptions? shapes words).map fun (uses, rest) => (⟨shape.name, value⟩ :: uses, rest)
        else none
      | some (shape, none), [] => if shape.takesValue then none else some ([⟨shape.name, ""⟩], [])
      | some (shape, none), next :: words =>
        if shape.takesValue then
          if Word.ofText next = .plain then
            (readOptions? shapes words).map fun (uses, rest) => (⟨shape.name, next⟩ :: uses, rest)
          else none
        else
          (readOptions? shapes (next :: words)).map fun (uses, rest) =>
            (⟨shape.name, ""⟩ :: uses, rest)
termination_by words => words.length

def valuesOf (uses : List OptionUse) (name : String) : List String :=
  (uses.filter (·.name == name)).map OptionUse.value

/-- The options at the head of some words, if none is repeated that must not be. -/
def options? (shapes : List OptionShape) (words : List String) :
    Option (List OptionUse × List String) := do
  let (uses, rest) ← readOptions? shapes words
  if shapes.all fun shape => shape.repeats || (valuesOf uses shape.name).length ≤ 1 then
    some (uses, rest)
  else none

end Reconciliation.CommandLine
