import Mathlib.Algebra.Group.Nat.Even
import Mathlib.Data.List.Chain
import Reconciliation.Query.Predicate

/-! # Lexemes of a statement

A database reads a statement from left to right. A literal opens at a quote, a doubled quote within
it stands for one, and the first quote that is not doubled closes it. What is read are the lexemes
that the statement writes, if none of them runs into the next one (`lexemes?_eq_some_iff`); so a
literal is read as the text that was quoted, and texts that are read by themselves are read in turn
where a mark keeps them apart (`lexemes?_append`, `lexemes?_intercalate`). A text is read by itself
exactly if its quotes are even in number (`literalsClose_iff_even`).
-/

namespace Reconciliation

/-- What a database reads in a statement: a character outside of literals, or the text of a
literal. -/
inductive Lexeme where
  | mark (c : Char)
  | literal (text : String)
  deriving DecidableEq, Repr

namespace Lexeme

/-- The lexeme as a statement writes it. -/
def write : Lexeme → List Char
  | mark c => [c]
  | literal text => (quoteLiteral text).toList

/-- Two lexemes that do not run into each other. Of two literals side by side the quotes in the
middle would be read as a doubled one. -/
inductive Parted : Lexeme → Lexeme → Prop
  | mark_left (c : Char) (next : Lexeme) : Parted (mark c) next
  | mark_right (lexeme : Lexeme) (c : Char) : Parted lexeme (mark c)

/-- The lexemes of a text without quotes. -/
def marks (text : String) : List Lexeme :=
  text.toList.map mark

end Lexeme

/-! ## Reading -/

/-- How far a statement is read: outside of literals, within one, or behind a quote within one,
which closes the literal unless another quote follows. The literal is gathered in reverse. -/
inductive ReadingPlace where
  | outside
  | within (gathered : List Char)
  | behindQuote (gathered : List Char)

/-- The literal of the gathered characters. -/
def gatheredLiteral (gathered : List Char) : Lexeme :=
  .literal (String.ofList gathered.reverse)

namespace ReadingPlace

/-- The lexemes that are complete with the next character, and the place behind it. -/
def read (c : Char) : ReadingPlace → List Lexeme × ReadingPlace
  | outside => if c = quoteMark then ([], within []) else ([.mark c], outside)
  | within gathered =>
    if c = quoteMark then ([], behindQuote gathered) else ([], within (c :: gathered))
  | behindQuote gathered =>
    if c = quoteMark then ([], within (quoteMark :: gathered))
    else ([gatheredLiteral gathered, .mark c], outside)

/-- The lexemes that are complete with the end of the statement. A literal must not be open. -/
def finish? : ReadingPlace → Option (List Lexeme)
  | outside => some []
  | within _ => none
  | behindQuote gathered => some [gatheredLiteral gathered]

end ReadingPlace

/-- The lexemes from a place in a statement on. -/
def lexemesFrom? (place : ReadingPlace) : List Char → Option (List Lexeme)
  | [] => place.finish?
  | c :: cs => (lexemesFrom? (place.read c).2 cs).map ((place.read c).1 ++ ·)

/-- The lexemes of a statement, if its last literal closes. -/
def lexemes? (statement : String) : Option (List Lexeme) :=
  lexemesFrom? .outside statement.toList

/-- Lexemes that are told apart when they are written: all quotes are those of literals, and no
lexeme runs into the next one. -/
structure Apart (lexemes : List Lexeme) : Prop where
  plain : .mark quoteMark ∉ lexemes
  parted : lexemes.IsChain Lexeme.Parted

variable {place : ReadingPlace} {cs rest gathered : List Char} {c : Char}
  {lexemes others : List Lexeme} {text other : String}

theorem apart_nil : Apart [] :=
  ⟨List.not_mem_nil, .nil⟩

theorem apart_mark_cons_iff : Apart (.mark c :: lexemes) ↔ c ≠ quoteMark ∧ Apart lexemes := by
  constructor
  · rintro ⟨plain, parted⟩
    rw [List.mem_cons, not_or, Lexeme.mark.injEq] at plain
    exact ⟨fun same => plain.1 same.symm, plain.2, parted.tail⟩
  · rintro ⟨different, plain, parted⟩
    refine ⟨?_, List.isChain_cons.mpr ⟨fun _ _ => .mark_left .., parted⟩⟩
    rw [List.mem_cons, not_or, Lexeme.mark.injEq]
    exact ⟨fun same => different same.symm, plain⟩

theorem apart_map_mark (noQuote : quoteMark ∉ cs) : Apart (cs.map .mark) := by
  induction cs with
  | nil => exact apart_nil
  | cons c cs ih =>
      rw [List.mem_cons, not_or] at noQuote
      exact apart_mark_cons_iff.mpr ⟨Ne.symm noQuote.1, ih noQuote.2⟩

theorem apart_literal (text : String) : Apart [.literal text] :=
  ⟨List.not_mem_cons_of_ne_of_not_mem nofun List.not_mem_nil, .singleton _⟩

theorem apart_literal_mark_cons (apart : Apart (.mark c :: lexemes)) (text : String) :
    Apart (.literal text :: .mark c :: lexemes) where
  plain := List.not_mem_cons_of_ne_of_not_mem nofun apart.plain
  parted := List.isChain_cons_cons.mpr ⟨.mark_right .., apart.parted⟩

theorem Apart.tail {lexeme : Lexeme} (apart : Apart (lexeme :: lexemes)) : Apart lexemes where
  plain member := apart.plain (List.mem_cons_of_mem _ member)
  parted := apart.parted.tail

/-! ## What is read was written -/

namespace ReadingPlace

/-- The characters of a literal that is not complete yet. -/
def shown : ReadingPlace → List Char
  | outside => []
  | within gathered => quoteMark :: gathered.reverse.flatMap quotedChar
  | behindQuote gathered => (gatheredLiteral gathered).write

/-- The next character is written by a lexeme that it completes, or shown at the next place. -/
theorem write_read (place : ReadingPlace) (c : Char) :
    (place.read c).1.flatMap Lexeme.write ++ (place.read c).2.shown = place.shown ++ [c] := by
  by_cases quote : c = quoteMark
  · subst quote
    cases place <;> simp [read, shown, gatheredLiteral, Lexeme.write, quoteLiteral, quotedChar]
  · cases place <;>
      simp [read, shown, gatheredLiteral, Lexeme.write, quoteLiteral, quotedChar, quote]

theorem apart_read (place : ReadingPlace) (c : Char) (apart : Apart lexemes) :
    Apart ((place.read c).1 ++ lexemes) := by
  unfold read
  split
  · split
    · exact apart
    · next plain => exact apart_mark_cons_iff.mpr ⟨plain, apart⟩
  · split <;> exact apart
  · split
    · exact apart
    · next plain => exact apart_literal_mark_cons (apart_mark_cons_iff.mpr ⟨plain, apart⟩) _

theorem write_finish? (finished : place.finish? = some lexemes) :
    lexemes.flatMap Lexeme.write = place.shown ∧ Apart lexemes := by
  cases place with
  | outside =>
      cases finished
      exact ⟨rfl, apart_nil⟩
  | within gathered => cases finished
  | behindQuote gathered =>
      cases finished
      exact ⟨List.flatMap_singleton .., apart_literal _⟩

end ReadingPlace

/-- The lexemes from a place on write the rest of the statement and what the place shows. -/
theorem write_lexemesFrom? (read : lexemesFrom? place cs = some lexemes) :
    lexemes.flatMap Lexeme.write = place.shown ++ cs ∧ Apart lexemes := by
  induction cs generalizing place lexemes with
  | nil =>
      rw [List.append_nil]
      exact ReadingPlace.write_finish? read
  | cons c cs ih =>
      obtain ⟨later, readLater, rfl⟩ := Option.map_eq_some_iff.mp read
      obtain ⟨written, apart⟩ := ih readLater
      refine ⟨?_, place.apart_read c apart⟩
      rw [List.flatMap_append, written, ← List.append_assoc, place.write_read, List.append_assoc,
        List.singleton_append]

/-! ## What is written is read -/

theorem lexemesFrom?_quoted (gathered cs rest : List Char) :
    lexemesFrom? (.within gathered) (cs.flatMap quotedChar ++ rest) =
      lexemesFrom? (.within (cs.reverse ++ gathered)) rest := by
  induction cs generalizing gathered with
  | nil => rfl
  | cons c cs ih =>
      rw [List.flatMap_cons, List.append_assoc, List.reverse_cons, List.append_assoc,
        List.singleton_append, ← ih]
      by_cases quote : c = quoteMark
      · simp [quotedChar, quote, lexemesFrom?, ReadingPlace.read]
      · simp [quotedChar, quote, lexemesFrom?, ReadingPlace.read]

theorem lexemesFrom?_literal (text : String) (rest : List Char) :
    lexemesFrom? .outside ((Lexeme.literal text).write ++ rest) =
      lexemesFrom? (.behindQuote text.toList.reverse) rest := by
  rw [Lexeme.write, quoteLiteral, String.toList_ofList, List.append_assoc, List.cons_append]
  simp [lexemesFrom?, ReadingPlace.read, lexemesFrom?_quoted]

/-- A literal is closed by a quote that no other quote follows. -/
theorem lexemesFrom?_behindQuote (closed : rest.head? ≠ some quoteMark) :
    lexemesFrom? (.behindQuote gathered) rest =
      (lexemesFrom? .outside rest).map (gatheredLiteral gathered :: ·) := by
  cases rest with
  | nil => rfl
  | cons c rest =>
      have plain : c ≠ quoteMark := fun same => closed (congrArg some same)
      simp [lexemesFrom?, ReadingPlace.read, plain, Function.comp_def]

theorem Apart.closed (apart : Apart (.literal text :: lexemes)) :
    (lexemes.flatMap Lexeme.write).head? ≠ some quoteMark := by
  cases lexemes with
  | nil => nofun
  | cons next lexemes =>
      obtain ⟨parted, -⟩ := List.isChain_cons_cons.mp apart.parted
      cases parted
      intro same
      cases Option.some.inj same
      exact apart.tail.plain List.mem_cons_self

/-- **A statement reads as some lexemes exactly if it writes them and they are told apart.** -/
theorem lexemes?_eq_some_iff :
    lexemes? text = some lexemes ↔ lexemes.flatMap Lexeme.write = text.toList ∧ Apart lexemes := by
  refine ⟨write_lexemesFrom?, ?_⟩
  rintro ⟨written, apart⟩
  rw [lexemes?, ← written]
  clear written
  induction lexemes with
  | nil => rfl
  | cons lexeme lexemes ih =>
      rw [List.flatMap_cons]
      cases lexeme with
      | mark c =>
          have plain := (apart_mark_cons_iff.mp apart).1
          simp [Lexeme.write, lexemesFrom?, ReadingPlace.read, plain, ih apart.tail]
      | literal text =>
          rw [lexemesFrom?_literal, lexemesFrom?_behindQuote apart.closed, ih apart.tail,
            gatheredLiteral, List.reverse_reverse, String.ofList_toList]
          rfl

/-- A quoted text reads as the text. -/
theorem lexemes?_quoteLiteral (text : String) :
    lexemes? (quoteLiteral text) = some [.literal text] :=
  lexemes?_eq_some_iff.mpr ⟨List.flatMap_singleton .., apart_literal text⟩

/-- A literal determines the text that it stands for. -/
theorem quoteLiteral_injective {text other : String}
    (same : quoteLiteral text = quoteLiteral other) : text = other := by
  have read := lexemes?_quoteLiteral text
  rw [same, lexemes?_quoteLiteral, Option.some.injEq, List.singleton_inj] at read
  exact (Lexeme.literal.inj read).symm

theorem lexemes?_of_noQuote (noQuote : quoteMark ∉ text.toList) :
    lexemes? text = some (Lexeme.marks text) := by
  refine lexemes?_eq_some_iff.mpr ⟨?_, apart_map_mark noQuote⟩
  rw [Lexeme.marks, List.flatMap_map]
  exact List.flatMap_singleton' _

/-! ## Texts in turn -/

theorem lexemes?_append (left : lexemes? text = some lexemes) (right : lexemes? other = some others)
    (parted : ∀ last ∈ lexemes.getLast?, ∀ first ∈ others.head?, last.Parted first) :
    lexemes? (text ++ other) = some (lexemes ++ others) := by
  obtain ⟨written, apart⟩ := lexemes?_eq_some_iff.mp left
  obtain ⟨writtenNext, apartNext⟩ := lexemes?_eq_some_iff.mp right
  refine lexemes?_eq_some_iff.mpr ⟨?_, ?_, apart.parted.append apartNext.parted parted⟩
  · rw [List.flatMap_append, written, writtenNext, String.toList_append]
  · exact fun member => (List.mem_append.mp member).elim apart.plain apartNext.plain

theorem lexemes?_append_of_head? (left : lexemes? text = some lexemes)
    (right : lexemes? other = some others) (begins : others.head? = some (.mark c)) :
    lexemes? (text ++ other) = some (lexemes ++ others) := by
  refine lexemes?_append left right fun _ _ first head => ?_
  cases begins.symm.trans head
  exact .mark_right ..

theorem lexemes?_append_of_getLast? (left : lexemes? text = some lexemes)
    (right : lexemes? other = some others) (ends : lexemes.getLast? = some (.mark c)) :
    lexemes? (text ++ other) = some (lexemes ++ others) := by
  refine lexemes?_append left right fun last final _ _ => ?_
  cases ends.symm.trans final
  exact .mark_left ..

/-- Lexemes that begin and end with a mark, so that none beside them runs into another one. -/
structure Spacing (between : List Lexeme) : Prop where
  first : ∃ c, between.head? = some (.mark c)
  last : ∃ c, between.getLast? = some (.mark c)

variable {separator : String} {between : List Lexeme}

theorem lexemes?_spaced (spacing : Spacing between) (middle : lexemes? separator = some between)
    (left : lexemes? text = some lexemes) (right : lexemes? other = some others) :
    lexemes? (text ++ separator ++ other) = some (lexemes ++ between ++ others) := by
  obtain ⟨⟨c, first⟩, ⟨d, last⟩⟩ := spacing
  have ends : (lexemes ++ between).getLast? = some (.mark d) := by
    rw [List.getLast?_append, last, Option.some_or]
  exact lexemes?_append_of_getLast? (lexemes?_append_of_head? left middle first) right ends

/-- Texts with a separator between them are read in turn. -/
theorem lexemes?_intercalate {α : Type} {items : List α} {write : α → String}
    {value : α → List Lexeme} (spacing : Spacing between)
    (middle : lexemes? separator = some between)
    (read : ∀ item ∈ items, lexemes? (write item) = some (value item)) :
    lexemes? (separator.intercalate (items.map write)) =
      some (between.intercalate (items.map value)) := by
  induction items with
  | nil => rfl
  | cons item items ih =>
      obtain ⟨here, later⟩ := List.forall_mem_cons.mp read
      cases items with
      | nil =>
          rw [List.map_singleton, List.map_singleton, String.intercalate_singleton,
            List.intercalate_singleton, here]
      | cons next items =>
          rw [List.map_cons, List.map_cons, List.map_cons, List.map_cons,
            String.intercalate_cons_cons, List.intercalate_cons_cons]
          exact lexemes?_spaced spacing middle here (ih later)

/-! ## Quotes -/

/-- The quotes of a literal that is still open. -/
def ReadingPlace.openQuotes : ReadingPlace → Nat
  | .within _ => 1
  | _ => 0

/-- A quote opens or closes a literal. -/
theorem ReadingPlace.even_openQuotes_read_iff (place : ReadingPlace) (c : Char) (quotes : Nat) :
    Even ((place.read c).2.openQuotes + quotes) ↔
      Even (place.openQuotes + ([c].count quoteMark + quotes)) := by
  by_cases quote : c = quoteMark
  · cases place <;> simp [read, openQuotes, quote, parity_simps]
  · cases place <;> simp [read, openQuotes, quote]

theorem isSome_lexemesFrom?_iff :
    (lexemesFrom? place cs).isSome ↔ Even (place.openQuotes + cs.count quoteMark) := by
  induction cs generalizing place with
  | nil => cases place <;> simp [lexemesFrom?, ReadingPlace.finish?, ReadingPlace.openQuotes]
  | cons c cs ih =>
      rw [lexemesFrom?, Option.isSome_map, ih, place.even_openQuotes_read_iff, ← List.count_append,
        List.singleton_append]

/-- A text that is read by itself, since its literals close. -/
def LiteralsClose (text : String) : Prop :=
  (lexemes? text).isSome

instance (text : String) : Decidable (LiteralsClose text) :=
  inferInstanceAs (Decidable (_ = _))

theorem literalsClose_iff_even : LiteralsClose text ↔ Even (text.toList.count quoteMark) := by
  rw [LiteralsClose, lexemes?, isSome_lexemesFrom?_iff]
  exact iff_of_eq (congrArg Even (Nat.zero_add _))

theorem literalsClose_append_iff :
    LiteralsClose (text ++ other) ↔ (LiteralsClose text ↔ LiteralsClose other) := by
  rw [literalsClose_iff_even, literalsClose_iff_even, literalsClose_iff_even, String.toList_append,
    List.count_append, Nat.even_add]

theorem literalsClose_of_noQuote (noQuote : quoteMark ∉ text.toList) : LiteralsClose text := by
  rw [LiteralsClose, lexemes?_of_noQuote noQuote]
  rfl

end Reconciliation
