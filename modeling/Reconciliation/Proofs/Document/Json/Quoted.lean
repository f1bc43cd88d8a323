import Reconciliation.Document.Json.Reader
import Reconciliation.Document.Json.Writer

/-! # Texts in JSON

A quoted text reads back as the text: each escaped character is one piece of a string, and none of
the pieces is half of a surrogate pair (`pieces?_quoted`).
-/

namespace Reconciliation.Document.Json

variable {rest : List Char}

/-- The piece that a character is written as. -/
def pieceOf (c : Char) : Piece :=
  if c = '\n' ∨ c = '\r' ∨ c = '\t' ∨ c = '\x08' ∨ c = '\x0c' then .plain c
  else if c.toNat < 0x20 then .unit c.toNat
  else .plain c

/-- The escape of a control character has its number. -/
theorem natInBase?_control : ∀ n < 0x20,
    natInBase? 16 ['0', '0', hexDigit (n / 16), hexDigit n] = some n := by
  decide

theorem pieces?_short {e c : Char} (short : shortEscape? e = some c) :
    pieces? ('\\' :: e :: rest) =
      (pieces? rest).map fun (pieces, after) => (.plain c :: pieces, after) := by
  have notUnit : e ≠ 'u' := by
    rintro rfl
    cases short
  rw [pieces?]
  · rw [short]
    cases pieces? rest <;> rfl
  · rintro _ _ _ _ _ same
    exact absurd same notUnit

theorem pieces?_plain {c : Char} (quote : c ≠ '\x22') (backslash : c ≠ '\\')
    (visible : ¬c.toNat < 0x20) :
    pieces? (c :: rest) =
      (pieces? rest).map fun (pieces, after) => (.plain c :: pieces, after) := by
  rw [pieces?]
  · rw [if_neg (not_or.mpr ⟨visible, backslash⟩)]
  · exact quote
  · exact fun _ _ _ _ _ same => absurd same backslash
  · exact fun _ _ same => absurd same backslash

/-- An escaped character is one piece of a string. -/
theorem pieces?_escaped (c : Char) (rest : List Char) :
    pieces? (escaped c ++ rest) =
      (pieces? rest).map fun (pieces, after) => (pieceOf c :: pieces, after) := by
  unfold escaped
  -- the short escapes
  iterate 7
    split
    · next same =>
        subst same
        exact pieces?_short rfl
  next quote backslash newLine carriage tab back feed =>
    have noShort := not_or.mpr ⟨newLine, not_or.mpr ⟨carriage, not_or.mpr ⟨tab,
      not_or.mpr ⟨back, feed⟩⟩⟩⟩
    rw [pieceOf, if_neg noShort]
    split
    · next control =>
        dsimp only [List.cons_append, List.nil_append]
        rw [pieces?, natInBase?_control c.toNat control]
        cases pieces? rest <;> rfl
    · next visible => exact pieces?_plain quote backslash visible

/-- A piece that a character is written as is the character. -/
theorem characters?_pieceOf (c : Char) (pieces : List Piece) :
    characters? (pieceOf c :: pieces) = (characters? pieces).map (c :: ·) := by
  have single {code : Nat} (control : code < 0x20) :
      isHighSurrogate code = false ∧ isLowSurrogate code = false := by
    simp only [isHighSurrogate, isLowSurrogate, Bool.and_eq_false_iff, decide_eq_false_iff_not]
    omega
  unfold pieceOf
  split
  · rw [characters?]
  split
  · next control =>
      obtain ⟨notHigh, notLow⟩ := single control
      cases pieces with
      | nil => simp [characters?, notHigh, notLow]
      | cons piece pieces =>
          cases piece with
          | plain => simp [characters?, notHigh, notLow]
          | unit => simp [characters?, notHigh, notLow]
  · rw [characters?]

theorem pieceText?_map_pieceOf (text : String) :
    pieceText? (text.toList.map pieceOf) = some text := by
  have characters (cs : List Char) : characters? (cs.map pieceOf) = some cs := by
    induction cs with
    | nil => rfl
    | cons c cs ih =>
        rw [List.map_cons, characters?_pieceOf, ih]
        rfl
  rw [pieceText?, characters, Option.map_some, String.ofList_toList]

/-- The pieces of a quoted text are its characters. -/
theorem pieces?_quoted (text : String) (rest : List Char) :
    pieces? (text.toList.flatMap escaped ++ '\x22' :: rest) =
      some (text.toList.map pieceOf, rest) := by
  induction text.toList with
  | nil => rw [List.flatMap_nil, List.nil_append, pieces?, List.map_nil]
  | cons c cs ih =>
      rw [List.flatMap_cons, List.append_assoc, pieces?_escaped, ih]
      rfl

end Reconciliation.Document.Json
