import Mathlib.Data.List.Forall2
import Reconciliation.Proofs.Document.Json.Number
import Reconciliation.Proofs.Document.Json.Quoted

/-! # JSON texts read back

What is written of a document reads back as the document, whatever stands around its parts: `Reads`
says so of one text, and lists and records keep it, with blanks before their parts and before the
closing bracket (`reads_list`, `reads_record`). Both writers are such, so both `line` and `pretty`
are undone by `read?`.
-/

namespace Reconciliation.Document

mutual

/-- Whether JSON can hold a document: its whole numbers have 64 bits, its other numbers are finite,
and every part has a value. -/
def isPlain : Document → Bool
  | .integer value => holdsInteger value
  | .float value => value.isFinite
  | .list items => arePlain items
  | .record members => membersArePlain members
  | .vacant => false
  | .unreadable => false
  | _ => true

def arePlain : List Document → Bool
  | [] => true
  | item :: items => isPlain item && arePlain items

def membersArePlain : List (String × Document) → Bool
  | [] => true
  | (_, value) :: members => isPlain value && membersArePlain members

end

namespace Json

variable {document : Document} {cs before after rest : List Char} {steps : Nat}

/-! ## Blanks -/

/-- A text of characters that JSON passes over. -/
def Blank (cs : List Char) : Prop :=
  ∀ c ∈ cs, isSpace c = true

theorem blank_nil : Blank [] := by
  rintro _ ⟨⟩

theorem skipSpace_append (blank : Blank before) : skipSpace (before ++ cs) = skipSpace cs :=
  List.dropWhile_append_of_pos blank

theorem skipSpace_cons {c : Char} (visible : isSpace c = false) :
    skipSpace (c :: cs) = c :: cs :=
  List.dropWhile_cons_of_neg (Bool.eq_false_iff.mp visible)

/-- Blanks before a value do not count. -/
theorem value?_append (blank : Blank before) : value? steps (before ++ cs) = value? steps cs := by
  cases steps with
  | zero => rfl
  | succ steps =>
      unfold value?
      rw [skipSpace_append blank]

/-- A blank or a bracket ends a number. -/
theorem ends_append (blank : Blank before) {c : Char} (ends : Numeral.Ends c) :
    ∀ d ∈ (before ++ c :: rest).head?, Numeral.Ends d := by
  cases before with
  | nil =>
      rintro _ ⟨⟩
      exact ends
  | cons first before =>
      rintro _ ⟨⟩
      have space := blank first List.mem_cons_self
      simp only [isSpace, Bool.or_eq_true, beq_iff_eq] at space
      rcases space with ((rfl | rfl) | rfl) | rfl <;> decide

theorem ends_comma : ∀ d ∈ (',' :: rest).head?, Numeral.Ends d := by
  rintro _ ⟨⟩
  decide

/-! ## Texts of values -/

/-- A text reads as a document wherever it stands, with as many steps as it has characters. -/
structure Reads (document : Document) (cs : List Char) : Prop where
  starts : ∃ c tail, cs = c :: tail ∧ isSpace c = false ∧ c ≠ ']'
  reads : ∀ steps rest, cs.length ≤ steps → (∀ c ∈ rest.head?, Numeral.Ends c) →
    value? steps (cs ++ rest) = some (document, rest)

theorem Reads.length_pos (reads : Reads document cs) : 0 < cs.length := by
  obtain ⟨c, tail, rfl, -⟩ := reads.starts
  exact Nat.succ_pos _

/-- What follows the opening bracket of a list. -/
theorem value?_bracket (steps : Nat) (inner : List Char) :
    value? (steps + 1) ('[' :: inner) =
      match opened ']' inner with
      | .done after => some (.list [], after)
      | .more inner => (items? steps inner).map fun (items, after) => (.list items, after) := by
  unfold value?
  rw [skipSpace_cons rfl]
  rfl

/-- What follows the opening brace of a record. -/
theorem value?_brace (steps : Nat) (inner : List Char) :
    value? (steps + 1) ('\x7b' :: inner) =
      match opened '\x7d' inner with
      | .done after => some (.record [], after)
      | .more inner =>
          (members? steps inner).map fun (members, after) => (recordOf members, after) := by
  unfold value?
  rw [skipSpace_cons rfl]
  rfl

theorem value?_quote (steps : Nat) (inner : List Char) :
    value? (steps + 1) ('\x22' :: inner) =
      (pieces? inner).map fun (pieces, after) => (stringValue pieces, after) := by
  unfold value?
  rw [skipSpace_cons rfl]
  rfl

theorem value?_minus (steps : Nat) (inner : List Char) :
    value? (steps + 1) ('-' :: inner) = number? true inner := by
  unfold value?
  rw [skipSpace_cons rfl]
  rfl

theorem isSpace_of_isDigit {c : Char} (digit : c.isDigit = true) : isSpace c = false := by
  cases space : isSpace c with
  | false => rfl
  | true =>
      simp only [isSpace, Bool.or_eq_true, beq_iff_eq] at space
      rcases space with ((rfl | rfl) | rfl) | rfl <;> cases digit

theorem value?_digit {c : Char} (digit : c.isDigit = true) (steps : Nat) (inner : List Char) :
    value? (steps + 1) (c :: inner) = number? false (c :: inner) := by
  unfold value?
  rw [skipSpace_cons (isSpace_of_isDigit digit)]
  split <;> first | rfl | (next same => cases same; cases digit)

/-! ## Leaves -/

theorem exists_steps (reads : cs.length ≤ steps) (some : cs ≠ []) : ∃ less, steps = less + 1 :=
  ⟨steps - 1, by have := List.length_pos_iff.mpr some; omega⟩

theorem reads_null : Reads .null "null".toList where
  starts := ⟨_, _, rfl, rfl, by decide⟩
  reads := by
    intro steps rest enough _
    obtain ⟨steps, rfl⟩ := exists_steps enough nofun
    rfl

theorem reads_boolean (value : Bool) : Reads (.boolean value) (leafText (.boolean value)) := by
  cases value <;>
  · refine ⟨⟨_, _, rfl, rfl, by decide⟩, ?_⟩
    intro steps rest enough _
    obtain ⟨steps, rfl⟩ := exists_steps enough nofun
    rfl

/-- A number reads as its digits do after its sign. -/
theorem reads_number {negative : Bool} {digits : List Char}
    (head : ∃ c tail, digits = c :: tail ∧ c.isDigit = true)
    (reads : ∀ rest : List Char, (∀ c ∈ rest.head?, Numeral.Ends c) →
      number? negative (digits ++ rest) = some (document, rest)) :
    Reads document (Binary64.withSign negative digits) := by
  obtain ⟨c, tail, rfl, digit⟩ := head
  cases negative with
  | true =>
      refine ⟨⟨_, _, rfl, rfl, by decide⟩, ?_⟩
      intro steps rest enough ends
      obtain ⟨steps, rfl⟩ := exists_steps enough nofun
      exact (value?_minus ..).trans (reads rest ends)
  | false =>
      refine ⟨⟨_, _, rfl, isSpace_of_isDigit digit, ?_⟩, ?_⟩
      · rintro rfl
        cases digit
      · intro steps rest enough ends
        obtain ⟨steps, rfl⟩ := exists_steps enough nofun
        exact (value?_digit digit ..).trans (reads rest ends)

theorem reads_integer {value : Int} (held : holdsInteger value = true) :
    Reads (.integer value) (signedDigits value) := by
  have sign : signedDigits value =
      Binary64.withSign (decide (value < 0)) (digitsOf value.natAbs) := by
    unfold signedDigits Binary64.withSign
    simp only [decide_eq_true_eq]
  rw [sign]
  apply reads_number
  · obtain ⟨c, tail, digit, same⟩ := (digits_digitsOf value.natAbs).exists_cons
    exact ⟨c, tail, same, digit⟩
  · exact fun rest ends => number?_digitsOf held ends

theorem reads_float {value : Binary64} (finite : value.isFinite = true) :
    Reads (.float value) (leafText (.float value)) := by
  cases value with
  | nan => cases finite
  | infinite => cases finite
  | finite negative units representable =>
      change Reads _ (Binary64.withSign negative (magnitudeText units))
      apply reads_number
      · exact exists_cons_magnitudeText representable
      · exact fun rest ends => number?_magnitudeText representable ends

theorem reads_text (value : String) : Reads (.text value) (quoted value) := by
  refine ⟨⟨_, _, rfl, rfl, by decide⟩, ?_⟩
  intro steps rest enough _
  obtain ⟨steps, rfl⟩ := exists_steps enough nofun
  rw [quoted, List.cons_append, List.cons_append, List.append_assoc, value?_quote]
  simp only [List.singleton_append, pieces?_quoted, Option.map_some, stringValue,
    pieceText?_map_pieceOf, Option.getD_some]

/-! ## Lists and records -/

/-- The parts after the first, each after a comma and blanks. -/
def continued (before : List Char) (parts : List (List Char)) : List Char :=
  parts.flatMap fun part => ',' :: (before ++ part)

@[simp] theorem continued_nil (before : List Char) : continued before [] = [] := rfl

@[simp] theorem continued_cons (before part : List Char) (parts : List (List Char)) :
    continued before (part :: parts) = ',' :: (before ++ (part ++ continued before parts)) := by
  simp [continued]

theorem intercalate_map_append (before part : List Char) (parts : List (List Char)) :
    [','].intercalate ((part :: parts).map (before ++ ·)) =
      before ++ (part ++ continued before parts) := by
  induction parts generalizing part with
  | nil => simp [continued]
  | cons next parts ih =>
      rw [List.map_cons, List.map_cons, List.intercalate_cons_cons, ← List.map_cons, ih next]
      simp [continued]

/-- The closing bracket ends the parts, blanks before it aside. -/
theorem progress?_closing (blank : Blank after) {closing : Char} (visible : isSpace closing = false)
    (noComma : closing ≠ ',') :
    progress? closing (after ++ closing :: rest) = some (.done rest) := by
  rw [progress?, skipSpace_append blank, skipSpace_cons visible]
  simp [noComma]

theorem progress?_comma (closing : Char) (rest : List Char) :
    progress? closing (',' :: rest) = some (.more rest) := by
  rw [progress?, skipSpace_cons rfl]
  rfl

theorem opened_closing (blank : Blank after) {closing : Char} (visible : isSpace closing = false) :
    opened closing (after ++ closing :: rest) = .done rest := by
  rw [opened, skipSpace_append blank, skipSpace_cons visible]
  simp

theorem opened_part (blank : Blank before) {closing c : Char} {tail : List Char}
    (visible : isSpace c = false) (notClosing : c ≠ closing) :
    opened closing (before ++ c :: tail) = .more (c :: tail) := by
  rw [opened, skipSpace_append blank, skipSpace_cons visible]
  simp [notClosing]

section

variable (blankBefore : Blank before) (blankAfter : Blank after)
include blankBefore blankAfter

/-- The items of a list are read up to its bracket, each from where the last one ended. -/
theorem items?_continued {items : List Document} {parts : List (List Char)}
    (each : List.Forall₂ Reads items parts) {lead : List Char} (blankLead : Blank lead)
    (reads : Reads document cs) (enough : cs.length + (continued before parts).length < steps) :
    items? steps (lead ++ (cs ++ (continued before parts ++ (after ++ ']' :: rest)))) =
      some (document :: items, rest) := by
  obtain ⟨steps, rfl⟩ : ∃ less, steps = less + 1 := ⟨steps - 1, by omega⟩
  induction each generalizing lead document cs steps with
  | nil =>
      rw [continued_nil, List.nil_append, items?, value?_append blankLead,
        reads.reads steps _ (by omega) (ends_append blankAfter (by decide))]
      dsimp only
      rw [progress?_closing blankAfter rfl (by decide)]
  | @cons item part items parts next _ ih =>
      have length := reads.length_pos
      simp only [continued_cons, List.length_cons, List.length_append] at enough
      obtain ⟨steps, rfl⟩ : ∃ less, steps = less + 1 := ⟨steps - 1, by omega⟩
      have later := ih blankBefore next steps (by omega)
      simp only [continued_cons, List.cons_append, List.append_assoc]
      rw [items?, value?_append blankLead,
        reads.reads (steps + 1) _ (by omega) ends_comma]
      dsimp only
      rw [progress?_comma]
      dsimp only
      rw [later]
      rfl

/-- A list reads as its items do, whatever blanks stand around them. -/
theorem reads_list {items : List Document} {parts : List (List Char)}
    (each : List.Forall₂ Reads items parts) :
    Reads (.list items)
      ('[' :: [','].intercalate (parts.map (before ++ ·)) ++ after ++ [']']) := by
  refine ⟨⟨_, _, rfl, rfl, by decide⟩, ?_⟩
  intro steps rest enough _
  obtain ⟨steps, rfl⟩ := exists_steps enough nofun
  cases each with
  | nil =>
      simp only [List.map_nil, List.intercalate_nil, List.cons_append, List.nil_append,
        List.append_assoc]
      rw [value?_bracket, opened_closing blankAfter rfl]
  | @cons item part items parts reads each =>
      rw [intercalate_map_append] at enough ⊢
      simp only [List.cons_append, List.append_assoc, List.length_cons, List.length_append,
        List.nil_append, List.length_nil] at enough ⊢
      have inner : items? steps
          (part ++ (continued before parts ++ (after ++ ']' :: rest))) =
            some (item :: items, rest) :=
        items?_continued blankBefore blankAfter each blank_nil reads (by omega)
      obtain ⟨c, tail, rfl, visible, notClosing⟩ := reads.starts
      rw [List.cons_append] at inner
      rw [value?_bracket, List.cons_append, opened_part blankBefore visible notClosing]
      dsimp only
      rw [inner]
      rfl

end

/-- A text that has the name of a member, a colon and blanks, and a text of its value. -/
def ReadsMember (gap : List Char) (member : String × Document) (part : List Char) : Prop :=
  ∃ cs, Reads member.2 cs ∧ part = quoted member.1 ++ ':' :: (gap ++ cs)

theorem name?_append (blank : Blank before) (name : String) (rest : List Char) :
    name? (before ++ (quoted name ++ ':' :: rest)) = some (some name, rest) := by
  rw [name?, skipSpace_append blank, quoted, List.cons_append, List.cons_append, List.append_assoc,
    skipSpace_cons rfl]
  simp only [List.singleton_append, pieces?_quoted, Option.bind_eq_bind, Option.bind_some,
    skipSpace_cons (show isSpace ':' = false from rfl), pieceText?_map_pieceOf]
  rfl

theorem recordOf_map_some (members : List (String × Document)) :
    recordOf (members.map fun (name, value) => (some name, value)) = .record members := by
  have named : (members.map fun member => (some member.1, member.2)).mapM
      (fun member => member.1.map (·, member.2)) = some members := by
    induction members with
    | nil => rfl
    | cons member members ih => simp [ih]
  rw [recordOf, named]

section

variable {gap : List Char} (blankGap : Blank gap) (blankBefore : Blank before)
  (blankAfter : Blank after)
include blankGap blankBefore blankAfter

/-- The members of a record are read up to its brace, each from where the last one ended. -/
theorem members?_continued {member : String × Document} {members : List (String × Document)}
    {parts : List (List Char)} (each : List.Forall₂ (ReadsMember gap) members parts)
    {lead : List Char} (blankLead : Blank lead) (reads : ReadsMember gap member cs)
    (enough : cs.length + (continued before parts).length < steps) :
    members? steps (lead ++ (cs ++ (continued before parts ++ (after ++ '\x7d' :: rest)))) =
      some ((member :: members).map fun (name, value) => (some name, value), rest) := by
  obtain ⟨steps, rfl⟩ : ∃ less, steps = less + 1 := ⟨steps - 1, by omega⟩
  induction each generalizing lead member cs steps with
  | nil =>
      obtain ⟨text, reads, rfl⟩ := reads
      simp only [List.length_append, List.length_cons] at enough
      rw [continued_nil, List.nil_append, List.append_assoc, List.cons_append, members?,
        name?_append blankLead]
      dsimp only
      rw [List.append_assoc, value?_append blankGap,
        reads.reads steps _ (by omega) (ends_append blankAfter (by decide))]
      dsimp only
      rw [progress?_closing blankAfter rfl (by decide)]
      rfl
  | @cons next part members parts readsNext _ ih =>
      obtain ⟨text, reads, rfl⟩ := reads
      simp only [continued_cons, List.length_cons, List.length_append] at enough
      obtain ⟨steps, rfl⟩ : ∃ less, steps = less + 1 := ⟨steps - 1, by omega⟩
      have later := ih blankBefore readsNext steps (by omega)
      simp only [continued_cons, List.cons_append, List.append_assoc]
      rw [members?, name?_append blankLead]
      dsimp only
      rw [value?_append blankGap, reads.reads (steps + 1) _ (by omega) ends_comma]
      dsimp only
      rw [progress?_comma]
      dsimp only
      rw [later]
      rfl

/-- A record reads as its members do, whatever blanks stand around them. -/
theorem reads_record {members : List (String × Document)} {parts : List (List Char)}
    (each : List.Forall₂ (ReadsMember gap) members parts) :
    Reads (.record members)
      ('\x7b' :: [','].intercalate (parts.map (before ++ ·)) ++ after ++ ['\x7d']) := by
  refine ⟨⟨_, _, rfl, rfl, by decide⟩, ?_⟩
  intro steps rest enough _
  obtain ⟨steps, rfl⟩ := exists_steps enough nofun
  cases each with
  | nil =>
      simp only [List.map_nil, List.intercalate_nil, List.cons_append, List.nil_append,
        List.append_assoc]
      rw [value?_brace, opened_closing blankAfter rfl]
  | @cons member part members parts reads each =>
      rw [intercalate_map_append] at enough ⊢
      simp only [List.cons_append, List.append_assoc, List.length_cons, List.length_append,
        List.nil_append, List.length_nil] at enough ⊢
      have inner : members? steps
          (part ++ (continued before parts ++ (after ++ '\x7d' :: rest))) =
            some ((member :: members).map fun (name, value) => (some name, value), rest) :=
        members?_continued blankGap blankBefore blankAfter each blank_nil reads (by omega)
      obtain ⟨text, -, rfl⟩ := reads
      rw [quoted, List.cons_append, List.cons_append, List.cons_append] at inner ⊢
      rw [value?_brace, opened_part blankBefore rfl (by decide)]
      dsimp only
      rw [inner, Option.map_some, recordOf_map_some]

end

/-! ## The two writers -/

mutual

/-- A plain document on one line reads back. -/
theorem reads_compact : (document : Document) → document.isPlain = true →
    Reads document (compact document)
  | .null, _ => reads_null
  | .boolean value, _ => reads_boolean value
  | .integer _, plain => reads_integer plain
  | .float _, plain => reads_float plain
  | .text value, _ => reads_text value
  | .list items, plain => by
      have each := reads_compactItems items plain
      have reads := reads_list blank_nil blank_nil each
      simpa [compact] using reads
  | .record members, plain => by
      have each := reads_compactMembers members plain
      have reads := reads_record blank_nil blank_nil blank_nil each
      simpa [compact] using reads

theorem reads_compactItems : (items : List Document) → arePlain items = true →
    List.Forall₂ Reads items (compactItems items)
  | [], _ => .nil
  | item :: items, plain => by
      obtain ⟨first, others⟩ := (Bool.and_eq_true ..).mp plain
      exact .cons (reads_compact item first) (reads_compactItems items others)

theorem reads_compactMembers : (members : List (String × Document)) →
    membersArePlain members = true → List.Forall₂ (ReadsMember []) members (compactMembers members)
  | [], _ => .nil
  | (name, value) :: members, plain => by
      obtain ⟨first, others⟩ := (Bool.and_eq_true ..).mp plain
      exact .cons ⟨_, reads_compact value first, rfl⟩ (reads_compactMembers members others)

end

/-- Brackets with each part on a line of its own hold their parts between blanks. -/
theorem bracketed_eq (depth : Nat) (opening closing : Char) (parts : List (List Char)) :
    ∃ before after, Blank before ∧ Blank after ∧ bracketed depth opening closing parts =
      opening :: [','].intercalate (parts.map (before ++ ·)) ++ after ++ [closing] := by
  have blankLine (depth : Nat) : Blank (newLine depth) := by
    intro c member
    rcases List.mem_cons.mp member with rfl | space
    · rfl
    · rw [List.eq_of_mem_replicate space]
      rfl
  cases parts with
  | nil => exact ⟨[], [], blank_nil, blank_nil, rfl⟩
  | cons part parts => exact ⟨_, _, blankLine (depth + 1), blankLine depth, rfl⟩

mutual

/-- A plain document with its parts on lines of their own reads back. -/
theorem reads_indented : (document : Document) → (depth : Nat) → document.isPlain = true →
    Reads document (indented depth document)
  | .null, _, _ => reads_null
  | .boolean value, _, _ => reads_boolean value
  | .integer _, _, plain => reads_integer plain
  | .float _, _, plain => reads_float plain
  | .text value, _, _ => reads_text value
  | .list items, depth, plain => by
      have each := reads_indentedItems items (depth + 1) plain
      obtain ⟨before, after, blankBefore, blankAfter, same⟩ :=
        bracketed_eq depth '[' ']' (indentedItems (depth + 1) items)
      rw [indented, same]
      exact reads_list blankBefore blankAfter each
  | .record members, depth, plain => by
      have each := reads_indentedMembers members (depth + 1) plain
      obtain ⟨before, after, blankBefore, blankAfter, same⟩ :=
        bracketed_eq depth '\x7b' '\x7d' (indentedMembers (depth + 1) members)
      have blankGap : Blank [' '] := by
        intro c member
        rw [List.mem_singleton.mp member]
        rfl
      rw [indented, same]
      exact reads_record blankGap blankBefore blankAfter each

theorem reads_indentedItems : (items : List Document) → (depth : Nat) → arePlain items = true →
    List.Forall₂ Reads items (indentedItems depth items)
  | [], _, _ => .nil
  | item :: items, depth, plain => by
      obtain ⟨first, others⟩ := (Bool.and_eq_true ..).mp plain
      exact .cons (reads_indented item depth first) (reads_indentedItems items depth others)

theorem reads_indentedMembers : (members : List (String × Document)) → (depth : Nat) →
    membersArePlain members = true →
    List.Forall₂ (ReadsMember [' ']) members (indentedMembers depth members)
  | [], _, _ => .nil
  | (name, value) :: members, depth, plain => by
      obtain ⟨first, others⟩ := (Bool.and_eq_true ..).mp plain
      exact .cons ⟨_, reads_indented value depth first, rfl⟩
        (reads_indentedMembers members depth others)

end

/-! ## Whole texts -/

theorem Reads.read? (reads : Reads document cs) : read? (String.ofList cs) = some document := by
  have value := reads.reads (2 * cs.length + 2) [] (by omega) (by rintro _ ⟨⟩)
  rw [List.append_nil] at value
  unfold Json.read?
  rw [String.toList_ofList]
  simp only [value, Option.bind_eq_bind, Option.bind_some]
  rfl

/-- **A plain document reads back from its text on one line.** -/
theorem read?_line (plain : document.isPlain = true) : read? (line document) = some document :=
  (reads_compact document plain).read?

/-- **A plain document reads back from its text for people.** -/
theorem read?_pretty (plain : document.isPlain = true) : read? (pretty document) = some document :=
  (reads_indented document 0 plain).read?

end Json

end Reconciliation.Document
