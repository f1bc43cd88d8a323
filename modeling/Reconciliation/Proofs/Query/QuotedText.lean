import Reconciliation.Proofs.Calendar.DateText
import Reconciliation.Proofs.Query.Lexeme
import Reconciliation.Query.RowHash

/-! # Quoted texts in a row hash query

The texts that stand for no value and the separator of hashed values are quoted into the expressions
of a row hash query. They read back as what they are, alone and within the expressions
(`quoted_texts_read_back`), whatever quotes, commas and brackets they hold.
-/

namespace Reconciliation

open Lexeme (marks)

/-! ## Lists of literals -/

/-- The lexemes of a list of literals. -/
def literalList (texts : List String) : List Lexeme :=
  (marks ", ").intercalate (texts.map fun text => [.literal text])

/-- The texts that lexemes list, if these are literals with a comma and a space between them. -/
def listedTexts? : List Lexeme → Option (List String)
  | [] => some []
  | [.literal text] => some [text]
  | .literal text :: .mark ',' :: .mark ' ' :: next :: lexemes =>
    (listedTexts? (next :: lexemes)).map (text :: ·)
  | _ => none

variable {lexemes : List Lexeme} {texts : List String} {text : String}

theorem literalList_cons_cons (text next : String) (texts : List String) :
    literalList (text :: next :: texts) =
      .literal text :: .mark ',' :: .mark ' ' :: literalList (next :: texts) := by
  rw [literalList, List.map_cons, List.map_cons, List.intercalate_cons_cons]
  rfl

theorem exists_literalList_cons (text : String) (texts : List String) :
    ∃ lexemes, literalList (text :: texts) = .literal text :: lexemes := by
  cases texts with
  | nil => exact ⟨[], rfl⟩
  | cons next texts => exact ⟨_, literalList_cons_cons text next texts⟩

/-- Lexemes list some texts exactly if they are the list of their literals. -/
theorem listedTexts?_eq_some_iff :
    listedTexts? lexemes = some texts ↔ lexemes = literalList texts := by
  constructor
  · intro read
    fun_induction listedTexts? lexemes generalizing texts with
    | case1 =>
        cases read
        rfl
    | case2 text =>
        cases read
        rfl
    | case3 text next lexemes ih =>
        obtain ⟨later, readLater, rfl⟩ := Option.map_eq_some_iff.mp read
        have same := ih readLater
        cases later with
        | nil => cases same
        | cons second later => rw [literalList_cons_cons, same]
    | case4 => cases read
  · rintro rfl
    induction texts with
    | nil => rfl
    | cons text texts ih =>
        cases texts with
        | nil => rfl
        | cons second texts =>
            obtain ⟨later, same⟩ := exists_literalList_cons second texts
            rw [same] at ih
            rw [literalList_cons_cons, same, listedTexts?, ih]
            rfl

theorem lexemes?_tokenList (normalization : Normalization) :
    lexemes? normalization.tokenList = some (literalList normalization.pseudoNulls) := by
  have spacing : Spacing (marks ", ") := ⟨⟨',', rfl⟩, ⟨' ', rfl⟩⟩
  have comma : lexemes? ", " = some (marks ", ") := lexemes?_of_noQuote (by decide)
  exact lexemes?_intercalate spacing comma fun text _ => lexemes?_quoteLiteral text

/-! ## Normalised values -/

section Closed

variable {c source : String} {column : Column} {platform : Platform}

theorem literalsClose_numberMask (normalization : Normalization) :
    LiteralsClose normalization.numberMask := by
  apply literalsClose_of_noQuote
  unfold Normalization.numberMask
  split
  · decide
  · have zeros : quoteMark ∉ List.replicate normalization.decimals '0' := fun member =>
      absurd (List.eq_of_mem_replicate member) (by decide)
    generalize List.replicate normalization.decimals '0' = digits at zeros ⊢
    rw [String.toList_append, List.mem_append, String.toList_ofList (l := digits), not_or]
    exact ⟨by decide, zeros⟩

theorem literalsClose_numeric (normalization : Normalization) (platform : Platform)
    (closed : LiteralsClose c) : LiteralsClose (normalization.numeric platform c) := by
  have mask := literalsClose_numberMask normalization
  have places : LiteralsClose (String.ofList (digitsOf normalization.decimals)) := by
    apply literalsClose_of_noQuote
    rw [String.toList_ofList]
    intro member
    exact absurd (isDigit_of_mem_digitsOf member) (by decide)
  unfold Normalization.numeric
  generalize String.ofList (digitsOf normalization.decimals) = decimals at places ⊢
  cases platform with
  | legacy =>
      simp only [toString, literalsClose_append_iff, places, mask, closed]
      decide +kernel
  | cloud =>
      simp only [toString, literalsClose_append_iff, places, closed]
      decide +kernel

/-- The texts that stand for no value are listed within the normalised text as they are. -/
theorem lexemes?_text (normalization : Normalization) (platform : Platform)
    (closed : LiteralsClose source) :
    ∃ cleaned, lexemes? (normalization.text platform source) = some
      (marks "CASE WHEN " ++ cleaned ++ marks " IN (" ++ literalList normalization.pseudoNulls ++
        marks ") THEN NULL ELSE " ++ cleaned ++ marks " END") := by
  obtain ⟨cleaned, closed, same⟩ : ∃ cleaned, LiteralsClose cleaned ∧
      normalization.text platform source = "CASE WHEN " ++ cleaned ++ " IN (" ++
        normalization.tokenList ++ ") THEN NULL ELSE " ++ cleaned ++ " END" := by
    cases platform with
    | legacy =>
        refine ⟨_, ?_, rfl⟩
        simp only [toString, literalsClose_append_iff, closed]
        decide +kernel
    | cloud =>
        refine ⟨_, ?_, rfl⟩
        simp only [toString, literalsClose_append_iff, closed]
        decide +kernel
  obtain ⟨lexemes, read⟩ := Option.isSome_iff_exists.mp closed
  have start : lexemes? "CASE WHEN " = some (marks "CASE WHEN ") :=
    lexemes?_of_noQuote (by decide)
  have test : lexemes? " IN (" = some (marks " IN (") := lexemes?_of_noQuote (by decide)
  have result : lexemes? ") THEN NULL ELSE " = some (marks ") THEN NULL ELSE ") :=
    lexemes?_of_noQuote (by decide)
  have finish : lexemes? " END" = some (marks " END") := lexemes?_of_noQuote (by decide)
  refine ⟨lexemes, ?_⟩
  rw [same]
  refine lexemes?_append_of_head? ?_ finish rfl
  refine lexemes?_spaced ⟨⟨_, rfl⟩, ⟨_, rfl⟩⟩ result ?_ read
  refine lexemes?_spaced ⟨⟨_, rfl⟩, ⟨_, rfl⟩⟩ test ?_ (lexemes?_tokenList normalization)
  exact lexemes?_append_of_getLast? start read rfl

theorem literalsClose_unlessNull {layout : String} (closed : LiteralsClose c)
    (closedLayout : LiteralsClose layout) : LiteralsClose (Normalization.unlessNull c layout) := by
  unfold Normalization.unlessNull
  simp only [toString, literalsClose_append_iff, closed, closedLayout]
  decide +kernel

theorem literalsClose_day (platform : Platform) (closed : LiteralsClose c) :
    LiteralsClose (Normalization.day platform c) := by
  apply literalsClose_unlessNull closed
  unfold Platform.formatDay
  cases platform <;> simp only [toString, literalsClose_append_iff, closed] <;>
    decide +kernel

theorem literalsClose_moment (platform : Platform) (closed : LiteralsClose c) :
    LiteralsClose (Normalization.moment platform c) := by
  apply literalsClose_unlessNull closed
  cases platform <;> simp only [toString, literalsClose_append_iff, closed] <;>
    decide +kernel

theorem literalsClose_textSource (closed : LiteralsClose column.identifier) :
    LiteralsClose (Normalization.textSource column) := by
  unfold Normalization.textSource
  split
  · split
    · exact closed
    · simp only [toString, literalsClose_append_iff, closed]
      decide +kernel
  · unfold Platform.toText
    cases column.platform <;> simp only [toString, literalsClose_append_iff, closed] <;>
    decide +kernel

theorem literalsClose_expression (normalization : Normalization) (family : TypeFamily)
    (closed : LiteralsClose column.identifier) :
    LiteralsClose (normalization.expression column family) := by
  have source := literalsClose_textSource closed
  have text :
      LiteralsClose (normalization.text column.platform (Normalization.textSource column)) := by
    obtain ⟨cleaned, read⟩ := lexemes?_text normalization column.platform source
    exact Option.isSome_of_eq_some read
  cases family with
  | numeric => exact literalsClose_numeric normalization column.platform closed
  | date => exact literalsClose_day column.platform closed
  | timestamp => exact literalsClose_moment column.platform closed
  | text => exact text
  | other => exact text

end Closed

/-! ## Joined values -/

/-- A value of a row as it is joined with the others. -/
def joinedValue (platform : Platform) (options : HashOptions) (pair : ColumnPair) : String :=
  let expression := ColumnPair.normalized pair platform options.normalization
  match platform with
  | .legacy => expression
  | .cloud => platform.coalesce expression "''"

/-- What stands between two joined values. -/
def joint (options : HashOptions) : String :=
  " || " ++ quoteLiteral options.separator ++ " || "

/-- The lexemes between two joined values. -/
def jointLexemes (options : HashOptions) : List Lexeme :=
  marks " || " ++ [.literal options.separator] ++ marks " || "

variable {platform : Platform} {columns : List ColumnPair} {options : HashOptions}

theorem joinedValues_eq (platform : Platform) (columns : List ColumnPair) (options : HashOptions) :
    joinedValues platform columns options =
      (joint options).intercalate (columns.map (joinedValue platform options)) := by
  rfl

theorem lexemes?_joint (options : HashOptions) :
    lexemes? (joint options) = some (jointLexemes options) := by
  have bars : lexemes? " || " = some (marks " || ") := lexemes?_of_noQuote (by decide)
  have literal := lexemes?_quoteLiteral options.separator
  exact lexemes?_append_of_head? (lexemes?_append_of_getLast? bars literal rfl) bars rfl

theorem spacing_jointLexemes (options : HashOptions) : Spacing (jointLexemes options) :=
  ⟨⟨' ', rfl⟩, ⟨' ', rfl⟩⟩

theorem literalsClose_joinedValue {pair : ColumnPair}
    (closed : LiteralsClose (pair.on platform).identifier) (options : HashOptions) :
    LiteralsClose (joinedValue platform options pair) := by
  have expression : LiteralsClose (ColumnPair.normalized pair platform options.normalization) :=
    literalsClose_expression options.normalization _ closed
  cases platform with
  | legacy => exact expression
  | cloud =>
      unfold joinedValue Platform.coalesce
      simp only [toString, literalsClose_append_iff, expression]
      decide +kernel

/-- Joined values are read in turn, if each is read by itself. -/
theorem exists_lexemes?_joinedValues
    (closed : ∀ pair ∈ columns, LiteralsClose (pair.on platform).identifier)
    (options : HashOptions) :
    ∃ value : ColumnPair → List Lexeme,
      (∀ pair ∈ columns, lexemes? (joinedValue platform options pair) = some (value pair)) ∧
      lexemes? (joinedValues platform columns options) =
        some ((jointLexemes options).intercalate (columns.map value)) := by
  let value (pair : ColumnPair) := (lexemes? (joinedValue platform options pair)).getD []
  have read : ∀ pair ∈ columns,
      lexemes? (joinedValue platform options pair) = some (value pair) := by
    intro pair member
    obtain ⟨lexemes, read⟩ :=
      Option.isSome_iff_exists.mp (literalsClose_joinedValue (closed pair member) options)
    simp only [value, read, Option.getD_some]
  refine ⟨value, read, ?_⟩
  rw [joinedValues_eq]
  exact lexemes?_intercalate (spacing_jointLexemes options) (lexemes?_joint options) read

/-- **Quoted texts do not leave their literals.** A quoted text reads as the text. The texts that
stand for no value read back from their list, and are the whole list also within a normalised text.
Between joined values stands the separator in one literal, also where the values are read together,
if the names of their columns are read by themselves. -/
theorem quoted_texts_read_back :
    (∀ text : String, lexemes? (quoteLiteral text) = some [.literal text]) ∧
    (∀ normalization : Normalization,
      (lexemes? normalization.tokenList).bind listedTexts? = some normalization.pseudoNulls ∧
      ∀ (platform : Platform) (source : String), LiteralsClose source → ∃ cleaned,
        lexemes? (normalization.text platform source) = some
          (marks "CASE WHEN " ++ cleaned ++ marks " IN (" ++
            literalList normalization.pseudoNulls ++ marks ") THEN NULL ELSE " ++ cleaned ++
            marks " END")) ∧
    ∀ (platform : Platform) (columns : List ColumnPair) (options : HashOptions),
      joinedValues platform columns options =
        (joint options).intercalate (columns.map (joinedValue platform options)) ∧
      lexemes? (joint options) = some (jointLexemes options) ∧
      ((∀ pair ∈ columns, LiteralsClose (pair.on platform).identifier) →
        ∃ value : ColumnPair → List Lexeme,
          (∀ pair ∈ columns, lexemes? (joinedValue platform options pair) = some (value pair)) ∧
          lexemes? (joinedValues platform columns options) =
            some ((jointLexemes options).intercalate (columns.map value))) := by
  refine ⟨lexemes?_quoteLiteral, fun normalization => ⟨?_, ?_⟩, fun platform columns options => ?_⟩
  · rw [lexemes?_tokenList]
    exact listedTexts?_eq_some_iff.mpr rfl
  · exact fun platform source closed => lexemes?_text normalization platform closed
  · exact ⟨joinedValues_eq platform columns options, lexemes?_joint options,
      fun closed => exists_lexemes?_joinedValues closed options⟩

/-- Texts of quotes, commas and brackets, and a separator between quotes. -/
theorem quoted_texts_read_back_delimiters :
    let normalization : Normalization := ⟨2, ["", "'", "O'BRIEN", "a', 'b", "), ('"]⟩
    let options : HashOptions := ⟨"'|'", normalization⟩
    let columns : List ColumnPair :=
      [⟨.declare .legacy "ID" "NUMBER", .declare .cloud "id" "bigint"⟩,
        ⟨.declare .legacy "STATUS" "VARCHAR2(1)", .declare .cloud "status" "varchar"⟩]
    normalization.tokenList = "'', '''', 'O''BRIEN', 'a'', ''b', '), ('''" ∧
      (lexemes? "'', '''', 'O''BRIEN', 'a'', ''b', '), ('''").bind listedTexts? =
        some normalization.pseudoNulls ∧
      joint options = " || '''|''' || " ∧
      (∀ pair ∈ columns, LiteralsClose (pair.on .cloud).identifier) ∧
      ∃ first second, lexemes? (joinedValues .cloud columns options) =
        some (first ++ (marks " || " ++ [.literal "'|'"] ++ marks " || ") ++ second) := by
  intro normalization options columns
  have written : normalization.tokenList = "'', '''', 'O''BRIEN', 'a'', ''b', '), ('''" := by
    decide +kernel
  have closed : ∀ pair ∈ columns, LiteralsClose (pair.on .cloud).identifier := by decide +kernel
  obtain ⟨-, lists, joins⟩ := quoted_texts_read_back
  obtain ⟨-, -, together⟩ := joins .cloud columns options
  obtain ⟨value, -, read⟩ := together closed
  have listed := (lists normalization).1
  rw [written] at listed
  rw [List.map_cons, List.map_singleton, List.intercalate_cons_cons,
    List.intercalate_singleton] at read
  exact ⟨written, listed, by decide +kernel, closed, _, _, read⟩

end Reconciliation
