import Mathlib.Data.List.Basic
import Reconciliation.Proofs.Text.Case
import Reconciliation.Proofs.Text.Search
import Reconciliation.Query.Normalization

/-! # Columns that are aggregated and hashed as numbers

The category of a type decides whether a column is aggregated as numbers, its family whether it is
hashed as numbers. Both look for type words, in tables of their own, and the family asks for time
first. So a continuous type is numeric exactly if it has no mark of time and names a number other
than the narrow integers, which only the first table lists (`TypeFamily.numeric_iff_of_continuous`);
a column of narrow integers is hashed as text.
-/

namespace Reconciliation

/-- A type in the case of the type words of its platform. -/
def Platform.foldedType (platform : Platform) (dataType : String) : String :=
  match platform with
  | .legacy => Text.upper dataType
  | .cloud => Text.lower dataType

/-- The words of a type, in the case of the type words of its platform. -/
def typeWords (platform : Platform) (dataType : String) : List (List Char) :=
  Text.runsOf isWordChar (platform.foldedType dataType).toList

/-- What marks a type as temporal, wherever it stands in the type. -/
def temporalMarks : Platform → List String
  | .legacy => ["TIMESTAMP", "DATE"]
  | .cloud => ["timestamp"]

/-- A type holds no mark of time. -/
def Timeless (platform : Platform) (dataType : String) : Prop :=
  ∀ mark ∈ temporalMarks platform, Text.contains (platform.foldedType dataType) mark = false

instance (platform : Platform) (dataType : String) : Decidable (Timeless platform dataType) :=
  inferInstanceAs (Decidable (∀ _ ∈ _, _))

/-- The integers that are aggregated as numbers and have no word in the numeric family. -/
def narrowIntegers : List String :=
  ["tinyint", "smallint"]

/-- Some word of a type is a number's, as continuous types have them, and no narrow integer's. -/
def NamesWideNumber (platform : Platform) (dataType : String) : Prop :=
  ∃ word ∈ typeWords platform dataType, ∃ keyword ∈ continuousKeywords platform,
    keyword ∉ narrowIntegers ∧ isKeyword keyword word = true

instance (platform : Platform) (dataType : String) :
    Decidable (NamesWideNumber platform dataType) :=
  inferInstanceAs (Decidable (∃ _ ∈ _, _))

section Words

variable {keywords : List String}

theorem isWordChar_of_isBlank {c : Char} (blank : Text.isBlank c = true) : isWordChar c = false :=
  Text.of_isBlank (P := fun c => isWordChar c = false) (by decide +kernel) blank

theorem namesAny_iff {text : String} :
    namesAny keywords text = true ↔
      ∃ word ∈ Text.runsOf isWordChar text.toList, ∃ keyword ∈ keywords,
        isKeyword keyword word = true := by
  simp only [namesAny, List.any_eq_true]

/-- The blanks around a type belong to none of its words. -/
theorem namesAny_lower_trim (keywords : List String) (dataType : String) :
    namesAny keywords (Text.lower (Text.trim dataType)) =
      namesAny keywords (Text.lower dataType) := by
  obtain ⟨before, after, blankBefore, blankAfter, surrounded⟩ := Text.lower_eq_surrounded dataType
  unfold namesAny
  rw [surrounded,
    Text.runsOf_surrounded (fun c member => isWordChar_of_isBlank (blankBefore c member))
      fun c member => isWordChar_of_isBlank (blankAfter c member)]

theorem contains_lower_trim {part : String} (visible : part.toList.any Text.isBlank = false)
    (nonempty : part.toList ≠ []) (dataType : String) :
    Text.contains (Text.lower (Text.trim dataType)) part =
      Text.contains (Text.lower dataType) part := by
  obtain ⟨before, after, blankBefore, blankAfter, surrounded⟩ := Text.lower_eq_surrounded dataType
  have apart {blanks : List Char} (allBlank : ∀ c ∈ blanks, Text.isBlank c = true) :
      ∀ c ∈ blanks, c ∉ part.toList := fun c member inPart =>
    List.any_eq_false.mp visible c inPart (allBlank c member)
  unfold Text.contains
  rw [surrounded, Text.occursIn_surrounded (apart blankBefore) (apart blankAfter) nonempty]

end Words

variable {platform : Platform} {dataType : String}

theorem ColumnCategory.ofType_eq_continuous_iff :
    ColumnCategory.ofType platform dataType = .continuous ↔
      namesAny (continuousKeywords platform) (platform.foldedType dataType) = true := by
  cases platform <;>
    simp only [ofType, Platform.foldedType, ite_eq_left_iff, reduceCtorEq, imp_false,
      Decidable.not_not]

namespace TypeFamily

/-- The family that the questions about a type decide, asked in this order. -/
def ofAnswers (isTimestamp isDate isNumber isText : Bool) : TypeFamily :=
  if isTimestamp then .timestamp
  else if isDate then .date
  else if isNumber then .numeric
  else if isText then .text
  else .other

variable {isTimestamp isDate isNumber isText : Bool}

theorem ofAnswers_eq_numeric_iff :
    ofAnswers isTimestamp isDate isNumber isText = .numeric ↔
      isTimestamp = false ∧ isDate = false ∧ isNumber = true := by
  revert isTimestamp isDate isNumber isText
  decide

theorem ofAnswers_eq_timestamp_iff :
    ofAnswers isTimestamp isDate isNumber isText = .timestamp ↔ isTimestamp = true := by
  revert isTimestamp isDate isNumber isText
  decide

theorem ofAnswers_eq_date_iff :
    ofAnswers isTimestamp isDate isNumber isText = .date ↔
      isTimestamp = false ∧ isDate = true := by
  revert isTimestamp isDate isNumber isText
  decide

theorem isTemporal_ofAnswers_iff :
    (ofAnswers isTimestamp isDate isNumber isText).isTemporal = true ↔
      ¬(isTimestamp = false ∧ isDate = false) := by
  revert isTimestamp isDate isNumber isText
  decide

theorem ofType_legacy (dataType : String) :
    TypeFamily.ofType .legacy dataType =
      ofAnswers (Text.contains (Text.upper dataType) "TIMESTAMP")
        (Text.contains (Text.upper dataType) "DATE")
        (namesAny (numericKeywords .legacy) (Text.upper dataType))
        (namesAny (textKeywords .legacy) (Text.upper dataType)) :=
  rfl

/-- Only the question for the bare word of a day depends on the blanks around a type. -/
theorem ofType_cloud (dataType : String) :
    TypeFamily.ofType .cloud dataType =
      ofAnswers (Text.contains (Text.lower dataType) "timestamp")
        (Text.lower (Text.trim dataType) == "date")
        (namesAny (numericKeywords .cloud) (Text.lower dataType))
        (namesAny (textKeywords .cloud) (Text.lower dataType)) := by
  rw [← contains_lower_trim (by decide) (by decide), ← namesAny_lower_trim,
    ← namesAny_lower_trim (textKeywords .cloud)]
  rfl

/-- The bare word of a day names no number. -/
theorem not_isDay_of_namesAny {keywords : List String}
    (noDay : namesAny keywords "date" = false)
    (named : namesAny keywords (Text.lower dataType) = true) :
    (Text.lower (Text.trim dataType) == "date") = false := by
  rw [beq_eq_false_iff_ne]
  intro isDay
  rw [← namesAny_lower_trim, isDay, noDay] at named
  exact Bool.false_ne_true named

theorem timeless_legacy_iff :
    Timeless .legacy dataType ↔
      Text.contains (Text.upper dataType) "TIMESTAMP" = false ∧
        Text.contains (Text.upper dataType) "DATE" = false := by
  simp only [Timeless, temporalMarks, Platform.foldedType, List.forall_mem_cons, List.not_mem_nil,
    false_implies, implies_true, and_true]

theorem timeless_cloud_iff :
    Timeless .cloud dataType ↔ Text.contains (Text.lower dataType) "timestamp" = false := by
  simp only [Timeless, temporalMarks, Platform.foldedType, List.forall_mem_singleton]

/-- A type is of the numeric family exactly if it holds no mark of time and names a number. -/
theorem ofType_eq_numeric_iff :
    TypeFamily.ofType platform dataType = .numeric ↔
      Timeless platform dataType ∧
        namesAny (numericKeywords platform) (platform.foldedType dataType) = true := by
  cases platform with
  | legacy =>
      rw [ofType_legacy, ofAnswers_eq_numeric_iff, timeless_legacy_iff, and_assoc]
      rfl
  | cloud =>
      rw [ofType_cloud, ofAnswers_eq_numeric_iff, timeless_cloud_iff]
      exact and_congr_right fun _ =>
        and_iff_right_of_imp (not_isDay_of_namesAny (by decide))

/-- A continuous type is of a temporal family exactly if it holds a mark of time. -/
theorem isTemporal_ofType_iff (continuous : ColumnCategory.ofType platform dataType = .continuous) :
    (TypeFamily.ofType platform dataType).isTemporal = true ↔ ¬Timeless platform dataType := by
  cases platform with
  | legacy => rw [ofType_legacy, isTemporal_ofAnswers_iff, timeless_legacy_iff]
  | cloud =>
      have named : namesAny (continuousKeywords .cloud) (Text.lower dataType) = true :=
        ColumnCategory.ofType_eq_continuous_iff.mp continuous
      have noDay := not_isDay_of_namesAny (by decide) named
      rw [ofType_cloud, isTemporal_ofAnswers_iff, timeless_cloud_iff, noDay]
      simp only [and_true]

end TypeFamily

/-- The words of continuous types that the numeric family lacks are those of the narrow
integers. -/
theorem mem_numericKeywords_iff {keyword : String} (known : keyword ∈ continuousKeywords platform) :
    keyword ∈ numericKeywords platform ↔ keyword ∉ narrowIntegers := by
  revert keyword
  cases platform <;> decide

theorem numericKeywords_cloud_subset : numericKeywords .cloud ⊆ continuousKeywords .cloud := by
  decide

theorem namesAny_numericKeywords_iff
    (continuous : ColumnCategory.ofType platform dataType = .continuous) :
    namesAny (numericKeywords platform) (platform.foldedType dataType) = true ↔
      NamesWideNumber platform dataType := by
  rw [namesAny_iff]
  constructor
  · rintro ⟨word, isWord, keyword, numeric, same⟩
    cases platform with
    | legacy =>
        -- the word may be one of the numeric family alone, but some word made the type continuous
        have wide : ∀ keyword ∈ continuousKeywords .legacy, keyword ∉ narrowIntegers := by decide
        obtain ⟨word, isWord, keyword, known, same⟩ :=
          namesAny_iff.mp (ColumnCategory.ofType_eq_continuous_iff.mp continuous)
        exact ⟨word, isWord, keyword, known, wide keyword known, same⟩
    | cloud =>
        have known := numericKeywords_cloud_subset numeric
        exact ⟨word, isWord, keyword, known, (mem_numericKeywords_iff known).mp numeric, same⟩
  · rintro ⟨word, isWord, keyword, known, wide, same⟩
    exact ⟨word, isWord, keyword, (mem_numericKeywords_iff known).mpr wide, same⟩

/-- **A column that is aggregated as numbers is hashed as numbers** exactly if its type holds no
mark of time and names a number other than the narrow integers. -/
theorem TypeFamily.numeric_iff_of_continuous
    (continuous : ColumnCategory.ofType platform dataType = .continuous) :
    TypeFamily.ofType platform dataType = .numeric ↔
      Timeless platform dataType ∧ NamesWideNumber platform dataType := by
  rw [TypeFamily.ofType_eq_numeric_iff, namesAny_numericKeywords_iff continuous]

/-- A decimal is of the numeric family, whatever the case and the blanks around it. -/
theorem TypeFamily.numeric_of_decimal :
    ColumnCategory.ofType .cloud " DECIMAL(18,2)\n" = .continuous ∧
      TypeFamily.ofType .cloud " DECIMAL(18,2)\n" = .numeric := by
  have continuous : ColumnCategory.ofType .cloud " DECIMAL(18,2)\n" = .continuous := by
    decide +kernel
  exact ⟨continuous, (TypeFamily.numeric_iff_of_continuous continuous).mpr
    ⟨by decide +kernel, by decide +kernel⟩⟩

/-- A narrow integer is aggregated as a number, may stand for a legacy number, and is of no family
of its own. -/
theorem tinyint_continuous_not_numeric :
    ColumnCategory.ofType .cloud "tinyint" = .continuous ∧
      typesCompatible "NUMBER(3)" "tinyint" = true ∧
      TypeFamily.ofType .cloud "tinyint" = .other := by
  decide +kernel

/-- A column of narrow integers is hashed as text, although it is aggregated as numbers. -/
theorem Normalization.expression_of_narrow {column : Column}
    (continuous : ColumnCategory.ofType column.platform column.dataType = .continuous)
    (timeless : Timeless column.platform column.dataType)
    (narrow : ¬NamesWideNumber column.platform column.dataType) (normalization : Normalization) :
    normalization.expression column column.family =
      normalization.text column.platform (textSource column) := by
  have notNumeric : column.family ≠ .numeric := fun numeric =>
    narrow <| (namesAny_numericKeywords_iff continuous).mp
      (TypeFamily.ofType_eq_numeric_iff.mp numeric).2
  have notTemporal : ¬column.family.isTemporal = true := fun temporal =>
    (TypeFamily.isTemporal_ofType_iff continuous).mp temporal timeless
  cases family : column.family with
  | numeric => exact (notNumeric family).elim
  | date => exact (notTemporal (by rw [family]; rfl)).elim
  | timestamp => exact (notTemporal (by rw [family]; rfl)).elim
  | text => rfl
  | other => rfl

end Reconciliation
